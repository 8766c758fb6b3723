import Fiscal.Proofs.Scope.Binding
import Mathlib.Logic.Relation

set_option autoImplicit false

namespace Fiscal.Scopes

variable {α : Type}

def Inside (scopes : Scopes α) (inner outer : Nat) : Prop :=
  scopes[inner]?.map Scope.parent = some (some outer)

inductive Finds (scopes : Scopes α) (name : String) : Nat → Option Nat → Prop where
  | here (scope : Nat) (bound : scopes.binds name scope = true) : Finds scopes name scope (some scope)
  | outside (inner outer : Nat) (result : Option Nat) (unbound : scopes.binds name inner = false)
      (inside : scopes.Inside inner outer) (found : Finds scopes name outer result) :
      Finds scopes name inner result
  | nowhere (scope : Nat) (unbound : scopes.binds name scope = false)
      (outermost : ∀ outer, ¬ scopes.Inside scope outer) : Finds scopes name scope none

theorem chainFrom_outward (scopes : Scopes α) (steps scope other : Nat)
    (member : other ∈ scopes.chainFrom steps scope) : Relation.ReflTransGen scopes.Inside scope other := by
  induction steps generalizing scope with
  | zero => cases member
  | succ steps ih =>
      unfold chainFrom at member
      cases access : scopes[scope]? with
      | none =>
          rw [access] at member
          cases member
      | some found =>
          rw [access] at member
          dsimp only at member
          cases parent : found.parent with
          | none =>
              rw [parent] at member
              rw [List.mem_singleton.mp member]
          | some outer =>
              rw [parent] at member
              have inside : scopes.Inside scope outer := by rw [Inside, access, ← parent]; rfl
              rcases List.mem_cons.mp member with rfl | further
              · exact .refl
              · exact .head inside (ih outer further)

theorem owner_outward (scopes : Scopes α) (scope owner : Nat) (name : String)
    (owned : scopes.owner? scope name = some owner) : Relation.ReflTransGen scopes.Inside scope owner :=
  chainFrom_outward scopes _ scope owner (List.mem_of_find?_eq_some owned)

theorem root_outward (scopes : Scopes α) (scope : Nat) :
    Relation.ReflTransGen scopes.Inside scope (scopes.root scope) := by
  unfold root
  cases last : (scopes.chain scope).getLast? with
  | none => exact .refl
  | some other => exact chainFrom_outward scopes _ scope other (List.mem_of_getLast? last)

theorem holds_of_outer (scopes : Scopes α) (scope : Nat) (name : String) (value : α)
    (found : scopes.outer? scope name = some value) :
    ∃ owner, Relation.ReflTransGen scopes.Inside scope owner ∧ scopes.Holds owner value := by
  obtain ⟨outer, inside, bound⟩ := Option.bind_eq_some_iff.mp found
  obtain ⟨owner, owned, holds⟩ := holds_of_get scopes outer name value bound
  refine ⟨owner, .head ?_ (owner_outward scopes outer owner name owned), holds⟩
  obtain ⟨place, access, parent⟩ := Option.bind_eq_some_iff.mp inside
  rw [Inside, access, ← parent]
  rfl

structure IsTree (scopes : Scopes α) : Prop where
  global : ∃ bindings, scopes[0]? = some ⟨bindings, none⟩
  older : ∀ inner outer, scopes.Inside inner outer → outer < inner
  inside : ∀ scope, 0 < scope → scope < scopes.size → ∃ outer, scopes.Inside scope outer

theorem tree_global (bindings : Named α) : (Scopes.global bindings).IsTree where
  global := ⟨bindings, rfl⟩
  older inner outer inside := by
    cases inner with
    | zero => cases inside
    | succ inner => cases inside
  inside scope positive small := by
    have one : (Scopes.global bindings).size = 1 := rfl
    omega

theorem inside_define (scopes : Scopes α) (scope inner outer : Nat) (name : String) (value : α) :
    (scopes.define scope name value).Inside inner outer ↔ scopes.Inside inner outer := by
  rw [Inside, Inside, parent_define]

theorem tree_define (scopes : Scopes α) (scope : Nat) (name : String) (value : α)
    (tree : scopes.IsTree) : (scopes.define scope name value).IsTree where
  global := by
    obtain ⟨bindings, access⟩ := tree.global
    have same := parent_define scopes scope 0 name value
    rw [access] at same
    obtain ⟨found, there, parent⟩ := Option.map_eq_some_iff.mp same
    refine ⟨found.bindings, there.trans ?_⟩
    obtain ⟨entries, outer⟩ := found
    cases parent
    rfl
  older inner outer inside :=
    tree.older inner outer ((inside_define scopes scope inner outer name value).mp inside)
  inside other positive small := by
    rw [size_define] at small
    obtain ⟨outer, inside⟩ := tree.inside other positive small
    exact ⟨outer, (inside_define scopes scope other outer name value).mpr inside⟩

theorem inside_enter (scopes : Scopes α) (outer scope next : Nat)
    (inside : (scopes.enter outer).Inside scope next) :
    scopes.Inside scope next ∨ scope = scopes.size ∧ next = outer := by
  by_cases old : scope < scopes.size
  · unfold Inside at inside
    rw [access_enter scopes outer scope old] at inside
    exact .inl inside
  · by_cases fresh : scope = scopes.size
    · subst fresh
      unfold Inside at inside
      rw [access_entered] at inside
      cases inside
      exact .inr ⟨rfl, rfl⟩
    · unfold Inside at inside
      rw [Array.getElem?_eq_none (by rw [size_enter]; omega)] at inside
      cases inside

theorem tree_enter (scopes : Scopes α) (outer : Nat) (known : outer < scopes.size)
    (tree : scopes.IsTree) : (scopes.enter outer).IsTree where
  global := by
    obtain ⟨bindings, access⟩ := tree.global
    exact ⟨bindings, (access_enter scopes outer 0 (Nat.zero_lt_of_lt known)).trans access⟩
  older inner next inside := by
    rcases inside_enter scopes outer inner next inside with old | ⟨rfl, rfl⟩
    · exact tree.older inner next old
    · exact known
  inside scope positive small := by
    rw [size_enter] at small
    by_cases old : scope < scopes.size
    · obtain ⟨next, inside⟩ := tree.inside scope positive old
      refine ⟨next, ?_⟩
      unfold Inside
      rwa [access_enter scopes outer scope old]
    · have fresh : scope = scopes.size := by omega
      subst fresh
      refine ⟨outer, ?_⟩
      unfold Inside
      rw [access_entered]
      rfl

section Tree

variable {scopes : Scopes α} (tree : scopes.IsTree)

include tree

theorem global_outermost (outer : Nat) : ¬ scopes.Inside 0 outer := by
  intro inside
  exact Nat.not_lt_zero outer (tree.older 0 outer inside)

theorem outside_older (inner outer : Nat) (within : Relation.TransGen scopes.Inside inner outer) :
    outer < inner := by
  induction within with
  | single inside => exact tree.older _ _ inside
  | tail _ inside older => exact Nat.lt_trans (tree.older _ _ inside) older

@[elab_as_elim]
theorem outward_induction {holds : Nat → Prop} (global : holds 0)
    (inside : ∀ inner outer, scopes.Inside inner outer → holds outer → holds inner) (scope : Nat)
    (known : scope < scopes.size) : holds scope := by
  induction scope using Nat.strongRecOn with
  | ind scope ih =>
      by_cases zero : scope = 0
      · subst zero
        exact global
      · obtain ⟨outer, around⟩ := tree.inside scope (Nat.pos_of_ne_zero zero) known
        have older := tree.older scope outer around
        exact inside scope outer around (ih outer older (Nat.lt_trans older known))

theorem leads_to_global (scope : Nat) (known : scope < scopes.size) :
    Relation.ReflTransGen scopes.Inside scope 0 := by
  refine outward_induction tree ?_ (fun inner outer inside leads => ?_) scope known
  · exact .refl
  · exact .head inside leads

theorem chain_steps (scope first second : Nat) (enough : scope < first) (also : scope < second) :
    scopes.chainFrom first scope = scopes.chainFrom second scope := by
  induction scope using Nat.strongRecOn generalizing first second with
  | ind scope ih =>
      obtain ⟨steps, rfl⟩ := Nat.exists_eq_add_one_of_ne_zero (Nat.ne_zero_of_lt enough)
      obtain ⟨others, rfl⟩ := Nat.exists_eq_add_one_of_ne_zero (Nat.ne_zero_of_lt also)
      unfold chainFrom
      cases access : scopes[scope]? with
      | none => rfl
      | some found =>
          cases parent : found.parent with
          | none => simp only [parent]
          | some outer =>
              have older := tree.older scope outer (by rw [Inside, access, ← parent]; rfl)
              have same := ih outer older steps others (by omega) (by omega)
              simp only [parent, same]

theorem chain_global : scopes.chain 0 = [0] := by
  obtain ⟨bindings, access⟩ := tree.global
  simp [chain, chainFrom, access]

theorem chain_inside (inner outer : Nat) (inside : scopes.Inside inner outer) :
    scopes.chain inner = inner :: scopes.chain outer := by
  have older := tree.older inner outer inside
  obtain ⟨found, access, parent⟩ := Option.map_eq_some_iff.mp inside
  have same := chain_steps tree outer inner (outer + 1) older (Nat.lt_succ_self outer)
  simp only [chain, chainFrom, access, parent, same]

theorem root_global (scope : Nat) (known : scope < scopes.size) : scopes.root scope = 0 := by
  have last : (scopes.chain scope).getLast? = some 0 := by
    refine outward_induction tree ?_ (fun inner outer inside last => ?_) scope known
    · rw [chain_global tree]
      rfl
    · rw [chain_inside tree inner outer inside, List.getLast?_cons, last]
      rfl
  rw [root, last]
  rfl

theorem finds_owner (name : String) (scope : Nat) (known : scope < scopes.size) :
    scopes.Finds name scope (scopes.owner? scope name) := by
  unfold owner?
  refine outward_induction tree ?_ (fun inner outer inside found => ?_) scope known
  · rw [chain_global tree]
    cases bound : scopes.binds name 0 with
    | true => simpa [bound] using Finds.here 0 bound
    | false => simpa [bound] using Finds.nowhere 0 bound (global_outermost tree)
  · rw [chain_inside tree inner outer inside, List.find?_cons]
    cases bound : scopes.binds name inner with
    | true => exact .here inner bound
    | false => exact .outside inner outer _ bound inside found

end Tree

end Fiscal.Scopes
