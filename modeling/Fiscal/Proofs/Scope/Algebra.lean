import Fiscal.Proofs.Machine.Moves
import Fiscal.Proofs.Scope.Tree

set_option autoImplicit false

namespace Fiscal

namespace Scopes

variable {α : Type}

-- Trees that come from a single scope by opening scopes and by binding names, or binding them anew.
inductive Built : Scopes α → Prop where
  | global (bindings : Named α) : Built (Scopes.global bindings)
  | enter (scopes : Scopes α) (outer : Nat) (known : outer < scopes.size) (built : Built scopes) :
      Built (scopes.enter outer)
  | define (scopes : Scopes α) (scope : Nat) (name : String) (value : α) (known : scope < scopes.size)
      (built : Built scopes) : Built (scopes.define scope name value)
  | assign (scopes after : Scopes α) (scope : Nat) (name : String) (value : α)
      (assigned : scopes.assign? scope name value = some after) (built : Built scopes) : Built after

def Unbound (scopes : Scopes α) (name : String) (scope : Nat) : Prop :=
  ∀ other, Relation.ReflTransGen scopes.Inside scope other → scopes.binds name other = false

structure Rebound (before after : Scopes α) (name : String) (value : α) (seen : Nat → Prop) : Prop where
  there (scope : Nat) : seen scope → after.get? scope name = some value
  elsewhere (scope : Nat) (other : String) : ¬ (other = name ∧ seen scope) →
    after.get? scope other = before.get? scope other

theorem Built.tree {scopes : Scopes α} (built : scopes.Built) : scopes.IsTree := by
  induction built with
  | global bindings => exact tree_global bindings
  | enter scopes outer known _ ih => exact tree_enter scopes outer known ih
  | define scopes scope name value _ _ ih => exact tree_define scopes scope name value ih
  | assign scopes after scope name value assigned _ ih =>
      obtain ⟨owner, _, rfl⟩ := Option.map_eq_some_iff.mp assigned
      exact tree_define scopes owner name value ih

section Search

variable {scopes : Scopes α} {name : String} {scope : Nat}

theorem inside_unique {first second : Nat} (one : scopes.Inside scope first) (other : scopes.Inside scope second) :
    second = first := by
  rw [Inside, one] at other
  cases other
  rfl

theorem finds_outward {owner : Nat} (finds : scopes.Finds name scope (some owner)) :
    Relation.ReflTransGen scopes.Inside scope owner ∧ scopes.binds name owner = true := by
  generalize sought : some owner = result at finds
  induction finds with
  | here scope bound =>
      cases sought
      exact ⟨.refl, bound⟩
  | outside inner outer result _ inside _ ih => exact ⟨.head inside (ih sought).1, (ih sought).2⟩
  | nowhere => cases sought

theorem finds_unbound (finds : scopes.Finds name scope none) : scopes.Unbound name scope := by
  generalize sought : none = result at finds
  induction finds with
  | here => cases sought
  | outside inner outer result unbound inside _ ih =>
      intro other outward
      rcases outward.cases_head with rfl | ⟨next, first, further⟩
      · exact unbound
      · rw [inside_unique inside first] at further
        exact ih sought other further
  | nowhere scope unbound outermost =>
      intro other outward
      rcases outward.cases_head with rfl | ⟨next, first, _⟩
      · exact unbound
      · exact absurd first (outermost next)

theorem finds_known {owner : Nat} (finds : scopes.Finds name scope (some owner)) : scope < scopes.size := by
  have access : ∃ found, scopes[scope]? = some found := by
    cases finds with
    | here _ bound =>
        obtain ⟨value, bound⟩ := Option.isSome_iff_exists.mp bound
        obtain ⟨found, access, _⟩ := Option.bind_eq_some_iff.mp bound
        exact ⟨found, access⟩
    | outside _ _ _ _ inside =>
        obtain ⟨found, access, _⟩ := Option.map_eq_some_iff.mp inside
        exact ⟨found, access⟩
  obtain ⟨found, access⟩ := access
  exact (Array.getElem?_eq_some_iff.mp access).1

variable (tree : scopes.IsTree)

include tree

theorem unbound_iff (known : scope < scopes.size) :
    scopes.Unbound name scope ↔ scopes.owner? scope name = none := by
  have finds := finds_owner tree name scope known
  cases owned : scopes.owner? scope name with
  | none =>
      rw [owned] at finds
      exact ⟨fun _ => rfl, fun _ => finds_unbound finds⟩
  | some owner =>
      rw [owned] at finds
      obtain ⟨outward, bound⟩ := finds_outward finds
      refine ⟨fun unbound => ?_, (by cases ·)⟩
      rw [unbound owner outward] at bound
      cases bound

theorem finds_iff (known : scope < scopes.size) (owner : Nat) :
    scopes.Finds name scope (some owner) ↔ scopes.owner? scope name = some owner := by
  have found := finds_owner tree name scope known
  constructor
  · intro finds
    generalize some owner = result at finds
    induction finds with
    | here scope bound => exact owner?_here scopes scope name known bound
    | outside inner outer result unbound inside _ ih =>
        have older := Nat.lt_trans (tree.older inner outer inside) known
        rw [owner?, chain_inside tree inner outer inside, List.find?_cons, unbound]
        exact ih older (finds_owner tree name outer older)
    | nowhere scope unbound outermost =>
        exact (unbound_iff tree known).mp (finds_unbound (.nowhere scope unbound outermost))
  · intro owned
    rwa [owned] at found

theorem get?_eq_some_iff (found : α) :
    scopes.get? scope name = some found ↔
      ∃ nearest, scopes.Finds name scope (some nearest) ∧ scopes.local? nearest name = some found := by
  rw [get?, Option.bind_eq_some_iff]
  constructor
  · rintro ⟨owner, owned, bound⟩
    exact ⟨owner, (finds_iff tree (owned_known scopes scope owner name owned) owner).mpr owned, bound⟩
  · rintro ⟨nearest, finds, bound⟩
    exact ⟨nearest, (finds_iff tree (finds_known finds) nearest).mp finds, bound⟩

theorem root_outermost (known : scope < scopes.size) (outer : Nat) : ¬ scopes.Inside (scopes.root scope) outer := by
  rw [root_global tree scope known]
  exact global_outermost tree outer

end Search

section Updates

variable (scopes : Scopes α) (place scope : Nat) (name : String) (value : α)

theorem owner?_define_known (bound : name ∈ scopes.namesAt place) (other : String) :
    (scopes.define place name value).owner? scope other = scopes.owner? scope other := by
  have same : (scopes.define place name value).binds other = scopes.binds other := by
    funext one
    rw [Bool.eq_iff_iff, binds_iff, binds_iff, names_define_known scopes place one name value bound]
  rw [owner?, owner?, chain_define, same]

theorem get?_isSome : (scopes.get? scope name).isSome = scopes.contains scope name := by
  rw [get?, contains]
  cases owned : scopes.owner? scope name with
  | none => rfl
  | some owner => exact (binds_iff scopes name owner).mpr (owner_binds scopes scope owner name owned)

variable {scopes} (tree : scopes.IsTree)

include tree

theorem rebound_define (known : place < scopes.size) :
    Rebound scopes (scopes.define place name value) name value fun other =>
      (scopes.define place name value).Finds name other (some place) where
  there other finds := by
    have owned := (finds_iff (tree_define scopes place name value tree) (finds_known finds) place).mp finds
    rw [get?_define scopes place other name name value known, if_pos ⟨owned, rfl⟩]
  elsewhere other sought apart := by
    rw [get?_define scopes place other name sought value known, if_neg]
    rintro ⟨owned, rfl⟩
    have within := owned_known _ other place name owned
    exact apart ⟨rfl, (finds_iff (tree_define scopes place name value tree) within place).mpr owned⟩

theorem rebound_assign (owner : Nat) (owned : scopes.owner? scope name = some owner) :
    Rebound scopes (scopes.define owner name value) name value fun other =>
      ∃ nearest, scopes.Finds name scope (some nearest) ∧ scopes.Finds name other (some nearest) := by
  have bound := owner_binds scopes scope owner name owned
  have known := finds_known (.here owner ((binds_iff scopes name owner).mpr bound))
  have finds := (finds_iff tree (owned_known scopes scope owner name owned) owner).mpr owned
  constructor
  · rintro other ⟨nearest, first, second⟩
    cases Option.some.inj (((finds_iff tree (finds_known first) nearest).mp first).symm.trans owned)
    have same := (finds_iff tree (finds_known second) owner).mp second
    rw [get?_define scopes owner other name name value known, owner?_define_known scopes owner other name value bound,
      if_pos ⟨same, rfl⟩]
  · intro other sought apart
    rw [get?_define scopes owner other name sought value known, owner?_define_known scopes owner other name value bound,
      if_neg]
    rintro ⟨same, rfl⟩
    exact apart ⟨rfl, owner, finds, (finds_iff tree (owned_known scopes other owner name same) owner).mpr same⟩

end Updates

end Scopes

def Looks (action : Eval Value) (machine : Machine) (found : Option Value) (complaint : String) : Prop :=
  action machine =
    match found with
    | some value => .ok value machine
    | none => .error (.undefinedVariable complaint) machine

section Lookups

variable (machine : Machine) (name : String)

theorem lookup_looks (scope : Nat) :
    Looks (Eval.lookup name) (machine.returning scope) (machine.scopes.get? scope name) name := by
  change (match machine.scopes.get? scope name with
    | some value => pure value
    | none => throw (.undefinedVariable name) : Eval Value) _ = _
  cases machine.scopes.get? scope name <;> rfl

theorem lookupGlobal_looks :
    Looks (Eval.lookupGlobal name) machine (machine.scopes.local? (machine.scopes.root machine.current) name)
      ("global::" ++ name) := by
  change (match machine.scopes.global? machine.current name with
    | some value => pure value
    | none => throw (.undefinedVariable ("global::" ++ name)) : Eval Value) _ = _
  unfold Scopes.global?
  cases machine.scopes.local? (machine.scopes.root machine.current) name <;> rfl

theorem lookupOuter_looks (parent : Option Nat)
    (around : machine.scopes[machine.current]?.bind Scope.parent = parent) :
    Looks (Eval.lookupOuter name) machine (parent.bind fun outer => machine.scopes.get? outer name)
      ("parent::" ++ name) := by
  change (match machine.scopes.outer? machine.current name with
    | some value => pure value
    | none => throw (.undefinedVariable ("parent::" ++ name)) : Eval Value) _ = _
  unfold Scopes.outer?
  rw [around]
  cases parent.bind fun outer => machine.scopes.get? outer name <;> rfl

end Lookups

-- An assignment fails where no scope around binds the name, and a definition never fails. What else a scope is seen
-- to bind, under any name and from any scope of the tree, is as it was before.
theorem scope_algebra (machine : Machine) (name : String) (value : Value) (built : machine.scopes.Built)
    (known : machine.current < machine.scopes.size) :
    let scopes := machine.scopes
    let scope := machine.current
    (Eval.assign name value machine = .error (.undefinedVariable name) machine ↔ scopes.Unbound name scope) ∧
    (¬ scopes.Unbound name scope → ∃ after,
      Eval.assign name value machine = .ok () { machine with scopes := after } ∧
      scopes.Rebound after name value fun other =>
        ∃ nearest, scopes.Finds name scope (some nearest) ∧ scopes.Finds name other (some nearest)) ∧
    (∃ after, Eval.define name value machine = .ok () { machine with scopes := after } ∧
      scopes.Rebound after name value fun other => after.Finds name other (some scope)) ∧
    (∀ other, Looks (Eval.lookup name) (machine.returning other) (scopes.get? other name) name ∧
      ∀ found, scopes.get? other name = some found ↔
        ∃ nearest, scopes.Finds name other (some nearest) ∧ scopes.local? nearest name = some found) ∧
    (∀ outer, scopes.Inside scope outer →
      Looks (Eval.lookupOuter name) machine (scopes.get? outer name) ("parent::" ++ name)) ∧
    ((∀ outer, ¬ scopes.Inside scope outer) → Looks (Eval.lookupOuter name) machine none ("parent::" ++ name)) ∧
    (∃ root, Relation.ReflTransGen scopes.Inside scope root ∧ (∀ outer, ¬ scopes.Inside root outer) ∧
      Looks (Eval.lookupGlobal name) machine (scopes.local? root name) ("global::" ++ name)) ∧
    Eval.isBound name machine = .ok (scopes.get? scope name).isSome machine := by
  intro scopes scope
  have tree : scopes.IsTree := built.tree
  have unbound : scopes.Unbound name scope ↔ scopes.owner? scope name = none := Scopes.unbound_iff tree known
  refine ⟨?_, ?_, ⟨_, rfl, Scopes.rebound_define scope name value tree known⟩,
    fun other => ⟨lookup_looks machine name other, Scopes.get?_eq_some_iff tree⟩, ?_, ?_,
    ⟨scopes.root scope, Scopes.root_outward scopes scope, Scopes.root_outermost tree known,
      lookupGlobal_looks machine name⟩, ?_⟩
  · rw [unbound]
    cases owned : scopes.owner? scope name with
    | none =>
        have fails : Eval.assign name value machine = .error (.undefinedVariable name) machine := by
          rw [Eval.assign, owned]
        exact ⟨fun _ => rfl, fun _ => fails⟩
    | some owner =>
        rw [Eval.assign, owned]
        exact ⟨(by cases ·), (by cases ·)⟩
  · rw [unbound]
    intro bound
    obtain ⟨owner, owned⟩ := Option.ne_none_iff_exists'.mp bound
    refine ⟨_, ?_, Scopes.rebound_assign scope name value tree owner owned⟩
    rw [Eval.assign, owned]
  · intro outer inside
    obtain ⟨found, access, parent⟩ := Option.map_eq_some_iff.mp inside
    refine lookupOuter_looks machine name (some outer) ?_
    rw [access]
    exact parent
  · intro outermost
    refine lookupOuter_looks machine name none (Option.eq_none_iff_forall_ne_some.mpr fun outer around => ?_)
    obtain ⟨found, access, parent⟩ := Option.bind_eq_some_iff.mp around
    exact outermost outer (Option.map_eq_some_iff.mpr ⟨found, access, parent⟩)
  · rw [Scopes.get?_isSome]
    rfl

theorem shadowed_name_assigned :
    let tree := (((Scopes.global [("x", Value.number 1)]).enter 0).enter 1).define 1 "x" (.number 2)
    let machine := { Machine.start .standard ⟨[]⟩ "2024-02-29" with scopes := tree, current := 2 }
    (machine.scopes.Built ∧ machine.current < machine.scopes.size) ∧
    ∃ after, Eval.assign "x" (.number 5) machine = .ok () { machine with scopes := after } ∧
      after.get? 2 "x" = some (.number 5) ∧ after.get? 0 "x" = some (.number 1) := by
  intro tree machine
  have built : tree.Built :=
    .define _ 1 "x" _ (by decide) (.enter _ 1 (by decide) (.enter _ 0 (by decide) (.global _)))
  have known : machine.current < machine.scopes.size := by decide
  obtain ⟨_, assigns, _⟩ := scope_algebra machine "x" (.number 5) built known
  have around : tree.Inside 2 1 := rfl
  have nearest : tree.Finds "x" 2 (some 1) := .outside 2 1 _ rfl around (.here 1 rfl)
  obtain ⟨after, ran, rebound⟩ := assigns fun unbound => by cases unbound 1 (.single around)
  refine ⟨⟨built, known⟩, after, ran, rebound.there 2 ⟨1, nearest, nearest⟩, rebound.elsewhere 0 "x" ?_⟩
  rintro ⟨_, owner, first, second⟩
  rw [Scopes.finds_iff built.tree known] at first
  rw [Scopes.finds_iff built.tree (by decide)] at second
  cases first
  cases second

end Fiscal
