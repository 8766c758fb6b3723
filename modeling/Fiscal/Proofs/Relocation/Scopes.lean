import Fiscal.Proofs.Machine.Depth
import Fiscal.Proofs.Relocation.Basic

set_option autoImplicit false

namespace Fiscal.Relocation

open Machine

variable (move : Relocation)

def Sees (scope : Nat) : Prop := scope < move.first.scopes.size → move.seen scope

def Knows (machine : Machine) (value : Value) : Prop :=
  ∀ scope, value.Captures scope → scope < machine.scopes.size ∧ move.Sees scope

structure Sound (machine : Machine) : Prop where
  grown : move.first.scopes.size ≤ machine.scopes.size
  current : machine.current < machine.scopes.size ∧ move.Sees machine.current
  outward : ∀ inner outer, move.Sees inner → machine.scopes.Inside inner outer →
    outer < inner ∧ move.Sees outer
  bound : ∀ scope value, move.Sees scope → machine.scopes.Holds scope value → move.Knows machine value

section Law

variable {move} {machine after : Machine}

theorem sees_new {scope : Nat} (new : move.first.scopes.size ≤ scope) : move.Sees scope :=
  fun old => absurd old (Nat.not_lt.mpr new)

theorem knows_simple {value : Value} (simple : value.isSimple = true) : move.Knows machine value := by
  intro scope captures
  cases captures <;> cases simple

theorem knows_table (grid : Table) : move.Knows machine (.table grid) := by
  intro scope captures
  cases captures

theorem knows_portfolio (built : Portfolio) : move.Knows machine (.portfolio built) := by
  intro scope captures
  cases captures

theorem knows_ledger (account : Nat) : move.Knows machine (.ledger account) := by
  intro scope captures
  cases captures

theorem knows_block (body : Block) : move.Knows machine (.block body) := by
  intro scope captures
  cases captures

theorem knows_grown {value : Value} (grown : machine.scopes.size ≤ after.scopes.size)
    (knows : move.Knows machine value) : move.Knows after value :=
  fun scope captures => ⟨Nat.lt_of_lt_of_le (knows scope captures).1 grown, (knows scope captures).2⟩

theorem knows_list (items : List Value) :
    move.Knows machine (.list items) ↔ ∀ item ∈ items, move.Knows machine item :=
  Value.captures_list items

theorem knows_object (fields : Named Value) :
    move.Knows machine (.object fields) ↔ ∀ field ∈ fields, move.Knows machine field.2 :=
  Value.captures_object fields

theorem sees_outward (sound : move.Sound machine) {inner outer : Nat} (sees : move.Sees inner)
    (around : Relation.ReflTransGen machine.scopes.Inside inner outer) : move.Sees outer := by
  induction around with
  | refl => exact sees
  | tail _ inside seen => exact (sound.outward _ _ seen inside).2

theorem Sound.quiet (sound : move.Sound machine) (scopes : after.scopes = machine.scopes)
    (current : after.current = machine.current) : move.Sound after := by
  obtain ⟨grown, known, outward, bound⟩ := sound
  constructor
  · rwa [scopes]
  · rwa [scopes, current]
  · rwa [scopes]
  · unfold Knows at bound ⊢
    rwa [scopes]

theorem sound_binding (sound : move.Sound machine) (scope : Nat) (name : String) {value : Value}
    (knows : move.Knows machine value) : move.Sound (machine.binding scope name value) := by
  have size : (machine.binding scope name value).scopes.size = machine.scopes.size := Scopes.size_define _ _ _ _
  refine ⟨?_, ?_, fun inner outer sees inside => ?_, fun other held sees holds => ?_⟩
  · rw [size]
    exact sound.grown
  · rw [size]
    exact sound.current
  · exact sound.outward inner outer sees ((Scopes.inside_define _ _ _ _ _ _).mp inside)
  · refine knows_grown (Nat.le_of_eq size.symm) ?_
    rcases Scopes.holds_define _ scope other name value held holds with old | fresh
    · exact sound.bound other held sees old
    · rw [fresh]
      exact knows

theorem sound_entering (sound : move.Sound machine) {outer : Nat} (known : outer < machine.scopes.size)
    (sees : move.Sees outer) : move.Sound (machine.entering outer) := by
  have size : (machine.entering outer).scopes.size = machine.scopes.size + 1 := Scopes.size_enter _ _
  have grown := sound.grown
  refine ⟨by omega, ⟨?_, sees_new grown⟩, fun inner next seesInner inside => ?_, fun scope held seesScope holds => ?_⟩
  · rw [size]
    exact Nat.lt_succ_self _
  · rcases Scopes.inside_enter machine.scopes outer inner next inside with old | ⟨rfl, rfl⟩
    · exact sound.outward inner next seesInner old
    · exact ⟨known, sees⟩
  · have before := sound.bound scope held seesScope (Scopes.holds_enter _ outer scope held holds)
    exact knows_grown (by omega) before

theorem sound_returning {inner : Machine} (sound : move.Sound machine) (within : move.Sound inner)
    (grown : machine.scopes.size ≤ inner.scopes.size) : move.Sound (inner.returning machine.current) :=
  ⟨within.grown, ⟨Nat.lt_of_lt_of_le sound.current.1 grown, sound.current.2⟩, within.outward, within.bound⟩

theorem entrance_seen (sound : move.Sound machine) {outer : Nat} (entrance : MayEnter move.Knows machine outer) :
    outer < machine.scopes.size ∧ move.Sees outer := by
  cases entrance with
  | current => exact sound.current
  | captured callee outer knows made =>
      cases callee with
      | lambda callee =>
          cases made
          exact knows _ (.lambda callee)
      | function callee =>
          cases made
          exact knows _ (.function callee)
      | _ => cases made

theorem moves_sound (declares : Bool) (moved : Moves move.Knows declares machine after)
    (sound : move.Sound machine) : move.Sound after := by
  induction moved with
  | rest => exact sound
  | trans _ _ _ _ _ _ first second => exact second (first sound)
  | define machine name value knows => exact sound_binding sound _ name knows
  | assign _ machine owner name value _ knows => exact sound_binding sound owner name knows
  | write | count | ledger | post | store => exact sound.quiet rfl rfl
  | inside _ machine inner outer entrance body ih =>
      obtain ⟨known, sees⟩ := entrance_seen sound entrance
      have within := ih (sound_entering sound known sees)
      have moved := Moves.inside false machine inner outer entrance body
      exact sound_returning sound within (moves_size false machine (inner.returning machine.current) moved)

end Law

def law : Law :=
  { Law.anything with
    sound := move.Sound
    holds := move.Knows
    kept := fun declares machine after sound moved =>
      ⟨moves_sound declares moved sound, fun _ => knows_grown (moves_size declares machine after moved)⟩
    entered := fun machine outer sound entrance =>
      ⟨sound_entering sound (entrance_seen sound entrance).1 (entrance_seen sound entrance).2,
        fun _ => knows_grown (by simp [entering])⟩
    anywhere := fun _ _ _ knows => knows
    found := fun machine scope value sound around holds =>
      sound.bound scope value (sees_outward sound sound.current.2 around) holds
    simple := fun _ _ => knows_simple
    list := fun _ => knows_list
    object := fun _ => knows_object
    table := fun _ _ grid _ _ => knows_table grid
    tableNames := fun _ _ _ => .inr trivial
    portfolio := fun _ _ _ _ built _ => knows_portfolio built
    ledger := fun _ account _ => knows_ledger account
    lambda := fun machine _ _ _ _ sound _ _ scope captures => by
      cases captures
      exact sound.current
    function := fun machine _ _ _ _ _ sound _ _ scope captures => by
      cases captures
      exact sound.current
    block := fun _ _ _ body _ => knows_block body
    lambdaBody := fun _ _ _ => trivial
    functionBody := fun _ _ _ _ _ => trivial
    blockBody := fun _ _ _ _ _ => trivial }

def scope (scope : Scope Value) : Scope Value :=
  ⟨move.named scope.bindings, scope.parent.map move.scopes.place⟩

structure ScopesPair (scopes others : Scopes Value) : Prop where
  found : ∀ scope, move.Sees scope → others[move.scopes.place scope]? = scopes[scope]?.map move.scope
  size : others.size = scopes.size + move.scopes.gap
  grown : move.first.scopes.size ≤ scopes.size
  untouched : ∀ scope, ¬ move.Sees scope → scopes[scope]? = move.first.scopes[scope]?
  left : ∀ scope < move.second.scopes.size, (∀ seen, move.Sees seen → move.scopes.place seen ≠ scope) →
    others[scope]? = move.second.scopes[scope]?

namespace ScopesPair

variable {move} {scopes others : Scopes Value}

theorem define (pair : move.ScopesPair scopes others) {owner : Nat} (sees : move.Sees owner) (name : String)
    (value : Value) :
    move.ScopesPair (scopes.define owner name value)
      (others.define (move.scopes.place owner) name (move.value value)) where
  found scope seesScope := by
    rw [Scopes.define, Scopes.define, Array.getElem?_modify, Array.getElem?_modify, pair.found scope seesScope]
    by_cases same : owner = scope
    · rw [if_pos same, if_pos (congrArg _ same)]
      cases scopes[scope]? with
      | none => rfl
      | some found => simp [Relocation.scope, put_named]
    · rw [if_neg same, if_neg fun placed => same (move.scopes.place_inj.mp placed)]
  size := by
    rw [Scopes.size_define, Scopes.size_define]
    exact pair.size
  grown := by
    rw [Scopes.size_define]
    exact pair.grown
  untouched scope unseen := by
    have different : scope ≠ owner := fun same => unseen (same ▸ sees)
    rw [Scopes.access_define _ _ _ _ _ different]
    exact pair.untouched scope unseen
  left scope known apart := by
    rw [Scopes.access_define _ _ _ _ _ fun same => apart owner sees same.symm]
    exact pair.left scope known apart

theorem enter (pair : move.ScopesPair scopes others) (outer : Nat) :
    move.ScopesPair (scopes.enter outer) (others.enter (move.scopes.place outer)) := by
  have grown := pair.grown
  have size := pair.size
  -- The new scopes are counterparts of each other, as each takes the next number.
  have fresh : move.scopes.place scopes.size = others.size := by
    rw [size]
    exact move.scopes.place_new grown
  refine ⟨fun scope sees => ?_, ?_, ?_, fun scope unseen => ?_, fun scope known apart => ?_⟩
  · rw [Scopes.enter, Scopes.enter, Array.getElem?_push, Array.getElem?_push, pair.found scope sees, ← fresh]
    by_cases same : scope = scopes.size
    · rw [if_pos same, if_pos (congrArg _ same)]
      rfl
    · rw [if_neg same, if_neg fun placed => same (move.scopes.place_inj.mp placed)]
  · rw [Scopes.size_enter, Scopes.size_enter]
    omega
  · rw [Scopes.size_enter]
    omega
  · have old : scope < move.first.scopes.size := Nat.lt_of_not_le fun new => unseen (sees_new new)
    rw [Scopes.access_enter scopes outer scope (Nat.lt_of_lt_of_le old grown)]
    exact pair.untouched scope unseen
  · have old : scope < others.size := by
      have gap : move.scopes.gap = move.second.scopes.size - move.first.scopes.size := rfl
      omega
    rw [Scopes.access_enter others _ scope old]
    exact pair.left scope known apart

variable {machine : Machine} (pair : move.ScopesPair machine.scopes others) (sound : move.Sound machine)

include pair sound

theorem chainFrom_place (scope steps more : Nat) (sees : move.Sees scope) (enough : scope < steps)
    (also : move.scopes.place scope < more) :
    others.chainFrom more (move.scopes.place scope) =
      (machine.scopes.chainFrom steps scope).map move.scopes.place := by
  induction scope using Nat.strongRecOn generalizing steps more with
  | ind scope ih =>
      obtain ⟨steps, rfl⟩ := Nat.exists_eq_add_one_of_ne_zero (Nat.ne_zero_of_lt enough)
      obtain ⟨more, rfl⟩ := Nat.exists_eq_add_one_of_ne_zero (Nat.ne_zero_of_lt also)
      unfold Scopes.chainFrom
      rw [pair.found scope sees]
      cases access : machine.scopes[scope]? with
      | none => rfl
      | some found =>
          obtain ⟨bindings, parent⟩ := found
          cases parent with
          | none => rfl
          | some outer =>
              have inside : machine.scopes.Inside scope outer := by
                rw [Scopes.Inside, access]
                rfl
              obtain ⟨older, seesOuter⟩ := sound.outward scope outer sees inside
              have placed := move.scopes.place_lt older
              have rest := ih outer older steps more seesOuter (by omega) (by omega)
              exact congrArg _ rest

theorem chain_place {scope : Nat} (sees : move.Sees scope) :
    others.chain (move.scopes.place scope) = (machine.scopes.chain scope).map move.scopes.place :=
  pair.chainFrom_place sound scope _ _ sees (Nat.lt_succ_self _) (Nat.lt_succ_self _)

end ScopesPair

end Fiscal.Relocation
