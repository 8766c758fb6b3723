import Fiscal.Proofs.Relocation.Pairs
import Fiscal.Proofs.Translation.Statement

set_option autoImplicit false

namespace Fiscal

open Machine

namespace Machine

-- The scopes that values captured, those around them, and those that the values bound there captured.
inductive Reaches (machine : Machine) (values : List Value) : Nat → Prop where
  | captured (value : Value) (scope : Nat) (member : value ∈ values) (captures : value.Captures scope) :
      Reaches machine values scope
  | outside (inner outer : Nat) (reaches : Reaches machine values inner)
      (inside : machine.scopes.Inside inner outer) : Reaches machine values outer
  | bound (scope : Nat) (value : Value) (other : Nat) (reaches : Reaches machine values scope)
      (holds : machine.scopes.Holds scope value) (captures : value.Captures other) :
      Reaches machine values other

-- Machines that may differ in the current scope, in what is bound in the other scopes, and in the lines
-- written before.
structure SameAt (scopes : Nat → Prop) (first second : Machine) : Prop where
  count : second.scopes.size = first.scopes.size
  scope : ∀ scope, scopes scope → second.scopes[scope]? = first.scopes[scope]?
  ledgers : second.ledgers = first.ledgers
  functions : second.functions = first.functions
  files : second.files = first.files
  settings : second.settings = first.settings
  today : second.today = first.today

structure LeavesSame (scopes : Nat → Prop) (first second after other : Machine) : Prop where
  same : SameAt (fun scope => scopes scope ∨ first.scopes.size ≤ scope) after other
  untouched : ∀ scope < first.scopes.size, ¬ scopes scope →
    after.scopes[scope]? = first.scopes[scope]? ∧ other.scopes[scope]? = second.scopes[scope]?
  written : ∃ lines, after.output = lines ++ first.output ∧ other.output = lines ++ second.output
  current : after.current = first.current ∧ other.current = second.current

theorem captures_scope {callee : Value} {captured : Nat} (made : callee.scope? = some captured) :
    callee.Captures captured := by
  cases callee with
  | lambda callee =>
      cases made
      exact .lambda callee
  | function callee =>
      cases made
      exact .function callee
  | _ => cases made

inductive EndsSame {α : Type} (scopes : Nat → Prop) (first second : Machine) :
    EStateM.Result Failure Machine α → EStateM.Result Failure Machine α → Prop where
  | ok (value : α) (after other : Machine) (leaves : LeavesSame scopes first second after other) :
      EndsSame scopes first second (.ok value after) (.ok value other)
  | error (failure : Failure) (after other : Machine) (leaves : LeavesSame scopes first second after other) :
      EndsSame scopes first second (.error failure after) (.error failure other)

def backIn {α : Type} (scope : Nat) : EStateM.Result Failure Machine α → EStateM.Result Failure Machine α
  | .ok value after => .ok value (after.returning scope)
  | .error failure after => .error failure (after.returning scope)

theorem inCallScope_elsewhere {α : Type} (captured : Nat) (parameters : List String) (arguments : List Value)
    (body : Eval α) (machine : Machine) :
    inCallScope captured parameters arguments body machine =
      backIn machine.current (inCallScope captured parameters arguments body (machine.returning captured)) := by
  have entered : (machine.returning captured).entering captured = machine.entering captured := rfl
  unfold inCallScope
  rw [Law.Follows.opened_run, Law.Follows.opened_run, entered]
  cases (bindAll parameters arguments >>= fun _ => body) (machine.entering captured) with
  | ok value after => rfl
  | error failure after => rfl

theorem requireCount_elsewhere {α : Type} (name : String) (expected found scope : Nat) (next : Unit → Eval α)
    (machine : Machine)
    (elsewhere : next () machine = backIn machine.current (next () (machine.returning scope))) :
    (requireCount name expected found >>= next) machine =
      backIn machine.current ((requireCount name expected found >>= next) (machine.returning scope)) := by
  unfold requireCount
  by_cases same : expected = found
  · rw [if_pos same]
    exact elsewhere
  · rw [if_neg same]
    rfl

theorem call_elsewhere (parts : Evaluator) (callee : Value) (captured : Nat) (arguments : List Value)
    (name : Option String) (machine : Machine) (made : callee.scope? = some captured) :
    call parts callee arguments name machine =
      backIn machine.current (call parts callee arguments name (machine.returning captured)) := by
  cases callee with
  | lambda callee =>
      cases made
      exact requireCount_elsewhere _ _ _ _ _ machine (inCallScope_elsewhere _ _ _ _ machine)
  | function callee =>
      cases made
      refine requireCount_elsewhere _ _ _ _ _ machine ?_
      have called := inCallScope_elsewhere callee.scope callee.parameters arguments
        (parts.executeAll callee.body.statements) machine
      change EStateM.bind _ _ machine = backIn machine.current (EStateM.bind _ _ (machine.returning callee.scope))
      unfold EStateM.bind
      rw [called]
      cases inCallScope callee.scope callee.parameters arguments (parts.executeAll callee.body.statements)
          (machine.returning callee.scope) with
      | error failure after => rfl
      | ok outcome after => cases outcome <;> rfl
  | _ => cases made

end Machine

namespace Relocation

variable {move : Relocation}

structure Still (move : Relocation) : Prop where
  scopes : move.scopes.gap = 0
  ledgers : move.ledgers.gap = 0
  functions : move.functions.gap = 0

mutual

theorem value_still (still : move.Still) (value : Value) : move.value value = value := by
  cases value with
  | list items => rw [Relocation.value, values_still still items]
  | object fields => rw [Relocation.value, named_still still fields]
  | ledger account => rw [Relocation.value, Shift.place_still _ still.ledgers]
  | function declared =>
      rw [Relocation.value, Shift.place_still _ still.functions, Shift.place_still _ still.scopes]
  | lambda made => rw [Relocation.value, Shift.place_still _ still.functions, Shift.place_still _ still.scopes]
  | _ => rfl

theorem values_still (still : move.Still) (items : List Value) : move.values items = items := by
  cases items with
  | nil => rfl
  | cons item rest => rw [values, value_still still item, values_still still rest]

theorem named_still (still : move.Still) (fields : Named Value) : move.named fields = fields := by
  cases fields with
  | nil => rfl
  | cons field rest =>
      obtain ⟨name, item⟩ := field
      rw [named, value_still still item, named_still still rest]

end

theorem scope_still (still : move.Still) (scope : Scope Value) : move.scope scope = scope := by
  obtain ⟨bindings, parent⟩ := scope
  cases parent with
  | none => rw [Relocation.scope, named_still still]; rfl
  | some outer =>
      rw [Relocation.scope, named_still still]
      exact congrArg (Scope.mk bindings) (congrArg some (Shift.place_still _ still.scopes outer))

def reaching (first second : Machine) (values : List Value) : Relocation := ⟨first, second, first.Reaches values⟩

section Reaching

variable {first second : Machine} {values : List Value}

theorem reaching_still (same : SameAt (first.Reaches values) first second) :
    (reaching first second values).Still where
  scopes := Nat.sub_eq_zero_of_le (Nat.le_of_eq same.count)
  ledgers := Nat.sub_eq_zero_of_le (Nat.le_of_eq (congrArg Array.size same.ledgers))
  functions := Nat.sub_eq_zero_of_le (Nat.le_of_eq same.functions)

theorem access_known {α : Type} {scopes : Scopes α} {scope : Nat} {found : Scope α}
    (access : scopes[scope]? = some found) : scope < scopes.size :=
  (Array.getElem?_eq_some_iff.mp access).1

theorem reaching_sound (rooted : first.Rooted) {captured : Nat} (known : captured < first.scopes.size)
    (reaches : first.Reaches values captured) :
    (reaching first second values).Sound (first.returning captured) where
  grown := Nat.le_refl _
  current := ⟨known, fun _ => reaches⟩
  outward inner outer sees inside := by
    obtain ⟨found, access, _⟩ := Option.map_eq_some_iff.mp inside
    exact ⟨rooted.tree.older inner outer inside, fun _ => .outside inner outer (sees (access_known access)) inside⟩
  bound scope value sees holds := by
    have ⟨found, name, access, _⟩ := holds
    intro other captures
    have reached := sees (access_known access)
    exact ⟨rooted.bound scope value holds other captures, fun _ => .bound scope value other reached holds captures⟩

theorem reaching_pairs (same : SameAt (first.Reaches values) first second) (captured : Nat) :
    (reaching first second values).Pairs (first.returning captured) (second.returning captured) := by
  have still := reaching_still same
  have places := Shift.place_still _ still.scopes
  constructor
  case scopes =>
    refine ⟨fun scope sees => ?_, ?_, Nat.le_refl _, fun _ _ => rfl, fun _ _ _ => rfl⟩
    · have fixed : (reaching first second values).scope = id := funext (scope_still still)
      rw [places, fixed, Option.map_id]
      by_cases old : scope < first.scopes.size
      · exact same.scope scope (sees old)
      · exact (Array.getElem?_eq_none (Nat.le_trans (Nat.le_of_eq same.count) (Nat.le_of_not_lt old))).trans
          (Array.getElem?_eq_none (Nat.le_of_not_lt old)).symm
    · rw [still.scopes]
      exact same.count
  case ledgers =>
    refine ⟨fun account => ?_, ?_, Nat.le_refl _, fun _ _ _ => rfl⟩
    · rw [Shift.place_still _ still.ledgers]
      exact congrArg (·[account]?) same.ledgers
    · rw [still.ledgers]
      exact congrArg Array.size same.ledgers
  case current => exact (places captured).symm
  case counted => exact Nat.le_refl _
  case functions =>
    rw [still.functions]
    exact same.functions
  case output => exact ⟨[], rfl, rfl⟩
  case files => exact same.files
  case settings => exact same.settings
  case today => exact same.today

theorem leaves_same (still : (reaching first second values).Still) (count : second.scopes.size = first.scopes.size)
    {after other : Machine} (pairs : (reaching first second values).Pairs after other) :
    LeavesSame (first.Reaches values) first second (after.returning first.current)
      (other.returning second.current) := by
  have fixed : (reaching first second values).scope = id := funext (scope_still still)
  have places := Shift.place_still _ still.scopes
  refine ⟨⟨?_, fun scope either => ?_, ?_, ?_, pairs.files, pairs.settings, pairs.today⟩, fun scope old apart => ?_,
    pairs.output, rfl, rfl⟩
  · have size := pairs.scopes.size
    rw [still.scopes] at size
    exact size
  · have found := pairs.scopes.found scope fun old =>
      either.elim id fun new => absurd old (Nat.not_lt.mpr new)
    rw [places, fixed, Option.map_id] at found
    exact found
  · refine Array.ext_getElem? fun account => ?_
    have found := pairs.ledgers.found account
    rw [Shift.place_still _ still.ledgers] at found
    exact found
  · have functions := pairs.functions
    rw [still.functions] at functions
    exact functions
  · refine ⟨pairs.scopes.untouched scope fun sees => apart (sees old), ?_⟩
    refine pairs.scopes.left scope (Nat.lt_of_lt_of_le old (Nat.le_of_eq count.symm)) fun seen sees placed => ?_
    rw [places] at placed
    subst placed
    exact apart (sees old)

end Reaching

end Relocation

open Relocation

-- Two machines that agree on what can be reached from a closure and its arguments: calls of the closure
-- end alike on them, whatever the callers have bound.
theorem closure_independent_of_caller (limits : Limits) (callee : Value) (captured : Nat)
    (arguments : List Value) (name : Option String) (first second : Machine)
    (made : callee.scope? = some captured) (rooted : first.Rooted)
    (owns : ∀ value ∈ callee :: arguments, first.Owns value)
    (same : SameAt (first.Reaches (callee :: arguments)) first second) :
    EndsSame (first.Reaches (callee :: arguments)) first second
      ((Evaluator.ofLimits limits).call callee arguments name first)
      ((Evaluator.ofLimits limits).call callee arguments name second) := by
  have captures : callee.Captures captured := captures_scope made
  have reaches : first.Reaches (callee :: arguments) captured := .captured callee captured List.mem_cons_self captures
  have still := reaching_still same
  have pairs := reaching_pairs same captured
  obtain ⟨depth, rounds⟩ := limits
  cases depth with
  | zero =>
      have left := leaves_same still same.count pairs
      exact .error .tooDeep first second left
  | succ depth =>
      have sound : (reaching first second (callee :: arguments)).Sound (first.returning captured) :=
        reaching_sound rooted (owns callee List.mem_cons_self captured captures) reaches
      have knows : ∀ value ∈ callee :: arguments,
          (reaching first second (callee :: arguments)).Knows (first.returning captured) value :=
        fun value member scope captures =>
          ⟨owns value member scope captures, fun _ => .captured value scope member captures⟩
      obtain ⟨knowsCallee, known⟩ := List.forall_mem_cons.mp knows
      have ends := Translation.Agrees.call
        (.ofDepth (reaching first second (callee :: arguments)).translation not_false rounds depth)
        callee arguments name knowsCallee known sound pairs
      have fixed : (reaching first second (callee :: arguments)).translation.value = id := funext (value_still still)
      rw [fixed, List.map_id, id_eq] at ends
      change EndsSame _ first second (call (.ofDepth rounds depth) callee arguments name first)
        (call (.ofDepth rounds depth) callee arguments name second)
      rw [call_elsewhere _ callee captured arguments name first made,
        call_elsewhere _ callee captured arguments name second made]
      generalize call (.ofDepth rounds depth) callee arguments name (first.returning captured) = ran at ends
      generalize call (.ofDepth rounds depth) callee arguments name (second.returning captured) = ranOther at ends
      cases ends with
      | error failure after other left => exact .error failure _ _ (leaves_same still same.count left)
      | ok value after other _ _ left => exact .ok value _ _ (leaves_same still same.count left)

def bindsGlobally (scopes : Scopes Value) (scope : Nat) : Bool :=
  (scopes[scope]?.map fun found =>
    found.bindings.all fun binding => binding.2.isSimple || binding.2.scope? == some 0).getD true

theorem captures_global {value : Value} {scope : Nat} (plain : (value.isSimple || value.scope? == some 0) = true)
    (captures : value.Captures scope) : scope = 0 := by
  cases captures with
  | lambda made => simpa [Value.isSimple, Value.scope?] using plain
  | function declared => simpa [Value.isSimple, Value.scope?] using plain
  | item | field => simp [Value.isSimple, Value.scope?] at plain

theorem reaches_global {machine : Machine} (rooted : machine.Rooted) {values : List Value}
    (given : ∀ value ∈ values, (value.isSimple || value.scope? == some 0) = true)
    (plain : bindsGlobally machine.scopes 0 = true) {scope : Nat} (reaches : machine.Reaches values scope) :
    scope = 0 := by
  induction reaches with
  | captured value scope member captures => exact captures_global (given value member) captures
  | outside inner outer _ inside ih =>
      subst ih
      exact absurd inside (Scopes.global_outermost rooted.tree outer)
  | bound scope value other _ holds captures ih =>
      subst ih
      obtain ⟨found, name, access, member⟩ := holds
      have all : (found.bindings.all fun binding => binding.2.isSimple || binding.2.scope? == some 0) = true := by
        simpa [bindsGlobally, access] using plain
      exact captures_global (List.all_eq_true.mp all _ member) captures

theorem shadowed_name_without_effect :
    let machine := start Settings.standard ⟨[]⟩ "2024-02-29"
    let source := "LET z = 1\nLET f = x -> x + z\nIF true THEN\n    LET z = 5\nEND"
    let first := (Session.execute ⟨50, 50⟩ none source machine).2
    let second := (first.binding 1 "z" (.number 7)).returning 1
    first.current = 0 ∧ first.scopes.contains 1 "z" = true ∧
      ∃ callee, first.scopes.local? 0 "f" = some callee ∧
        EndsSame (first.Reaches [callee, .number 1]) first second
          ((Evaluator.ofLimits ⟨50, 50⟩).call callee [.number 1] none first)
          ((Evaluator.ofLimits ⟨50, 50⟩).call callee [.number 1] none second) := by
  intro machine source first second
  have rooted : first.Rooted := idle_rooted first (.executed _ _ _ machine (.start _ _ _))
  have facts : first.current = 0 ∧ first.scopes.contains 1 "z" = true ∧
      (first.scopes.local? 0 "f").bind Value.scope? = some 0 ∧ bindsGlobally first.scopes 0 = true := by
    decide +kernel
  clear_value first
  obtain ⟨standing, bound, made, plain⟩ := facts
  obtain ⟨callee, found, scope⟩ := Option.bind_eq_some_iff.mp made
  refine ⟨standing, bound, callee, found, ?_⟩
  have given : ∀ value ∈ [callee, .number 1], (value.isSimple || value.scope? == some 0) = true := by
    simp [scope, Value.isSimple]
  have owns : ∀ value ∈ [callee, .number 1], first.Owns value := by
    refine List.forall_mem_cons.mpr ⟨?_, List.forall_mem_singleton.mpr (owns_simple first _ rfl)⟩
    exact rooted.bound 0 callee (Scopes.holds_of_local _ _ _ _ found)
  refine closure_independent_of_caller ⟨50, 50⟩ callee 0 [.number 1] none first second scope rooted owns ?_
  refine ⟨Scopes.size_define _ _ _ _, fun scope reaches => ?_, rfl, rfl, rfl, rfl, rfl⟩
  have zero := reaches_global rooted given plain reaches
  subst zero
  exact Array.getElem?_modify.trans (if_neg (by decide))

end Fiscal
