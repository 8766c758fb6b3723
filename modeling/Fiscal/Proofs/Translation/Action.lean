import Fiscal.Proofs.Machine.Action
import Fiscal.Proofs.Translation.Basic
import Fiscal.Proofs.Translation.Value

set_option autoImplicit false

namespace Fiscal.Translation

open Machine

variable (move : Translation)

def KnowsAll (machine : Machine) (values : List Value) : Prop := ∀ value ∈ values, move.law.holds machine value

inductive Ends {α : Type} (place : α → α) (good : Machine → α → Prop) (before : Machine) :
    EStateM.Result Failure Machine α → EStateM.Result Failure Machine α → Prop where
  | ok (value : α) (after twin : Machine) (moved : Moves move.law.holds true before after)
      (proper : good after value) (pairs : move.Pairs after twin) :
      Ends place good before (.ok value after) (.ok (place value) twin)
  | error (failure : Failure) (after twin : Machine) (pairs : move.Pairs after twin) :
      Ends place good before (.error failure after) (.error failure twin)

def Agrees {α : Type} (place : α → α) (good : Machine → α → Prop) (machine twin : Machine)
    (action other : Eval α) : Prop :=
  move.law.sound machine → move.Pairs machine twin → move.Ends place good machine (action machine) (other twin)

def outcome : Outcome → Outcome
  | .done value => .done (move.value value)
  | .returned value => .returned (move.value value)

namespace Agrees

variable {move} {α β : Type} {place : α → α} {carry : β → β} {good : Machine → α → Prop}
  {result : Machine → β → Prop} {machine twin : Machine} {action other : Eval α}

theorem assuming (agrees : move.law.sound machine → move.Pairs machine twin →
    move.Agrees place good machine twin action other) : move.Agrees place good machine twin action other :=
  fun sound pairs => agrees sound pairs sound pairs

theorem pure (value : α) (proper : move.law.sound machine → good machine value) :
    move.Agrees place good machine twin (Pure.pure value) (Pure.pure (place value)) :=
  fun sound pairs => .ok value machine twin (.rest _ _) (proper sound) pairs

theorem pureSame (value : α) (same : place value = value) (proper : move.law.sound machine → good machine value) :
    move.Agrees place good machine twin (Pure.pure value) (Pure.pure value) := by
  intro sound pairs
  have ends : move.Ends place good machine (.ok value machine) (.ok (place value) twin) :=
    .ok value machine twin (.rest _ _) (proper sound) pairs
  rw [same] at ends
  exact ends

theorem plain (made : Value) (simple : made.isSimple = true) :
    move.Agrees move.value move.law.holds machine twin (Pure.pure made) (Pure.pure made) :=
  pureSame made (move.simple made simple) fun _ => move.law.simple machine made simple

theorem throw (failure : Failure) :
    move.Agrees place good machine twin (throw failure) (throw failure) :=
  fun _ pairs => .error failure machine twin pairs

theorem bind {follow followOther : α → Eval β} (first : move.Agrees place good machine twin action other)
    (rest : ∀ value after next, (∀ held, move.law.holds machine held → move.law.holds after held) → good after value →
      move.Agrees carry result after next (follow value) (followOther (place value))) :
    move.Agrees carry result machine twin (action >>= follow) (other >>= followOther) := by
  intro sound pairs
  have ends := first sound pairs
  change move.Ends carry result machine (EStateM.bind action follow machine)
    (EStateM.bind other followOther twin)
  unfold EStateM.bind
  generalize action machine = ran at ends
  generalize other twin = ranOther at ends
  cases ends with
  | error failure after next pairs => exact .error failure after next pairs
  | ok value after next moved proper pairs =>
      obtain ⟨later, kept⟩ := move.law.kept true machine after sound moved
      have last := rest value after next kept proper later pairs
      dsimp only
      generalize follow value after = ended at last
      generalize followOther (place value) next = endedOther at last
      cases last with
      | error failure after next pairs => exact .error failure after next pairs
      | ok value after next more proper pairs =>
          exact .ok value after next (.trans _ _ _ _ moved more) proper pairs

theorem bindSame {follow followOther : α → Eval β} (first : move.Agrees id good machine twin action other)
    (rest : ∀ value after next, (∀ held, move.law.holds machine held → move.law.holds after held) → good after value →
      move.Agrees carry result after next (follow value) (followOther value)) :
    move.Agrees carry result machine twin (action >>= follow) (other >>= followOther) :=
  first.bind rest

theorem get {follow followOther : Machine → Eval α}
    (rest : move.Agrees place good machine twin (follow machine) (followOther twin)) :
    move.Agrees place good machine twin (get >>= follow) (get >>= followOther) :=
  rest

theorem lift {computed counterpart : Except Failure α} (same : counterpart = computed.map place)
    (yields : Yields move.law.fails (good machine) computed) :
    move.Agrees place good machine twin (Eval.lift computed) (Eval.lift counterpart) := by
  subst same
  cases computed with
  | ok value => exact pure value fun _ => yields
  | error failure => exact throw failure

theorem liftSame {computed counterpart : Except Failure α} (same : counterpart = computed) :
    move.Agrees id Law.Any machine twin (Eval.lift computed) (Eval.lift counterpart) := by
  subst same
  cases counterpart with
  | ok value => exact pure value fun _ => trivial
  | error failure => exact throw failure

theorem liftOk (computed : Except Failure α) :
    move.Agrees id (fun _ value => computed = .ok value) machine twin (Eval.lift computed) (Eval.lift computed) := by
  cases computed with
  | ok value => exact pure value fun _ => rfl
  | error failure => exact throw failure

theorem failAt (issue : Source.Issue) (span : Source.Span) :
    move.Agrees place good machine twin (Eval.failAt issue span) (Eval.failAt issue span) :=
  throw _

theorem located (span : Source.Span) (agrees : move.Agrees place good machine twin action other) :
    move.Agrees place good machine twin (Eval.located span action) (Eval.located span other) := by
  intro sound pairs
  have ends := agrees sound pairs
  unfold Eval.located
  generalize action machine = ran at ends
  generalize other twin = ranOther at ends
  cases ends with
  | error failure after next pairs => exact .error _ after next pairs
  | ok value after next moved proper pairs => exact .ok value after next moved proper pairs

theorem takingFaults (name : String) (agrees : move.Agrees place good machine twin action other) :
    move.Agrees place good machine twin (takingFaults name action) (takingFaults name other) := by
  intro sound pairs
  have ends := agrees sound pairs
  unfold Machine.takingFaults
  generalize action machine = ran at ends
  generalize other twin = ranOther at ends
  cases ends with
  | ok value after next moved proper pairs => exact .ok value after next moved proper pairs
  | error failure after next pairs =>
      cases failure with
      | fault fault => exact .error _ after next pairs
      | issue | tooDeep | unfinished => exact .error _ after next pairs

end Agrees

namespace Agrees

variable {move} {α : Type} {place : α → α} {good : Machine → α → Prop} {machine twin : Machine}
  {action other : Eval α}

theorem inOpened {outer : Nat} (entrance : move.law.sound machine → MayEnter move.law.holds machine outer)
    (stays : ∀ value inner scope, good inner value → good (inner.returning scope) value)
    (body : move.Agrees place good (machine.entering outer) (twin.entering (move.scopes outer)) action other) :
    move.Agrees place good machine twin (Eval.openScope outer >>= fun scope => Eval.inScope scope action)
      (Eval.openScope (move.scopes outer) >>= fun scope => Eval.inScope scope other) := by
  intro sound pairs
  have within := (move.law.entered machine outer sound (entrance sound)).1
  have ends := body within (move.entered machine twin outer sound pairs (entrance sound))
  rw [Law.Follows.opened_run, Law.Follows.opened_run]
  generalize action (machine.entering outer) = ran at ends
  generalize other (twin.entering (move.scopes outer)) = ranOther at ends
  cases ends with
  | error failure after next left => exact .error failure _ _ (move.returned machine twin after next pairs left)
  | ok value after next moved proper left =>
      exact .ok value _ _ (.inside _ _ after outer (entrance sound) moved) (stays value after _ proper)
        (move.returned machine twin after next pairs left)

theorem inNewScope (stays : ∀ value inner scope, good inner value → good (inner.returning scope) value)
    (body : move.Agrees place good (machine.entering machine.current) (twin.entering twin.current) action other) :
    move.Agrees place good machine twin (Eval.inNewScope action) (Eval.inNewScope other) := by
  refine assuming fun _ pairs => .get ?_
  rw [move.current machine twin pairs] at body ⊢
  exact inOpened (fun _ => .current) stays body

theorem define (name : String) (value : Value) (knows : move.law.holds machine value) :
    move.Agrees id Law.Any machine twin (Eval.define name value) (Eval.define name (move.value value)) := by
  intro sound pairs
  have bound := move.bound machine twin machine.current name value sound pairs .refl knows
  rw [← move.current machine twin pairs] at bound
  exact .ok () _ _ (.define machine name value knows) trivial bound

theorem assign (name : String) (value : Value) (knows : move.law.holds machine value) :
    move.Agrees id Law.Any machine twin (Eval.assign name value) (Eval.assign name (move.value value)) := by
  intro sound pairs
  have placed := owner_place sound pairs .refl name
  rw [← move.current machine twin pairs] at placed
  unfold Eval.assign
  rw [placed]
  cases owned : machine.scopes.owner? machine.current name with
  | none => exact .error _ machine twin pairs
  | some owner =>
      have around := Scopes.owner_outward _ _ owner name owned
      exact .ok () _ _ (.assign _ machine owner name value owned knows) trivial
        (move.bound machine twin owner name value sound pairs around knows)

theorem lookup (name : String) :
    move.Agrees move.value move.law.holds machine twin (Eval.lookup name) (Eval.lookup name) := by
  refine assuming fun sound pairs => .get ?_
  rw [move.current machine twin pairs, get_place sound pairs .refl name]
  cases found : machine.scopes.get? machine.current name with
  | none => exact throw _
  | some value =>
      refine pure value fun _ => ?_
      obtain ⟨owner, owned, holds⟩ := Scopes.holds_of_get machine.scopes machine.current name value found
      exact move.law.found machine owner value sound (Scopes.owner_outward _ _ owner name owned) holds

theorem lookupGlobal (name : String) :
    move.Agrees move.value move.law.holds machine twin (Eval.lookupGlobal name) (Eval.lookupGlobal name) := by
  refine assuming fun sound pairs => .get ?_
  rw [move.current machine twin pairs, global_place sound pairs .refl name]
  cases found : machine.scopes.global? machine.current name with
  | none => exact throw _
  | some value =>
      refine pure value fun _ => ?_
      exact move.law.found machine _ value sound (Scopes.root_outward machine.scopes machine.current)
        (Scopes.holds_of_local machine.scopes _ name value found)

theorem lookupOuter (name : String) :
    move.Agrees move.value move.law.holds machine twin (Eval.lookupOuter name) (Eval.lookupOuter name) := by
  refine assuming fun sound pairs => .get ?_
  rw [move.current machine twin pairs, outer_place sound pairs .refl name]
  cases found : machine.scopes.outer? machine.current name with
  | none => exact throw _
  | some value =>
      refine pure value fun _ => ?_
      obtain ⟨owner, around, holds⟩ := Scopes.holds_of_outer machine.scopes machine.current name value found
      exact move.law.found machine owner value sound around holds

theorem lookupLocal (name : String) :
    move.Agrees (Option.map move.value) (fun after found => ∀ value, found = some value → move.law.holds after value)
      machine twin (Eval.lookupLocal? name) (Eval.lookupLocal? name) := by
  refine assuming fun sound pairs => .get ?_
  rw [move.current machine twin pairs, local_place sound pairs .refl name]
  refine pure _ fun _ value found => ?_
  exact move.law.found machine _ value sound .refl (Scopes.holds_of_local machine.scopes _ name value found)

theorem isBound (name : String) :
    move.Agrees id Law.Any machine twin (Eval.isBound name) (Eval.isBound name) := by
  refine assuming fun sound pairs => .get ?_
  rw [move.current machine twin pairs, contains_place sound pairs .refl name]
  exact pure _ fun _ => trivial

theorem write (line : String) : move.Agrees id Law.Any machine twin (Eval.write line) (Eval.write line) :=
  fun _ pairs => .ok () _ _ (.write _ machine line) trivial (move.written machine twin line pairs)

theorem shown (value : Value) :
    move.Agrees id Law.Any machine twin (Eval.shown value) (Eval.shown (move.value value)) := by
  refine assuming fun _ pairs => .get ?_
  rw [shown_value (move.entries machine twin pairs)]
  exact pure _ fun _ => trivial

theorem newIdentity : move.Agrees move.functions (fun after identity => identity < after.functions) machine twin
    Eval.newIdentity Eval.newIdentity := by
  intro sound pairs
  obtain ⟨placed, counted⟩ := move.counted machine twin pairs
  unfold Eval.newIdentity
  rw [placed]
  rw [placed] at counted
  exact .ok machine.functions _ _ (.count _ machine) (Nat.lt_succ_self _) counted

theorem newLedger : move.Agrees move.ledgers (fun after account => move.law.holds after (.ledger account)) machine twin
    Eval.newLedger Eval.newLedger := by
  intro sound pairs
  obtain ⟨placed, opened⟩ := move.opened machine twin pairs
  unfold Eval.newLedger
  rw [placed]
  exact .ok machine.ledgers.size _ _ (.ledger machine) (move.law.ledger _ _ (by simp)) opened

theorem post (ledger : Nat) (entry : Entry) :
    move.Agrees id Law.Any machine twin (Eval.post ledger entry) (Eval.post (move.ledgers ledger) entry) :=
  fun _ pairs => .ok () _ _ (.post machine ledger entry) trivial (move.posted machine twin ledger entry pairs)

end Agrees

end Fiscal.Translation
