import Fiscal.Machine.Run
import Fiscal.Proofs.Machine.Call
import Mathlib.Logic.Relation

set_option autoImplicit false

namespace Fiscal

open Machine

def Calm {α : Type} (action : Eval α) : Prop :=
  ∀ machine, (final (action machine)).ledgers = machine.ledgers

namespace Calm

variable {α β : Type} {action : Eval α} {next : α → Eval β}

theorem pure (value : α) : Calm (Pure.pure value : Eval α) := fun _ => rfl

theorem throw (failure : Failure) : Calm (throw failure : Eval α) := fun _ => rfl

theorem bind (first : Calm action) (rest : ∀ value, Calm (next value)) : Calm (action >>= next) := by
  intro machine
  have before := first machine
  change (final (EStateM.bind action next machine)).ledgers = _
  unfold EStateM.bind
  cases ran : action machine with
  | ok value after =>
      rw [ran] at before
      exact (rest value after).trans before
  | error failure after =>
      rw [ran] at before
      exact before

theorem get {next : Machine → Eval α} (rest : ∀ machine, Calm (next machine)) : Calm (get >>= next) :=
  fun machine => rest machine machine

theorem both {test : Prop} [Decidable test] {first second : Eval α} (yes : Calm first) (no : Calm second) :
    Calm (if test then first else second) := by
  split
  · exact yes
  · exact no

theorem lift (computed : Except Failure α) : Calm (Eval.lift computed) := by
  cases computed with
  | ok value => exact pure value
  | error failure => exact throw failure

theorem liftFault (computed : Except Fault α) : Calm (Eval.liftFault computed) := lift _

theorem failAt (issue : Source.Issue) (span : Source.Span) : Calm (Eval.failAt issue span : Eval α) := throw _

theorem takingFaults (name : String) (calm : Calm action) : Calm (takingFaults name action) := by
  intro machine
  have same := calm machine
  unfold Machine.takingFaults
  cases ran : action machine with
  | ok value after =>
      rw [ran] at same
      exact same
  | error failure after =>
      rw [ran] at same
      cases failure <;> exact same

theorem openScope (outer : Nat) : Calm (Eval.openScope outer) := fun _ => rfl

theorem define (name : String) (value : Value) : Calm (Eval.define name value) := fun _ => rfl

theorem assign (name : String) (value : Value) : Calm (Eval.assign name value) := by
  intro machine
  unfold Eval.assign
  split
  · rfl
  · rfl

theorem lookup (name : String) : Calm (Eval.lookup name) := by
  refine .get fun machine => ?_
  split
  · exact pure _
  · exact throw _

theorem lookupGlobal (name : String) : Calm (Eval.lookupGlobal name) := by
  refine .get fun machine => ?_
  split
  · exact pure _
  · exact throw _

theorem lookupOuter (name : String) : Calm (Eval.lookupOuter name) := by
  refine .get fun machine => ?_
  split
  · exact pure _
  · exact throw _

theorem lookupLocal (name : String) : Calm (Eval.lookupLocal? name) := .get fun _ => pure _

theorem isBound (name : String) : Calm (Eval.isBound name) := .get fun _ => pure _

theorem write (line : String) : Calm (Eval.write line) := fun _ => rfl

theorem shown (value : Value) : Calm (Eval.shown value) := .get fun _ => pure _

theorem newIdentity : Calm Eval.newIdentity := fun _ => rfl

section Library

theorem shownLine (values : List Value) : Calm (Library.shownLine values) := .get fun _ => pure _

theorem display (values : List Value) : Calm (Library.display values) :=
  (shownLine values).bind fun _ => (write _).bind fun _ => pure _

theorem assertion (condition : Value) (message : Option Value) : Calm (Library.assertion condition message) := by
  refine both (pure _) ?_
  cases message with
  | none => exact throw _
  | some message => exact (shown message).bind fun _ => throw _

theorem raise (values : List Value) : Calm (Library.raise values) := (shownLine values).bind fun _ => throw _

theorem numberOrZero (name : String) : Calm (Library.numberOrZero name) := by
  refine .get fun machine => ?_
  split
  · exact pure _
  · exact pure _

theorem valuationModel : Calm Library.valuationModel :=
  (numberOrZero "rate").bind fun _ => (numberOrZero "growth").bind fun _ => (write _).bind fun _ => pure _

theorem len (value : Value) : Calm (Library.len value) := .get fun _ => (lift _).bind fun _ => pure _

theorem loadCsv (path : Value) : Calm (Library.loadCsv path) :=
  (lift _).bind fun _ => .get fun _ => (liftFault _).bind fun _ => (liftFault _).bind fun _ =>
    (lift _).bind fun _ => pure _

theorem writeFile (path text : String) : Calm (Library.writeFile path text) := by
  intro machine
  change (final ((Eval.liftFault (machine.files.write path text) >>=
    fun files => set { machine with files := files }) machine)).ledgers = _
  cases machine.files.write path text with
  | ok files => rfl
  | error fault => rfl

theorem requireDirectory (path : String) : Calm (Library.requireDirectory path) := by
  refine .get fun machine => ?_
  split
  · exact pure _
  · exact throw _

theorem saveCsv (table path : Value) : Calm (Library.saveCsv table path) :=
  (lift _).bind fun _ => (lift _).bind fun _ => (requireDirectory _).bind fun _ =>
    (writeFile _ _).bind fun _ => pure _

theorem readText (path : Value) : Calm (Library.readText path) :=
  (lift _).bind fun _ => .get fun _ => (liftFault _).bind fun _ => pure _

theorem writeText (path value : Value) : Calm (Library.writeText path value) :=
  (lift _).bind fun _ => (shown value).bind fun _ => (writeFile _ _).bind fun _ => pure _

end Library

end Calm

def BrokenOff {α : Type} (step : Ledgers → Ledgers → Prop) (ledgers : Ledgers)
    (result : EStateM.Result Failure Machine α) : Prop :=
  ∃ place, result = .error .tooDeep place ∧ Relation.ReflTransGen step place.ledgers ledgers

-- Steps lead from the ledgers before to those after, however the first computation ends. The second
-- one does the same or is broken off on the way.
structure Advances {α : Type} (step : Ledgers → Ledgers → Prop) (action other : Eval α) : Prop where
  leads (machine : Machine) : Relation.ReflTransGen step machine.ledgers (final (action machine)).ledgers
  meets (machine : Machine) :
    other machine = action machine ∨ BrokenOff step (final (action machine)).ledgers (other machine)

namespace Advances

variable {α β : Type} {step : Ledgers → Ledgers → Prop} {action other : Eval α} {next later : α → Eval β}

theorem calm (calm : Calm action) : Advances step action action where
  leads machine := by rw [calm machine]
  meets _ := .inl rfl

theorem leads_on (rest : ∀ value, Advances step (next value) (later value)) (machine : Machine) :
    Relation.ReflTransGen step (final (action machine)).ledgers
      (final ((action >>= next) machine)).ledgers := by
  change Relation.ReflTransGen step _ (final (EStateM.bind action next machine)).ledgers
  unfold EStateM.bind
  cases action machine with
  | ok value after => exact (rest value).leads after
  | error failure after => exact .refl

theorem bind (first : Advances step action other) (rest : ∀ value, Advances step (next value) (later value)) :
    Advances step (action >>= next) (other >>= later) where
  leads machine := (first.leads machine).trans (leads_on rest machine)
  meets machine := by
    rcases first.meets machine with same | ⟨place, broken, led⟩
    · change EStateM.bind other later machine = EStateM.bind action next machine ∨
        BrokenOff step (final (EStateM.bind action next machine)).ledgers (EStateM.bind other later machine)
      unfold EStateM.bind
      rw [same]
      cases action machine with
      | ok value after => exact (rest value).meets after
      | error failure after => exact .inl rfl
    · refine .inr ⟨place, ?_, led.trans (leads_on rest machine)⟩
      change EStateM.bind other later machine = _
      unfold EStateM.bind
      rw [broken]

theorem pure (value : α) : Advances step (Pure.pure value) (Pure.pure value) := calm (.pure value)

theorem after {first : Eval α} (calmly : Calm first)
    (rest : ∀ value, Advances step (next value) (later value)) :
    Advances step (first >>= next) (first >>= later) := (calm calmly).bind rest

theorem get {next later : Machine → Eval α} (rest : ∀ machine, Advances step (next machine) (later machine)) :
    Advances step (MonadState.get >>= next) (MonadState.get >>= later) where
  leads machine := (rest machine).leads machine
  meets machine := (rest machine).meets machine

theorem both {test : Prop} [Decidable test] {first second firstOther secondOther : Eval α}
    (yes : Advances step first firstOther) (no : Advances step second secondOther) :
    Advances step (if test then first else second) (if test then firstOther else secondOther) := by
  split
  · exact yes
  · exact no

theorem located (span : Source.Span) (inner : Advances step action other) :
    Advances step (Eval.located span action) (Eval.located span other) where
  leads machine := by
    have led := inner.leads machine
    unfold Eval.located
    cases ran : action machine with
    | ok value after | error failure after =>
        rw [ran] at led
        exact led
  meets machine := by
    unfold Eval.located
    rcases inner.meets machine with same | ⟨place, broken, led⟩
    · rw [same]
      exact .inl rfl
    · rw [broken]
      refine .inr ⟨place, rfl, ?_⟩
      cases ran : action machine with
      | ok value after | error failure after =>
          rw [ran] at led
          exact led

theorem takingFaults (name : String) (inner : Advances step action other) :
    Advances step (takingFaults name action) (Machine.takingFaults name other) := by
  have ledgers : ∀ machine,
      (final (Machine.takingFaults name action machine)).ledgers = (final (action machine)).ledgers := by
    intro machine
    unfold Machine.takingFaults
    cases action machine with
    | ok value after => rfl
    | error failure after => cases failure <;> rfl
  refine ⟨fun machine => ?_, fun machine => ?_⟩
  · rw [ledgers]
    exact inner.leads machine
  · rw [ledgers]
    unfold Machine.takingFaults
    rcases inner.meets machine with same | ⟨place, broken, led⟩
    · rw [same]
      exact .inl rfl
    · rw [broken]
      exact .inr ⟨place, rfl, led⟩

theorem inScope (scope : Nat) (inner : Advances step action other) :
    Advances step (Eval.inScope scope action) (Eval.inScope scope other) := by
  have ledgers : ∀ machine, (final (Eval.inScope scope action machine)).ledgers =
      (final (action { machine with current := scope })).ledgers := by
    intro machine
    unfold Eval.inScope
    cases action { machine with current := scope } with
    | ok value after | error failure after => rfl
  refine ⟨fun machine => ?_, fun machine => ?_⟩
  · rw [ledgers]
    exact inner.leads { machine with current := scope }
  · rw [ledgers]
    unfold Eval.inScope
    rcases inner.meets { machine with current := scope } with same | ⟨place, broken, led⟩
    · rw [same]
      exact .inl rfl
    · rw [broken]
      exact .inr ⟨{ place with current := machine.current }, rfl, led⟩

theorem inNewScope (inner : Advances step action other) :
    Advances step (Eval.inNewScope action) (Eval.inNewScope other) :=
  .get fun _ => after (.openScope _) fun scope => inScope scope inner

section Callbacks

variable {call called : Value → List Value → Eval Value}
  (calls : ∀ callee arguments, Advances step (call callee arguments) (called callee arguments))

include calls

theorem mapItems (function : Value) (items : List Value) :
    Advances step (Library.mapItems call function items) (Library.mapItems called function items) := by
  induction items with
  | nil => exact pure _
  | cons item rest ih => exact (calls _ _).bind fun _ => ih.bind fun _ => pure _

theorem acceptItems (function : Value) (items : List Value) :
    Advances step (Library.acceptItems call function items) (Library.acceptItems called function items) := by
  induction items with
  | nil => exact pure _
  | cons item rest ih => exact (calls _ _).bind fun _ => ih.bind fun _ => pure _

theorem foldItems (function joined : Value) (items : List Value) :
    Advances step (Library.foldItems call function joined items)
      (Library.foldItems called function joined items) := by
  induction items generalizing joined with
  | nil => exact pure _
  | cons item rest ih => exact (calls _ _).bind fun next => ih next

theorem mapNumbers (what : String) (function : Value) (numbers : List Float) :
    Advances step (Library.mapNumbers call what function numbers)
      (Library.mapNumbers called what function numbers) := by
  induction numbers with
  | nil => exact pure _
  | cons x rest ih => exact (calls _ _).bind fun _ => after (.lift _) fun _ => ih.bind fun _ => pure _

theorem reduceFrom (function : Value) (initial : Option Value) (items : List Value) :
    Advances step (Library.reduceFrom call function initial items)
      (Library.reduceFrom called function initial items) := by
  unfold Library.reduceFrom
  split
  · exact foldItems calls _ _ _
  · exact foldItems calls _ _ _
  · exact calm (.throw _)

theorem apply (builtin : Builtin) (arguments : List Value) :
    Advances step (builtin.apply call arguments) (builtin.apply called arguments) := by
  unfold Builtin.apply
  split
  case h_1 => exact calm (.len _)
  case h_10 => exact after (.lift _) fun _ => after (.lift _) fun _ => (mapItems calls _ _).bind fun _ => pure _
  case h_11 => exact after (.lift _) fun _ => after (.lift _) fun _ => (acceptItems calls _ _).bind fun _ => pure _
  case h_12 => exact after (.lift _) fun _ => after (.lift _) fun _ => reduceFrom calls _ _ _
  case h_13 => exact after (.lift _) fun _ => after (.lift _) fun _ => reduceFrom calls _ _ _
  case h_17 => exact calm (.display _)
  case h_18 => exact calm (.assertion _ _)
  case h_19 => exact calm (.assertion _ _)
  case h_21 => exact calm (.raise _)
  case h_22 => exact pure _
  case h_24 =>
    exact after (.lift _) fun _ => after (.lift _) fun _ => after (.lift _) fun _ => after (.lift _) fun _ =>
      (acceptItems calls _ _).bind fun _ => after (.lift _) fun _ => pure _
  case h_26 =>
    exact after (.lift _) fun _ => after (.lift _) fun _ => after (.lift _) fun _ => after (.lift _) fun _ =>
      (mapNumbers calls _ _ _).bind fun _ => after (.lift _) fun _ => pure _
  case h_27 => exact calm .valuationModel
  case h_28 => exact calm (.loadCsv _)
  case h_29 => exact calm (.saveCsv _ _)
  case h_30 => exact calm (.readText _)
  case h_31 => exact calm (.writeText _ _)
  all_goals exact calm (.lift _)

end Callbacks

end Advances

end Fiscal
