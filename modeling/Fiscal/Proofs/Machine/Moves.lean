import Fiscal.Machine.Call
import Fiscal.Proofs.Scope.Binding

set_option autoImplicit false

namespace Fiscal

namespace Value

def scope? : Value → Option Nat
  | lambda made => some made.scope
  | function declared => some declared.scope
  | _ => none

end Value

namespace Machine

def binding (machine : Machine) (scope : Nat) (name : String) (value : Value) : Machine :=
  { machine with scopes := machine.scopes.define scope name value }

def entering (machine : Machine) (outer : Nat) : Machine :=
  { machine with scopes := machine.scopes.enter outer, current := machine.scopes.size }

theorem size_entering (machine : Machine) (outer : Nat) :
    (machine.entering outer).scopes.size = machine.scopes.size + 1 :=
  Scopes.size_enter _ _

theorem size_le_entering (machine : Machine) (outer : Nat) :
    machine.scopes.size ≤ (machine.entering outer).scopes.size := by
  rw [size_entering]
  exact Nat.le_succ _

def returning (machine : Machine) (scope : Nat) : Machine := { machine with current := scope }

inductive MayEnter (holds : Machine → Value → Prop) (machine : Machine) : Nat → Prop where
  | current : MayEnter holds machine machine.current
  | captured (callee : Value) (outer : Nat) (held : holds machine callee)
      (made : callee.scope? = some outer) : MayEnter holds machine outer

-- The values that get bound satisfy `holds` where they are bound. The flag tells whether new names
-- may appear in the current scope; in a scope opened by the move itself they always may.
inductive Moves (holds : Machine → Value → Prop) : Bool → Machine → Machine → Prop where
  | rest (declares : Bool) (machine : Machine) : Moves holds declares machine machine
  | trans (declares : Bool) (machine middle after : Machine)
      (first : Moves holds declares machine middle) (second : Moves holds declares middle after) :
      Moves holds declares machine after
  | define (machine : Machine) (name : String) (value : Value) (held : holds machine value) :
      Moves holds true machine (machine.binding machine.current name value)
  | assign (declares : Bool) (machine : Machine) (owner : Nat) (name : String) (value : Value)
      (owned : machine.scopes.owner? machine.current name = some owner)
      (held : holds machine value) : Moves holds declares machine (machine.binding owner name value)
  | write (declares : Bool) (machine : Machine) (line : String) :
      Moves holds declares machine { machine with output := line :: machine.output }
  | count (declares : Bool) (machine : Machine) :
      Moves holds declares machine { machine with functions := machine.functions + 1 }
  | ledger (machine : Machine) :
      Moves holds true machine { machine with ledgers := machine.ledgers.push [] }
  | post (machine : Machine) (ledger : Nat) (entry : Entry) :
      Moves holds true machine { machine with ledgers := machine.ledgers.post ledger entry }
  | store (declares : Bool) (machine : Machine) (files : Files) :
      Moves holds declares machine { machine with files := files }
  | inside (declares : Bool) (machine inner : Machine) (outer : Nat)
      (entrance : MayEnter holds machine outer)
      (body : Moves holds true (machine.entering outer) inner) :
      Moves holds declares machine (inner.returning machine.current)

variable {holds : Machine → Value → Prop}

theorem Moves.declaring (declares : Bool) (machine after : Machine)
    (moved : Moves holds false machine after) : Moves holds declares machine after := by
  generalize quiet : false = flag at moved
  induction moved with
  | rest => exact .rest _ _
  | trans _ _ _ _ _ _ first second => exact .trans _ _ _ _ (first quiet) (second quiet)
  | define | ledger | post => cases quiet
  | assign _ _ owner name value owned held => exact .assign _ _ owner name value owned held
  | write _ _ line => exact .write _ _ line
  | count => exact .count _ _
  | store _ _ files => exact .store _ _ files
  | inside _ _ inner outer entrance body => exact .inside _ _ inner outer entrance body

theorem moves_current (declares : Bool) (machine after : Machine)
    (moved : Moves holds declares machine after) : after.current = machine.current := by
  induction moved with
  | trans _ _ _ _ _ _ first second => exact second.trans first
  | _ => rfl

theorem moves_lines (declares : Bool) (machine after : Machine)
    (moved : Moves holds declares machine after) : after.lines = machine.lines := by
  induction moved with
  | trans _ _ _ _ _ _ first second => exact second.trans first
  | inside _ _ _ _ _ _ body => exact body
  | _ => rfl

theorem moves_given (declares : Bool) (machine after : Machine) (moved : Moves holds declares machine after) :
    after.settings = machine.settings ∧ after.today = machine.today := by
  induction moved with
  | trans _ _ _ _ _ _ first second => exact ⟨second.1.trans first.1, second.2.trans first.2⟩
  | inside _ _ _ _ _ _ body => exact body
  | rest | define | assign | write | count | ledger | post | store => exact ⟨rfl, rfl⟩

theorem moves_size (declares : Bool) (machine after : Machine)
    (moved : Moves holds declares machine after) : machine.scopes.size ≤ after.scopes.size := by
  induction moved with
  | trans _ _ _ _ _ _ first second => exact Nat.le_trans first second
  | define | assign => simp [binding]
  | inside _ machine inner outer _ _ body =>
      have kept : (machine.entering outer).scopes.size ≤ inner.scopes.size := body
      rw [size_entering] at kept
      exact Nat.le_of_succ_le kept
  | rest | write | count | ledger | post | store => exact Nat.le_refl _

theorem moves_ledgers (declares : Bool) (machine after : Machine)
    (moved : Moves holds declares machine after) : machine.ledgers.size ≤ after.ledgers.size := by
  induction moved with
  | rest | define | assign | write | count | store => exact Nat.le_refl _
  | trans _ _ _ _ _ _ first second => exact Nat.le_trans first second
  | ledger => simp
  | post => simp [Ledgers.post]
  | inside _ _ _ _ _ _ body => exact body

theorem moves_functions (declares : Bool) (machine after : Machine)
    (moved : Moves holds declares machine after) : machine.functions ≤ after.functions := by
  induction moved with
  | rest | define | assign | write | ledger | post | store => exact Nat.le_refl _
  | trans _ _ _ _ _ _ first second => exact Nat.le_trans first second
  | count => exact Nat.le_succ _
  | inside _ _ _ _ _ _ body => exact body

-- A scope that has been opened since is not among the scopes of the machine before, so what is
-- declared there does not show in them.
theorem moves_names_quiet (declares : Bool) (machine after : Machine)
    (moved : Moves holds declares machine after) (scope : Nat) (old : scope < machine.scopes.size)
    (quiet : declares = false ∨ scope ≠ machine.current) :
    after.scopes.namesAt scope = machine.scopes.namesAt scope := by
  induction moved with
  | trans _ machine middle after before later first second =>
      have size := moves_size _ machine middle before
      have current := moves_current _ machine middle before
      rw [second (Nat.lt_of_lt_of_le old size) (by rwa [current]), first old quiet]
  | define machine name value =>
      rcases quiet with impossible | different
      · cases impossible
      · exact Scopes.names_define_elsewhere _ _ _ name value different
  | assign _ machine owner name value owned =>
      exact Scopes.names_define_known _ owner scope name value
        (Scopes.owner_binds _ _ owner name owned)
  | inside _ machine inner outer _ _ body =>
      have opened : scope < (machine.entering outer).scopes.size := by
        simp only [entering, Scopes.size_enter]
        omega
      have different : scope ≠ (machine.entering outer).current := Nat.ne_of_lt old
      have unchanged : inner.scopes.namesAt scope = (machine.entering outer).scopes.namesAt scope :=
        body opened (.inr different)
      exact unchanged.trans (Scopes.names_enter machine.scopes outer scope old)
  | rest | write | count | ledger | post | store => rfl

theorem moves_names_kept (declares : Bool) (machine after : Machine)
    (moved : Moves holds declares machine after) (scope : Nat) (old : scope < machine.scopes.size) :
    machine.scopes.namesAt scope <+: after.scopes.namesAt scope := by
  induction moved with
  | trans _ machine middle after before later first second =>
      have size := moves_size _ machine middle before
      exact (first old).trans (second (Nat.lt_of_lt_of_le old size))
  | define | assign => exact Scopes.names_prefix_define _ _ scope _ _
  | inside declares machine inner outer entrance body _ =>
      have moved := Moves.inside false machine inner outer entrance body
      have kept := moves_names_quiet false machine _ moved scope old (.inl rfl)
      exact ⟨[], (List.append_nil _).trans kept.symm⟩
  | rest | write | count | ledger | post | store => exact List.prefix_rfl

end Machine

namespace Eval

variable {α β : Type} {machine after : Machine}

theorem bind_ok {action : Eval α} {next : α → Eval β} {result : β}
    (ran : (action >>= next) machine = .ok result after) :
    ∃ value middle, action machine = .ok value middle ∧ next value middle = .ok result after := by
  change EStateM.bind action next machine = _ at ran
  unfold EStateM.bind at ran
  cases first : action machine with
  | ok value middle =>
      rw [first] at ran
      exact ⟨value, middle, rfl, ran⟩
  | error failure middle =>
      rw [first] at ran
      cases ran

theorem bind_run {action : Eval α} {next : α → Eval β} {value : α} {middle : Machine}
    (ran : action machine = .ok value middle) : (action >>= next) machine = next value middle := by
  change EStateM.bind action next machine = _
  unfold EStateM.bind
  rw [ran]

theorem bind_ok_iff (action : Eval α) (next : α → Eval β) (result : β) :
    (action >>= next) machine = .ok result after ↔
      ∃ value middle, action machine = .ok value middle ∧ next value middle = .ok result after := by
  constructor
  · exact bind_ok
  · rintro ⟨value, middle, first, rest⟩
    rw [bind_run first, rest]

theorem located_ok {action : Eval α} {span : Source.Span} {result : α}
    (ran : located span action machine = .ok result after) : action machine = .ok result after := by
  unfold located at ran
  cases first : action machine with
  | ok value middle =>
      rw [first] at ran
      exact ran
  | error failure middle =>
      rw [first] at ran
      cases ran

theorem located_ok_iff (action : Eval α) (span : Source.Span) (result : α) :
    located span action machine = .ok result after ↔ action machine = .ok result after := by
  constructor
  · exact located_ok
  · intro ran
    unfold located
    rw [ran]

theorem define_bind (name : String) (value : Value) (next : Unit → Eval α) :
    (define name value >>= next) machine = next () (machine.binding machine.current name value) := rfl

theorem inScope_ok_iff (scope : Nat) (action : Eval α) (result : α) :
    inScope scope action machine = .ok result after ↔
      ∃ inner, action (machine.returning scope) = .ok result inner ∧
        inner.returning machine.current = after := by
  unfold inScope Machine.returning
  dsimp only
  cases action { machine with current := scope } with
  | ok value inner =>
      rw [EStateM.Result.ok.injEq]
      constructor
      · rintro ⟨rfl, rfl⟩
        exact ⟨inner, rfl, rfl⟩
      · rintro ⟨_, ended, rfl⟩
        cases ended
        exact ⟨rfl, rfl⟩
  | error failure inner => simp

theorem inNewScope_ok_iff (action : Eval α) (result : α) :
    inNewScope action machine = .ok result after ↔
      ∃ inner, action (machine.entering machine.current) = .ok result inner ∧
        inner.returning machine.current = after := by
  refine (inScope_ok_iff machine.scopes.size action result).trans ?_
  rfl

end Eval

section Calls

variable {machine after : Machine}

open Machine

end Calls

end Fiscal
