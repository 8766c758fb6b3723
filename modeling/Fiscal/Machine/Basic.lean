import Fiscal.Files.Basic
import Fiscal.Scope
import Fiscal.Settings.Basic
import Fiscal.Value.Coercion

set_option autoImplicit false

namespace Fiscal

open Source

/-- The state of a run: the scopes with the current one, the ledgers, the number of functions
made, the lines written, latest first, the files, the settings, the date of today, and the lines
of the source that is running. -/
structure Machine where
  scopes : Scopes Value
  current : Nat
  ledgers : Ledgers
  functions : Nat
  output : List String
  files : Files
  settings : Settings
  today : String
  lines : List String

abbrev Eval := EStateM Failure Machine

namespace Machine

def start (settings : Settings) (files : Files) (today : String) : Machine where
  scopes := Scopes.global (Builtin.all.map fun builtin => (builtin.name, .builtin builtin))
  current := 0
  ledgers := #[]
  functions := 0
  output := []
  files := files
  settings := settings
  today := today
  lines := []

end Machine

namespace Eval

variable {α : Type}

def lift : Except Failure α → Eval α
  | .ok value => pure value
  | .error failure => throw failure

def liftFault (result : Except Fault α) : Eval α := lift (Fault.lift result)

def failAt (issue : Issue) (span : Span) : Eval α := throw (.issue issue (some span))

def located (span : Span) (action : Eval α) : Eval α := fun machine =>
  match action machine with
  | .ok value machine => .ok value machine
  | .error failure machine => .error (failure.located span) machine

-- Runs a computation with another current scope, and restores the former one however it
-- ends.
def inScope (scope : Nat) (action : Eval α) : Eval α := fun machine =>
  let former := machine.current
  match action { machine with current := scope } with
  | .ok value after => .ok value { after with current := former }
  | .error failure after => .error failure { after with current := former }

def openScope (outer : Nat) : Eval Nat := fun machine =>
  .ok machine.scopes.size { machine with scopes := machine.scopes.enter outer }

def inNewScope (action : Eval α) : Eval α := do
  let scope ← openScope (← get).current
  inScope scope action

def define (name : String) (value : Value) : Eval Unit :=
  modify fun machine =>
    { machine with scopes := machine.scopes.define machine.current name value }

def assign (name : String) (value : Value) : Eval Unit := fun machine =>
  match machine.scopes.owner? machine.current name with
  | some owner => .ok () { machine with scopes := machine.scopes.define owner name value }
  | none => .error (.undefinedVariable name) machine

def lookup (name : String) : Eval Value := do
  let machine ← get
  match machine.scopes.get? machine.current name with
  | some value => return value
  | none => throw (.undefinedVariable name)

def lookupGlobal (name : String) : Eval Value := do
  let machine ← get
  match machine.scopes.global? machine.current name with
  | some value => return value
  | none => throw (.undefinedVariable ("global::" ++ name))

def lookupOuter (name : String) : Eval Value := do
  let machine ← get
  match machine.scopes.outer? machine.current name with
  | some value => return value
  | none => throw (.undefinedVariable ("parent::" ++ name))

def lookupLocal? (name : String) : Eval (Option Value) := do
  let machine ← get
  return machine.scopes.local? machine.current name

def isBound (name : String) : Eval Bool := do
  let machine ← get
  return machine.scopes.contains machine.current name

def write (line : String) : Eval Unit :=
  modify fun machine => { machine with output := line :: machine.output }

def shown (value : Value) : Eval String := return value.shown (← get).ledgers

def newIdentity : Eval Nat := fun machine =>
  .ok machine.functions { machine with functions := machine.functions + 1 }

def newLedger : Eval Nat := fun machine =>
  .ok machine.ledgers.size { machine with ledgers := machine.ledgers.push [] }

def post (ledger : Nat) (entry : Entry) : Eval Unit :=
  modify fun machine => { machine with ledgers := machine.ledgers.post ledger entry }

end Eval

end Fiscal
