import Fiscal.Library.Apply
import Fiscal.Machine.Evaluator

set_option autoImplicit false

namespace Fiscal.Machine

open Source (Issue)

def faultIssue (name : String) (fault : Fault) : Issue :=
  if fault.isDivision then .divisionByZero else .callFailed name fault

-- Takes over the faults of an action that is called by name.
def takingFaults {α : Type} (name : String) (action : Eval α) : Eval α := fun machine =>
  match action machine with
  | .error (.fault fault) machine => .error (.issue (faultIssue name fault) none) machine
  | result => result

def requireCount (name : String) (expected found : Nat) : Eval Unit :=
  if expected = found then return
  else throw (.issue (.arityMismatch ("'" ++ name ++ "'") (toString expected) found) none)

def bindAll : List String → List Value → Eval Unit
  | parameter :: parameters, argument :: arguments => do
      Eval.define parameter argument
      bindAll parameters arguments
  | _, _ => return

def inCallScope {α : Type} (captured : Nat) (parameters : List String) (arguments : List Value)
    (body : Eval α) : Eval α := do
  let scope ← Eval.openScope captured
  Eval.inScope scope do
    bindAll parameters arguments
    body

variable (parts : Evaluator)

def callLambda (lambda : Lambda) (arguments : List Value) (name : Option String) :
    Eval Value := do
  requireCount (name.getD "lambda") lambda.parameters.length arguments.length
  inCallScope lambda.scope lambda.parameters arguments (parts.evaluate lambda.body)

def callFunction (function : UserFunction) (arguments : List Value) : Eval Value := do
  requireCount function.name function.parameters.length arguments.length
  let outcome ← inCallScope function.scope function.parameters arguments
    (parts.executeAll function.body.statements)
  match outcome with
  | .returned value => return value
  -- The value of the last statement is not given back.
  | .done _ => return .null

def callBuiltin (builtin : Builtin) (arguments : List Value) : Eval Value :=
  takingFaults builtin.name
    (builtin.apply (fun function arguments => parts.call function arguments none) arguments)

def call (callee : Value) (arguments : List Value) (name : Option String) : Eval Value :=
  match callee with
  | .lambda lambda => callLambda parts lambda arguments name
  | .function function => callFunction parts function arguments
  | .builtin builtin => callBuiltin parts builtin arguments
  | other =>
      throw (.typeMismatch
        (name.getD other.kindName ++ " is not callable (" ++ other.kindName ++ ")"))

end Fiscal.Machine
