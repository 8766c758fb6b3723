import Fiscal.Machine.Basic

/-!
Evaluators: what the rules of the language use to run the parts of a program. A rule is written
once over any evaluator for the parts, and the evaluator of a depth takes for the parts the one of
the depth below.
-/

set_option autoImplicit false

namespace Fiscal

-- How a statement ends: with a value, or with a value on its way to the nearest call.
inductive Outcome where
  | done (value : Value)
  | returned (value : Value)

namespace Outcome

def value : Outcome → Value
  | done value => value
  | returned value => value

def nothing : Outcome := done .null

end Outcome

structure Evaluator where
  evaluate : Expr → Eval Value
  execute : Stmt → Eval Outcome
  -- Calls a value, which the program may know under a name.
  call : Value → List Value → Option String → Eval Value

namespace Evaluator

def evaluateAll (parts : Evaluator) : List Expr → Eval (List Value)
  | [] => return []
  | expr :: rest => do
      let value ← parts.evaluate expr
      let values ← evaluateAll parts rest
      return value :: values

def evaluateFields (parts : Evaluator) : Named Expr → Eval (Named Value)
  | [] => return []
  | (name, expr) :: rest => do
      let value ← parts.evaluate expr
      let values ← evaluateFields parts rest
      return (name, value) :: values

def executeAll (parts : Evaluator) : List Stmt → Eval Outcome
  | [] => return .nothing
  | stmt :: rest => do
      match ← parts.execute stmt with
      | .returned value => return .returned value
      | .done _ => executeAll parts rest

def number (parts : Evaluator) (what : String) (expr : Expr) : Eval Float := do
  Eval.lift ((← parts.evaluate expr).asNumber what)

def whole (parts : Evaluator) (what : String) (expr : Expr) : Eval Int := do
  Eval.lift ((← parts.evaluate expr).asInt what)

def text (parts : Evaluator) (what : String) (expr : Expr) : Eval String := do
  Eval.lift ((← parts.evaluate expr).asText what)

def numbers (parts : Evaluator) (what : String) (expr : Expr) : Eval (List Float) := do
  Eval.lift ((← parts.evaluate expr).asNumbers what)

def numberOr (parts : Evaluator) (what : String) (standard : Float) : Option Expr → Eval Float
  | some expr => parts.number what expr
  | none => return standard

end Evaluator

end Fiscal
