import Fiscal.Machine.Evaluator

set_option autoImplicit false

namespace Fiscal.Machine

variable (parts : Evaluator)

def cashflow (expr : Expr) : Eval (List Float) :=
  match expr with
  | .binary _ left .add right => do
      let first ← cashflow left
      let second ← cashflow right
      return List.zipWith (· + ·) first second
  | .binary _ left .subtract right => do
      let first ← cashflow left
      let second ← cashflow right
      return List.zipWith (· - ·) first second
  | expr => parts.numbers "cashflow" expr

end Fiscal.Machine
