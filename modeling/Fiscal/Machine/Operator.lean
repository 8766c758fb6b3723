import Fiscal.Number.Arithmetic
import Fiscal.Value.Coercion

set_option autoImplicit false

namespace Fiscal.Value

open Source (Span)

def fail {α : Type} (issue : Source.Issue) (span : Span) : Except Failure α :=
  .error (.issue issue (some span))

-- A power. Zero has no negative power, and a negative base only whole ones.
def raise (span : Span) (base exponent : Float) : Except Failure Float :=
  if base == 0 && exponent < 0 then fail .divisionByZero span
  else
    let result := Float.pow base exponent
    if !Number.isFinite base || !Number.isFinite exponent || Number.isFinite result then .ok result
    else if Number.isNaN result then
      fail (.typeMismatch
        ("'^' has no real result for " ++ Number.display base ++ " ^ "
          ++ Number.display exponent)) span
    else fail (.callFailed "^" .rangeOverflow) span

def compute (span : Span) (op : BinaryOperator) (a b : Float) : Except Failure Value :=
  match op with
  | .add => .ok (number (a + b))
  | .subtract => .ok (number (a - b))
  | .multiply => .ok (number (a * b))
  | .divide => if b == 0 then fail .divisionByZero span else .ok (number (a / b))
  | .modulo =>
      if b == 0 then fail .divisionByZero span else .ok (number (Number.floorRemainder a b))
  | .power => do
      let result ← raise span a b
      return number result
  | .less => .ok (bool (a < b))
  | .lessEqual => .ok (bool (a ≤ b))
  | .greater => .ok (bool (a > b))
  | .greaterEqual => .ok (bool (a ≥ b))
  | op => fail (.typeMismatch ("unknown operator '" ++ op.symbol ++ "'")) span

def isElementwise : BinaryOperator → Bool
  | .add | .subtract => true
  | _ => false

def cannotApply (span : Span) (op : BinaryOperator) (left right : Value) : Except Failure Value :=
  fail (.typeMismatch
    ("cannot apply '" ++ op.symbol ++ "' to " ++ left.kindName ++ " and "
      ++ right.kindName)) span

mutual

-- An operator on two values. Lists are added and subtracted element by element, as far as the
-- shorter one goes.
def combine (span : Span) (op : BinaryOperator) : Value → Value → Except Failure Value
  | list xs, list ys =>
      if isElementwise op then
        match combineItems span op xs ys with
        | .ok items => .ok (list items)
        | .error failure => .error failure
      else cannotApply span op (list xs) (list ys)
  | text x, text y =>
      if op = .add then .ok (text (x ++ y)) else cannotApply span op (text x) (text y)
  | number x, number y => compute span op x y
  | left, right => cannotApply span op left right

def combineItems (span : Span) (op : BinaryOperator) :
    List Value → List Value → Except Failure (List Value)
  | x :: xs, y :: ys =>
      match combine span op x y with
      | .error failure => .error failure
      | .ok item =>
          match combineItems span op xs ys with
          | .ok items => .ok (item :: items)
          | .error failure => .error failure
  | _, _ => .ok []

end

def operate (ledgers : Ledgers) (span : Span) (op : BinaryOperator) (left right : Value) :
    Except Failure Value :=
  match op with
  | .equal => .ok (bool (left.same ledgers right))
  | .notEqual => .ok (bool (!left.same ledgers right))
  | op => combine span op left right

end Fiscal.Value
