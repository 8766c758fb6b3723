import Fiscal.Number.Arithmetic
import Fiscal.Number.Sum

set_option autoImplicit false

namespace Fiscal

class Scalar (α : Type) where
  ofInt : Int → α
  power : α → Int → α
  -- A power with any exponent, which fails where it has no finite value.
  checkedPower : α → α → Except Fault α
  isFinite : α → Bool
  isWhole : α → Bool
  toFloat : α → Float

namespace Scalar

variable {α : Type} [Scalar α]

def ofNat (n : Nat) : α := ofInt n

def zero : α := ofNat 0

def one : α := ofNat 1

def divide [Div α] [BEq α] (x y : α) : Except Fault α :=
  if y == zero then .error .divisionByZero else .ok (x / y)

end Scalar

instance : Scalar Float where
  ofInt := Number.ofInt
  power base exponent := Float.pow base (Number.ofInt exponent)
  checkedPower := Number.power
  isFinite := Number.isFinite
  isWhole := Number.isWhole
  toFloat x := x

end Fiscal
