import Fiscal.Number.Binary

set_option autoImplicit false

namespace Fiscal.Number

structure Decimal where
  digits : Nat
  exponent : Int
  deriving DecidableEq, Repr

namespace Decimal

def digitCount (n : Nat) : Nat := (Nat.toDigits 10 n).length

-- Magnitude bits of the nearest double. A decimal far out of range is decided by its order of
-- magnitude alone.
def bits (d : Decimal) : Nat :=
  if d.digits = 0 then 0
  else if digitCount d.digits + d.exponent > 400 then infinityBits
  else if digitCount d.digits + d.exponent < -400 then 0
  else
    bitsOfRatio (d.digits * Nat.pow 10 d.exponent.toNat * unitsPerOne)
      (Nat.pow 10 (-d.exponent).toNat)

def toFloat (d : Decimal) (negative : Bool) : Float :=
  ofBits negative d.bits

def trimZeros : Nat → Decimal → Decimal
  | 0, d => d
  | count + 1, d =>
      if d.digits % 10 = 0 ∧ d.digits ≠ 0 then
        trimZeros count ⟨d.digits / 10, d.exponent + 1⟩
      else d

def normalize (d : Decimal) : Decimal := trimZeros (digitCount d.digits) d

end Decimal

end Fiscal.Number
