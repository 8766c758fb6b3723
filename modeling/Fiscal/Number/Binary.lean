set_option autoImplicit false

namespace Fiscal.Number

def unitsPerOne : Nat := Nat.pow 2 1074

def infinityBits : Nat := 0x7FF0000000000000

def isNaN (x : Float) : Bool := x.isNaN

def isInfinite (x : Float) : Bool := x.isInf

def isFinite (x : Float) : Bool := x.isFinite

def isNegative (x : Float) : Bool := Nat.pow 2 63 ≤ x.toBits.toNat

def magnitudeBits (x : Float) : Nat := x.toBits.toNat % Nat.pow 2 63

def unitsOfBits (bits : Nat) : Nat :=
  let field := bits / Nat.pow 2 52
  let fraction := bits % Nat.pow 2 52
  if field = 0 then fraction else (Nat.pow 2 52 + fraction) * Nat.pow 2 (field - 1)

def divideToEven (num den : Nat) : Nat :=
  let quotient := num / den
  let twice := 2 * (num % den)
  if twice < den || (twice == den && quotient % 2 == 0) then quotient else quotient + 1

-- Magnitude bits of the double nearest to `num / den` units, ties to even.
def bitsOfRatio (num den : Nat) : Nat :=
  let shift := (num / den).log2 + 1 - 53
  -- The rounded significand carries into the exponent field by itself.
  min infinityBits (shift * Nat.pow 2 52 + divideToEven num (den * Nat.pow 2 shift))

def ofBits (negative : Bool) (bits : Nat) : Float :=
  Float.ofBits (UInt64.ofNat (if negative then Nat.pow 2 63 + bits else bits))

def ofRatio (negative : Bool) (num den : Nat) : Float :=
  ofBits negative (bitsOfRatio num den)

def toUnits (x : Float) : Int :=
  let units : Int := unitsOfBits (magnitudeBits x)
  if isNegative x then -units else units

def ofUnits (units : Int) : Float :=
  ofRatio (units < 0) units.natAbs 1

def ofInt (n : Int) : Float :=
  ofRatio (n < 0) (n.natAbs * unitsPerOne) 1

def ofNat (n : Nat) : Float :=
  ofInt n

def truncate (x : Float) : Int :=
  (toUnits x).tdiv unitsPerOne

def isWhole (x : Float) : Bool :=
  isFinite x && toUnits x % unitsPerOne == 0

def infinity : Float := ofBits false infinityBits

def notANumber : Float := infinity - infinity

end Fiscal.Number
