import Fiscal.Number.Shortest

set_option autoImplicit false

namespace Fiscal.Number

structure Layout where
  leastExponent : Int
  exponentLimit : Int
  pointZero : Bool

def listing : Layout := ⟨-4, 16, true⟩

def amount : Layout := ⟨-4, 6, false⟩

def zeros (count : Nat) : String := String.ofList (List.replicate count '0')

def exponentText (exponent : Int) : String :=
  let digits := toString exponent.natAbs
  (if exponent < 0 then "e-" else "e+") ++ (if digits.length < 2 then "0" ++ digits else digits)

def Layout.write (layout : Layout) (d : Decimal) : String :=
  let digits := toString d.digits
  let point : Int := digits.length + d.exponent
  let exponent := point - 1
  if exponent < layout.leastExponent || layout.exponentLimit ≤ exponent then
    let tail := String.ofList (digits.toList.drop 1)
    String.ofList (digits.toList.take 1) ++ (if tail.isEmpty then "" else "." ++ tail)
      ++ exponentText exponent
  else if point ≤ 0 then "0." ++ zeros (-point).toNat ++ digits
  else if digits.length ≤ point then
    digits ++ zeros (point - digits.length).toNat ++ (if layout.pointZero then ".0" else "")
  else
    String.ofList (digits.toList.take point.toNat) ++ "."
      ++ String.ofList (digits.toList.drop point.toNat)

def signed (x : Float) (magnitude : String) : String :=
  if isNegative x then "-" ++ magnitude else magnitude

def writeWith (zero : String) (write : Nat → String) (x : Float) : String :=
  if isNaN x then "nan"
  else if isInfinite x then signed x "inf"
  else if magnitudeBits x = 0 then signed x zero
  else signed x (write (magnitudeBits x))

/-- The fewest digits that read back. -/
def exact (x : Float) : String :=
  writeWith "0.0" (fun bits => listing.write (shortestOfBits bits)) x

def sixDigits (units : Nat) : Decimal :=
  (roundToGrid units (decimalPoint units - 6)).normalize

def brief (x : Float) : String :=
  writeWith "0" (fun bits => amount.write (sixDigits (unitsOfBits bits))) x

-- Whole numbers below ten to the sixteenth are written without a point, and zero without a
-- sign.
def display (x : Float) : String :=
  if isWhole x && magnitudeBits x < Decimal.bits ⟨1, 16⟩ then toString (truncate x) else exact x

def roundTo (places : Nat) (x : Float) : Float :=
  if isFinite x then
    let rounded := roundToGrid (unitsOfBits (magnitudeBits x)) (-(places : Int))
    rounded.toFloat (isNegative x)
  else x

end Fiscal.Number
