import Fiscal.Number.Decimal

set_option autoImplicit false

namespace Fiscal.Number

def onGrid (units : Nat) (exponent : Int) : Nat × Nat :=
  (units * Nat.pow 10 (-exponent).toNat, unitsPerOne * Nat.pow 10 exponent.toNat)

def decimalPointFrom (units : Nat) : Nat → Int → Int
  | 0, k => k
  | steps + 1, k =>
      let grid := onGrid units k
      if grid.1 < grid.2 then k else decimalPointFrom units steps (k + 1)

-- A power of ten from the binary order, at most two below the answer, starts the search.
def decimalPoint (units : Nat) : Int :=
  let order : Int := (units.log2 : Int) - 1074
  decimalPointFrom units 4 ((order * 30103) / 100000 - 1)

def roundToGrid (units : Nat) (exponent : Int) : Decimal :=
  let grid := onGrid units exponent
  ⟨divideToEven grid.1 grid.2, exponent⟩

def neighbours (units : Nat) (exponent : Int) : List Decimal :=
  let grid := onGrid units exponent
  let low := grid.1 / grid.2
  let near := divideToEven grid.1 grid.2
  [⟨near, exponent⟩, ⟨if near = low then low + 1 else low, exponent⟩]

def exactDecimal (units : Nat) : Decimal := ⟨units * Nat.pow 5 1074, -1074⟩

def shortestOfBits (bits : Nat) : Decimal :=
  let units := unitsOfBits bits
  let point := decimalPoint units
  let candidates := (List.range 17).flatMap fun count : Nat =>
    neighbours units (point - (count + 1 : Nat))
  ((candidates.find? fun d => d.bits == bits).getD (exactDecimal units)).normalize

end Fiscal.Number
