import Fiscal.Number.Decimal
import Fiscal.Text.Blank
import Fiscal.Text.Digit

set_option autoImplicit false

namespace Fiscal.Number

def isPlainBlank (c : Char) : Bool :=
  c = ' ' || (0x09 ≤ c.toNat && c.toNat ≤ 0x0D)

def plainDigit (c : Char) : Char :=
  match Text.decimalValue? c with
  | some value => Char.ofNat (0x30 + value)
  | none => c

def plainNumeral (text : String) : List Char :=
  let chars := text.toList
  let padding := if chars.all fun c => c.toNat < 0x80 then isPlainBlank else Text.isBlank
  let body := (chars.dropWhile padding).reverse.dropWhile padding
  body.reverse.map plainDigit

-- Removes underscores that stand between two digits; `before` tells whether a digit precedes.
-- Any other underscore spoils the numeral.
def dropUnderscores (before : Bool) : List Char → Option (List Char)
  | [] => some []
  | '_' :: rest =>
      match rest with
      | next :: _ => if before && next.isDigit then dropUnderscores false rest else none
      | [] => none
  | c :: rest => (dropUnderscores c.isDigit rest).map (c :: ·)

def digitsValue (digits : List Char) : Nat :=
  digits.foldl (fun value c => 10 * value + (c.toNat - 0x30)) 0

def splitSign : List Char → Bool × List Char
  | '-' :: rest => (true, rest)
  | '+' :: rest => (false, rest)
  | rest => (false, rest)

def readWholeExponent (chars : List Char) : Option Int :=
  let (negative, digits) := splitSign chars
  if digits.isEmpty || !digits.all Char.isDigit then none
  else if negative then some (-(digitsValue digits : Int)) else some (digitsValue digits)

def readExponent : List Char → Option Int
  | [] => some 0
  | c :: rest => if c = 'e' || c = 'E' then readWholeExponent rest else none

def readDecimal (chars : List Char) : Option Decimal :=
  let whole := chars.takeWhile Char.isDigit
  let afterWhole := chars.dropWhile Char.isDigit
  let fraction :=
    match afterWhole with
    | '.' :: rest => rest.takeWhile Char.isDigit
    | _ => []
  let afterFraction :=
    match afterWhole with
    | '.' :: rest => rest.dropWhile Char.isDigit
    | rest => rest
  if whole.isEmpty && fraction.isEmpty then none
  else
    (readExponent afterFraction).map fun exponent =>
      ⟨digitsValue (whole ++ fraction), exponent - fraction.length⟩

def readMagnitude (negative : Bool) (chars : List Char) : Option Float :=
  let word := String.ofList (chars.map Char.toLower)
  if word = "inf" || word = "infinity" then some (ofBits negative infinityBits)
  else if word = "nan" then some notANumber
  else (readDecimal chars).map fun d => d.toFloat negative

/-- The double nearest to the number a text spells. -/
def read? (text : String) : Option Float :=
  (dropUnderscores false (plainNumeral text)).bind fun chars =>
    let (negative, magnitude) := splitSign chars
    readMagnitude negative magnitude

def readInt? (text : String) : Option Int :=
  let (negative, magnitude) := splitSign (plainNumeral text)
  (dropUnderscores false magnitude).bind fun digits =>
    if digits.isEmpty || !digits.all Char.isDigit then none
    else if negative then some (-(digitsValue digits : Int)) else some (digitsValue digits)

end Fiscal.Number
