import Fiscal.Number.Numeral
import Fiscal.Fault

set_option autoImplicit false

namespace Fiscal.Csv

open Number (isPlainBlank splitSign digitsValue)

def missingWords : List String := [
  "", "#N/A", "#N/A N/A", "#NA", "-1.#IND", "-1.#QNAN", "-NaN", "-nan", "1.#IND", "1.#QNAN",
  "<NA>", "N/A", "NA", "NULL", "NaN", "None", "n/a", "nan", "null"]

def isMissing (word : String) : Bool := missingWords.contains word

def firstMissing? (words : List String) : Option Nat := words.findIdx? isMissing

inductive WholeError where
  | outOfRange
  | otherSpelling
  deriving DecidableEq, Repr

def readWhole (low high : Int) (word : String) : Except WholeError Int :=
  let (negative, rest) := splitSign (word.toList.dropWhile isPlainBlank)
  let digits := rest.takeWhile Char.isDigit
  let magnitude : Int := digitsValue digits
  let value := if negative then -magnitude else magnitude
  if digits.isEmpty then .error .otherSpelling
  else if value < low || high < value then .error .outOfRange
  else if (rest.dropWhile Char.isDigit).all isPlainBlank then .ok value
  else .error .otherSpelling

def leastWord : Int := -Int.pow 2 63

def greatestWord : Int := Int.pow 2 63 - 1

def greatestNatural : Int := Int.pow 2 64 - 1

def readWholes (low high : Int) (words : List String) : Except WholeError (List Int) :=
  words.mapM (readWhole low high)

def powerOfTen (exponent : Nat) : Float := Number.Decimal.toFloat ⟨1, exponent⟩ false

def scale (x : Float) (exponent : Int) : Float :=
  if 0 ≤ exponent then x * powerOfTen exponent.toNat
  else if exponent < -308 then
    x / powerOfTen (-308 - exponent).toNat / powerOfTen 308
  else x / powerOfTen (-exponent).toNat

def maxDigits : Nat := 17

def roundedDigits (digits : List Char) : Float :=
  digits.foldl (fun value c => value * 10 + Number.ofNat (c.toNat - 0x30)) 0

def readExponentPart (chars : List Char) : Int × List Char :=
  match chars with
  | c :: rest =>
      if c = 'e' || c = 'E' then
        let (negative, tail) := splitSign rest
        let digits := (tail.takeWhile Char.isDigit).take maxDigits
        if digits.isEmpty then (0, chars)
        else
          let magnitude : Int := digitsValue digits
          (if negative then -magnitude else magnitude, tail.drop digits.length)
      else (0, chars)
  | [] => (0, [])

-- A number read digit by digit: the digits beyond the seventeenth only shift the point. The
-- flag tells whether it is spelled as a whole number.
def readRounded? (word : String) : Option (Float × Bool) :=
  let (negative, body) := splitSign (word.toList.dropWhile isPlainBlank)
  let whole := body.takeWhile Char.isDigit
  let afterWhole := body.dropWhile Char.isDigit
  let hasPoint := afterWhole.head? == some '.'
  let fraction := if hasPoint then (afterWhole.drop 1).takeWhile Char.isDigit else []
  let afterFraction :=
    if hasPoint then (afterWhole.drop 1).dropWhile Char.isDigit else afterWhole
  let wholeUsed := whole.take maxDigits
  let fractionUsed := fraction.take (maxDigits - wholeUsed.length)
  let (shift, rest) := readExponentPart afterFraction
  let exponent : Int := (whole.length - wholeUsed.length : Nat) - (fractionUsed.length : Int) + shift
  let magnitude := roundedDigits (wholeUsed ++ fractionUsed)
  let value := scale (if negative then -magnitude else magnitude) exponent
  if whole.isEmpty && fraction.isEmpty then none
  else if 308 < exponent || Number.isInfinite value || !rest.all isPlainBlank then none
  else some (value, !hasPoint && rest.length == afterFraction.length)

def infiniteWord? (word : String) : Option Float :=
  let (negative, rest) := splitSign (word.toList.map Char.toLower)
  let name := String.ofList rest
  if name = "inf" || name = "infinity" then some (Number.ofBits negative Number.infinityBits)
  else none

def readNumber? (word : String) : Option Float :=
  match readRounded? word with
  | some (value, _) => some value
  | none => infiniteWord? word

def truthValue? : String → Option Float
  | "True" | "TRUE" | "true" => some 1
  | "False" | "FALSE" | "false" => some 0
  | _ => none

def readSingle (index : Nat) (word : String) : Except Fault Float :=
  match readRounded? word with
  | some (value, isWhole) =>
      if !isWhole then .ok value
      else
        match readWhole leastWord greatestNatural word with
        | .ok whole => .ok (Number.ofInt whole)
        | .error _ =>
            .error (.malformedTable
              ("Integer out of range. at position " ++ toString index))
  | none =>
      match infiniteWord? word with
      | some value => .ok value
      | none =>
          .error (.malformedTable
            ("Unable to parse string \"" ++ word ++ "\" at position " ++ toString index))

def readSingles (index : Nat) : List String → Except Fault (List Float)
  | [] => .ok []
  | word :: rest => do
      let value ← readSingle index word
      let values ← readSingles (index + 1) rest
      return value :: values

def readMixed (words : List String) : Except Fault (List Float) :=
  match words.mapM readNumber? with
  | some values => .ok values
  | none =>
      match words.mapM truthValue? with
      | some values => .ok values
      | none => readSingles 0 words

def isNegated (word : String) : Bool :=
  (word.toList.dropWhile isPlainBlank).head? == some '-'

def readNaturals (words : List String) : Except Fault (List Float) :=
  match readWholes 0 greatestNatural (words.filter fun word => !isNegated word) with
  | .error .otherSpelling => readMixed words
  | .error .outOfRange => readSingles 0 words
  | .ok naturals =>
      if words.any isNegated then readSingles 0 words
      else .ok (naturals.map Number.ofInt)

def readColumn (words : List String) : Except Fault (List Float) :=
  match readWholes leastWord greatestWord words with
  | .ok wholes => .ok (wholes.map Number.ofInt)
  | .error .otherSpelling => readMixed words
  | .error .outOfRange => readNaturals words

end Fiscal.Csv
