import Fiscal.Settings.Setting

set_option autoImplicit false

namespace Fiscal.Yaml

open Number (splitSign)

def nullWords : List String := ["", "~", "null", "Null", "NULL"]

def trueWords : List String :=
  ["yes", "Yes", "YES", "true", "True", "TRUE", "on", "On", "ON"]

def falseWords : List String :=
  ["no", "No", "NO", "false", "False", "FALSE", "off", "Off", "OFF"]

def isDigitOrLow (c : Char) : Bool := c.isDigit || c == '_'

def digit? (base : Nat) (c : Char) : Option Nat :=
  let value :=
    if c.isDigit then c.toNat - 0x30
    else if 'a' ≤ c.toLower && c.toLower ≤ 'f' then c.toLower.toNat - 0x57
    else 16
  if value < base then some value else none

def readBase? (base : Nat) (chars : List Char) : Option Nat :=
  if chars.isEmpty then none
  else
    ((chars.filter (· != '_')).mapM (digit? base)).map
      (List.foldl (fun value digit => base * value + digit) 0)

def splitColons (part : List Char) : List Char → List (List Char)
  | [] => [part.reverse]
  | c :: rest =>
      if c = ':' then part.reverse :: splitColons [] rest else splitColons (c :: part) rest

def sixty? (part : List Char) : Option Nat :=
  match part with
  | [low] => digit? 10 low
  | [high, low] => do
      let tens ← digit? 6 high
      let ones ← digit? 10 low
      return 10 * tens + ones
  | _ => none

def readSixty? (chars : List Char) : Option Nat :=
  match splitColons [] chars with
  | first :: second :: rest => do
      let high ← readBase? 10 first
      let places ← (second :: rest).mapM sixty?
      return places.foldl (fun value place => 60 * value + place) high
  | _ => none

def startsWithDigit (chars : List Char) : Bool := (chars.head?.map Char.isDigit).getD false

def readMagnitude? (chars : List Char) : Option Nat :=
  match chars with
  | ['0'] => some 0
  | '0' :: 'b' :: rest => readBase? 2 rest
  | '0' :: 'x' :: rest => readBase? 16 rest
  | '0' :: rest => readBase? 8 rest
  | chars =>
      if !startsWithDigit chars then none
      else
        match readBase? 10 chars with
        | some value => some value
        | none => readSixty? chars

def readInt? (text : String) : Option Int :=
  let (negative, rest) := splitSign text.toList
  (readMagnitude? rest).map fun value => if negative then -(value : Int) else value

def isExponent : List Char → Bool
  | [] => true
  | letter :: sign :: digits =>
      (letter == 'e' || letter == 'E') && (sign == '+' || sign == '-')
        && !digits.isEmpty && digits.all Char.isDigit
  | _ => false

def isFraction (text : String) : Bool :=
  let rest := (splitSign text.toList).2
  let whole := rest.takeWhile isDigitOrLow
  match rest.dropWhile isDigitOrLow with
  | '.' :: tail =>
      let places := tail.takeWhile isDigitOrLow
      let valid :=
        if whole.isEmpty then startsWithDigit places && rest.length == text.length
        else startsWithDigit whole
      valid && isExponent (tail.dropWhile isDigitOrLow)
  | _ => false

def readSixtyFraction? (text : String) : Option Float :=
  let (negative, rest) := splitSign text.toList
  let whole := rest.takeWhile (· != '.')
  match rest.dropWhile (· != '.') with
  | '.' :: places => do
      if !startsWithDigit whole || !places.all isDigitOrLow then none
      else
        let value ← readSixty? whole
        let fraction ← Number.read? ("0." ++ String.ofList (places.filter (· != '_')))
        let magnitude := Number.ofNat value + fraction
        return if negative then -magnitude else magnitude
  | _ => none

def readFloat? (text : String) : Option Float :=
  let (negative, rest) := splitSign text.toList
  let word := String.ofList rest
  if [".inf", ".Inf", ".INF"].contains word then
    some (Number.ofBits negative Number.infinityBits)
  else if [".nan", ".NaN", ".NAN"].contains text then some Number.notANumber
  else if isFraction text then
    Number.read? (String.ofList (text.toList.filter (· != '_')))
  else readSixtyFraction? text

def resolve (text : String) : Setting :=
  if nullWords.contains text then .null
  else if trueWords.contains text then .bool true
  else if falseWords.contains text then .bool false
  else
    match readFloat? text, readInt? text with
    | some value, _ => .float value
    | none, some value => .int value
    | none, none => .text text

end Fiscal.Yaml
