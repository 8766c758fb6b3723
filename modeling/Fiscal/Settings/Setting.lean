import Fiscal.Fault
import Fiscal.Number.Numeral

set_option autoImplicit false

namespace Fiscal

inductive Setting where
  | null
  | bool (value : Bool)
  | int (value : Int)
  | float (value : Float)
  | text (value : String)
  | list (items : List Setting)
  | mapping (entries : List (Setting × Setting))

-- Why a configuration is not accepted: it is refused with a message, or a conversion fails
-- with a fault that is not taken over.
inductive SettingsError where
  | refused (message : String)
  | fault (fault : Fault)

namespace Setting

def kindName : Setting → String
  | null => "NoneType"
  | bool _ => "bool"
  | int _ => "int"
  | float _ => "float"
  | text _ => "str"
  | list _ => "list"
  | mapping _ => "dict"

def isEmpty : Setting → Bool
  | null => true
  | bool value => !value
  | int value => value == 0
  | float value => value == 0
  | text value => value == ""
  | list items => items.isEmpty
  | mapping entries => entries.isEmpty

def scalar? : Setting → Option Float
  | bool value => some (if value then 1 else 0)
  | int value => some (Number.ofInt value)
  | float value => some value
  | _ => none

def isWholeScalar : Setting → Option Int
  | bool value => some (if value then 1 else 0)
  | int value => some value
  | _ => none

-- Whether two scalars are the same key of a mapping; numbers compare by value.
def sameKey : Setting → Setting → Bool
  | null, null => true
  | text a, text b => a == b
  | a, b =>
      match isWholeScalar a, isWholeScalar b with
      | some x, some y => x == y
      | _, _ =>
          match scalar? a, scalar? b with
          | some x, some y => x == y
          | _, _ => false

def putEntry (key value : Setting) : List (Setting × Setting) → List (Setting × Setting)
  | [] => [(key, value)]
  | (known, old) :: rest =>
      if sameKey known key then (known, value) :: rest
      else (known, old) :: putEntry key value rest

mutual

def quoted : Setting → String
  | null => "None"
  | bool value => if value then "True" else "False"
  | int value => toString value
  | float value => Number.exact value
  | text value => Text.quoted value
  | list items => "[" ++ String.intercalate ", " (quotedItems items) ++ "]"
  | mapping entries => "\x7b" ++ String.intercalate ", " (quotedEntries entries) ++ "\x7d"

def quotedItems : List Setting → List String
  | [] => []
  | item :: rest => quoted item :: quotedItems rest

def quotedEntries : List (Setting × Setting) → List String
  | [] => []
  | (key, value) :: rest => (quoted key ++ ": " ++ quoted value) :: quotedEntries rest

end

def plain : Setting → String
  | text value => value
  | value => value.quoted

def invalid {α : Type} (reason : String) : Except SettingsError α :=
  .error (.refused ("invalid configuration value: " ++ reason))

def maxDigits : Nat := 4300

mutual

def isWritable : Setting → Bool
  | int value => value.natAbs < 10 ^ maxDigits
  | list items => areWritable items
  | mapping entries => entriesWritable entries
  | _ => true

def areWritable : List Setting → Bool
  | [] => true
  | item :: rest => isWritable item && areWritable rest

def entriesWritable : List (Setting × Setting) → Bool
  | [] => true
  | (key, value) :: rest => isWritable key && isWritable value && entriesWritable rest

end

def toText (setting : Setting) : Except SettingsError String :=
  if setting.isWritable then .ok setting.plain
  else invalid ("Exceeds the limit (4300 digits) for integer string conversion; "
    ++ "use sys.set_int_max_str_digits() to increase the limit")

def textToInt (value : String) : Except SettingsError Int :=
  match Number.readInt? value with
  | none => invalid ("invalid literal for int() with base 10: " ++ Text.quoted value)
  | some n =>
      let digits := (Number.plainNumeral value).countP Char.isDigit
      if maxDigits < digits then
        invalid ("Exceeds the limit (4300 digits) for integer string conversion: value has "
          ++ toString digits
          ++ " digits; use sys.set_int_max_str_digits() to increase the limit")
      else .ok n

def toInt : Setting → Except SettingsError Int
  | bool value => .ok (if value then 1 else 0)
  | int value => .ok value
  | float value =>
      if Number.isNaN value then invalid "cannot convert float NaN to integer"
      else if Number.isInfinite value then .error (.fault .infiniteWhole)
      else .ok (Number.truncate value)
  | text value => textToInt value
  | value =>
      invalid ("int() argument must be a string, a bytes-like object or a real number, not '"
        ++ value.kindName ++ "'")

def toFloat : Setting → Except SettingsError Float
  | bool value => .ok (if value then 1 else 0)
  | int value =>
      let nearest := Number.ofInt value
      if Number.isFinite nearest then .ok nearest else .error (.fault .wholeTooLarge)
  | float value => .ok value
  | text value =>
      match Number.read? value with
      | some number => .ok number
      | none => invalid ("could not convert string to float: " ++ Text.quoted value)
  | value =>
      invalid ("float() argument must be a string or a real number, not '"
        ++ value.kindName ++ "'")

def items? : Setting → Option (List Setting)
  | text value => some (value.toList.map fun c => text c.toString)
  | list items => some items
  | mapping entries => some (entries.map Prod.fst)
  | _ => none

def toItems (setting : Setting) : Except SettingsError (List Setting) :=
  match setting.items? with
  | some items => .ok items
  | none => invalid ("'" ++ setting.kindName ++ "' object is not iterable")

def toPair (index : Nat) (item : Setting) : Except SettingsError (Setting × Setting) :=
  match item.items? with
  | none =>
      invalid ("cannot convert dictionary update sequence element #" ++ toString index
        ++ " to a sequence")
  | some [key, value] =>
      match key with
      | list _ | mapping _ => invalid ("unhashable type: '" ++ key.kindName ++ "'")
      | _ => .ok (key, value)
  | some items =>
      invalid ("dictionary update sequence element #" ++ toString index ++ " has length "
        ++ toString items.length ++ "; 2 is required")

def pairsFrom (index : Nat) (entries : List (Setting × Setting)) :
    List Setting → Except SettingsError (List (Setting × Setting))
  | [] => .ok entries
  | item :: rest => do
      let (key, value) ← toPair index item
      pairsFrom (index + 1) (putEntry key value entries) rest

def toEntries : Setting → Except SettingsError (List (Setting × Setting))
  | mapping entries => .ok entries
  | setting => do
      let items ← setting.toItems
      pairsFrom 0 [] items

end Setting

end Fiscal
