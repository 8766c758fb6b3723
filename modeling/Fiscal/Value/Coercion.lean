import Fiscal.Value.Basic

set_option autoImplicit false

namespace Fiscal.Value

def mustBe {α : Type} (what wanted : String) (value : Value) : Except Failure α :=
  .error (.typeMismatch (what ++ " must be " ++ wanted ++ ", got " ++ value.kindName))

def asNumber (what : String) : Value → Except Failure Float
  | number value => .ok value
  | value => value.mustBe what "a number"

def asInt (what : String) (value : Value) : Except Failure Int := do
  let amount ← value.asNumber what
  if Number.isWhole amount then return Number.truncate amount
  else
    .error (.typeMismatch (what ++ " must be a whole number, got " ++ Number.display amount))

def asText (what : String) : Value → Except Failure String
  | text value => .ok value
  | value => value.mustBe what "a string"

def itemNumbers (what : String) (index : Nat) : List Value → Except Failure (List Float)
  | [] => .ok []
  | number value :: rest => do
      let others ← itemNumbers what (index + 1) rest
      return value :: others
  | item :: _ =>
      .error (.typeMismatch
        (what ++ " element at index " ++ toString index ++ " must be numeric, got "
          ++ item.kindName))

def asNumbers (what : String) : Value → Except Failure (List Float)
  | cashflow flows => .ok flows
  | list items => itemNumbers what 0 items
  | value => value.mustBe what "a list of numbers"

def asList (what : String) : Value → Except Failure (List Value)
  | list items => .ok items
  | value => value.mustBe what "a list"

def asTable (what : String) : Value → Except Failure Table
  | table grid => .ok grid
  | value => value.mustBe what "a TABLE"

def asCallable (what : String) (value : Value) : Except Failure Value :=
  if value.isCallable then .ok value else value.mustBe what "a function or lambda"

def ofOption (amount : Option Float) : Value :=
  match amount with
  | some amount => number amount
  | none => null

def ofLength (length : Nat) : Value := number (Number.ofNat length)

def entryMember? (entry : Entry) : String → Option Value
  | "date" => some (text entry.date)
  | "description" => some (text entry.description)
  | "debit" => some (ofOption entry.debit)
  | "credit" => some (ofOption entry.credit)
  | "amount" => some (number entry.amount)
  | _ => none

def noMember (value : Value) (name : String) : Failure :=
  .typeMismatch (value.kindName ++ " has no member '" ++ name ++ "'")

def member (ledgers : Ledgers) (value : Value) (name : String) : Except Failure Value :=
  match value, name with
  | table grid, name => do
      let column ← grid.column name
      return numbers column
  | object fields, name =>
      match Named.get? fields name with
      | some field => .ok field
      | none => .error (.typeMismatch ("object has no field '" ++ name ++ "'"))
  | portfolio holdings, "assets" => .ok (numbers holdings.assets)
  | portfolio holdings, "weights" => .ok (numbers holdings.weights)
  | portfolio holdings, "names" => .ok (list ((holdings.names.getD []).map text))
  | cashflow flows, "flows" => .ok (numbers flows)
  | ledger account, "balance" => do
      let balance ← (ledgers.entries account).balance
      return number balance
  | ledger account, "entries" => .ok (list ((ledgers.entries account).map entry))
  | entry posted, name =>
      match entryMember? posted name with
      | some value => .ok value
      | none => .error (value.noMember name)
  | list items, "length" => .ok (ofLength items.length)
  | text value, "length" => .ok (ofLength value.length)
  | _, _ => .error (value.noMember name)

end Fiscal.Value
