import Fiscal.Text.Upper
import Fiscal.Value.Coercion

set_option autoImplicit false

namespace Fiscal.Library

def wrongCount {α : Type} (name expected : String) (found : Nat) : Except Failure α :=
  .error (.issue (.arityMismatch ("'" ++ name ++ "'") expected found) none)

def length (ledgers : Ledgers) : Value → Except Failure Nat
  | .list items => .ok items.length
  | .text value => .ok value.length
  | .table grid => .ok grid.rowCount
  | .cashflow flows => .ok flows.length
  | .ledger account => .ok (ledgers.entries account).length
  | value => .error (.typeMismatch ("len() has no meaning for " ++ value.kindName))

def least (first : Float) (rest : List Float) : Float :=
  rest.foldl (fun best x => if x < best then x else best) first

def greatest (first : Float) (rest : List Float) : Float :=
  rest.foldl (fun best x => if x > best then x else best) first

inductive Aggregate where
  | sum
  | average
  | least
  | greatest
  deriving DecidableEq, Repr

namespace Aggregate

def name : Aggregate → String
  | sum => "sum"
  | average => "avg"
  | least => "min"
  | greatest => "max"

def ofOperation? : String → Option Aggregate
  | "SUM" => some sum
  | "AVG" => some average
  | "MIN" => some least
  | "MAX" => some greatest
  | _ => none

def emptyList {α : Type} (aggregate : Aggregate) : Except Failure α :=
  .error (.invalidRange (aggregate.name ++ "() of an empty list"))

def compute (aggregate : Aggregate) (numbers : List Float) : Except Failure Float :=
  match aggregate, numbers with
  | sum, numbers => Fault.lift (Number.exactSum numbers)
  | aggregate, [] => aggregate.emptyList
  | average, numbers => do
      let total ← Fault.lift (Number.exactSum numbers)
      return total / Number.ofNat numbers.length
  | least, first :: rest => .ok (Library.least first rest)
  | greatest, first :: rest => .ok (Library.greatest first rest)

def apply (aggregate : Aggregate) (values : Value) : Except Failure Value := do
  let numbers ← values.asNumbers (aggregate.name ++ "() argument")
  let result ← aggregate.compute numbers
  return .number result

end Aggregate

def aggregate (values operation : Value) : Except Failure Value := do
  let word := Text.upper (← operation.asText "AGGREGATE operation")
  match Aggregate.ofOperation? word with
  | some aggregate => aggregate.apply values
  | none =>
      throw (.typeMismatch
        ("unknown AGGREGATE operation '" ++ word ++ "' (expected SUM, AVG, MIN or MAX)"))

def append (items item : Value) : Except Failure Value := do
  let items ← items.asList "append() first argument"
  return .list (items ++ [item])

def concat (first second : Value) : Except Failure Value :=
  match first, second with
  | .text first, .text second => .ok (.text (first ++ second))
  | first, second => do
      let front ← first.asList "concat() first argument"
      let back ← second.asList "concat() second argument"
      return .list (front ++ back)

def wholes (what : String) : List Value → Except Failure (List Int)
  | [] => .ok []
  | value :: rest => do
      let first ← value.asInt what
      let others ← wholes what rest
      return first :: others

def stepCount (first stop step : Int) : Nat :=
  if 0 < step then ((stop - first + step - 1).fdiv step).toNat
  else ((first - stop - step - 1).fdiv (-step)).toNat

def maxLength : Nat := Nat.pow 2 63 - 1

def memoryLength : Nat := Nat.pow 2 32

def progression (first stop step : Int) : Except Failure Value :=
  if step = 0 then .error (.invalidRange "range() step cannot be zero")
  else
    let count := stepCount first stop step
    if maxLength < count then .error (.fault .listTooLong)
    else if memoryLength < count then .error (.fault .outOfMemory)
    else
      .ok (.numbers ((List.range count).map fun (index : Nat) =>
        Number.ofInt (first + step * index)))

def range (bounds : List Value) : Except Failure Value := do
  if bounds.length < 1 || 3 < bounds.length then wrongCount "range" "1 to 3" bounds.length
  match ← wholes "range() argument" bounds with
  | [stop] => progression 0 stop 1
  | [first, stop] => progression first stop 1
  | [first, stop, step] => progression first stop step
  | _ => wrongCount "range" "1 to 3" bounds.length

end Fiscal.Library
