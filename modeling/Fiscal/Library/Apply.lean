import Fiscal.Finance.Risk
import Fiscal.Library.Callbacks
import Fiscal.Library.Storage

set_option autoImplicit false

namespace Fiscal

namespace Library

def returns (values : Value) : Except Failure Value := do
  let series ← values.asNumbers "returns() argument"
  let result ← Fault.lift (Finance.simpleReturns series)
  return .numbers result

def volatility (values : Value) : Except Failure Value := do
  let series ← values.asNumbers "volatility() argument"
  let result ← Fault.lift (Finance.volatility series)
  return .number result

def shownLine (values : List Value) : Eval String := do
  let ledgers := (← get).ledgers
  return String.intercalate " " (values.map (Value.shown ledgers))

def display (values : List Value) : Eval Value := do
  Eval.write (← shownLine values)
  return values.head?.getD .null

def assertion (condition : Value) (message : Option Value) : Eval Value :=
  if condition.isTruthy then return .null
  else
    match message with
    | some message => do throw (.issue (.raised (← Eval.shown message)) none)
    | none => throw (.issue (.raised "assertion failed") none)

def raise (values : List Value) : Eval Value := do
  let message ← shownLine values
  throw (.issue (.raised (if message.isEmpty then "error" else message)) none)

-- The number a name stands for; anything else counts as zero.
def numberOrZero (name : String) : Eval Float := do
  let machine ← get
  match machine.scopes.get? machine.current name with
  | some (.number value) => return value
  | _ => return 0

def valuationModel : Eval Value := do
  let rate ← numberOrZero "rate"
  let growth ← numberOrZero "growth"
  Eval.write
    ("Model: rate=" ++ Number.display rate ++ ", growth=" ++ Number.display growth)
  return .number (rate * growth)

def len (value : Value) : Eval Value := do
  let count ← Eval.lift (length (← get).ledgers value)
  return .ofLength count

end Library

/-- Runs a builtin. Those that call back do so through `call`. -/
def Builtin.apply (call : Value → List Value → Eval Value) (builtin : Builtin)
    (arguments : List Value) : Eval Value :=
  match builtin, arguments with
  | .len, [value] => Library.len value
  | .sum, [values] => Eval.lift (Library.Aggregate.sum.apply values)
  | .average, [values] => Eval.lift (Library.Aggregate.average.apply values)
  | .least, [values] => Eval.lift (Library.Aggregate.least.apply values)
  | .greatest, [values] => Eval.lift (Library.Aggregate.greatest.apply values)
  | .append, [items, item] => Eval.lift (Library.append items item)
  | .concat, [first, second] => Eval.lift (Library.concat first second)
  | .range, bounds => Eval.lift (Library.range bounds)
  | .aggregate, [values, operation] => Eval.lift (Library.aggregate values operation)
  | .map, [items, function] => Library.map call items function
  | .filter, [items, function] => Library.filter call items function
  | .reduce, [items, function] => Library.reduce call items function none
  | .reduce, [items, function, initial] => Library.reduce call items function (some initial)
  | .reduce, arguments => Eval.lift (Library.wrongCount "REDUCE" "2 to 3" arguments.length)
  | .returns, [values] => Eval.lift (Library.returns values)
  | .volatility, [values] => Eval.lift (Library.volatility values)
  | .display, values => Library.display values
  | .assertion, [condition] => Library.assertion condition none
  | .assertion, [condition, message] => Library.assertion condition (some message)
  | .assertion, arguments => Eval.lift (Library.wrongCount "ASSERT" "1 to 2" arguments.length)
  | .raise, values => Library.raise values
  | .typeOf, [value] => return .text value.kindName
  | .columns, [table] => Eval.lift (Library.columns table)
  | .tableFilter, [table, column, accept] => Library.tableFilter call table column accept
  | .tableJoin, [left, right] => Eval.lift (Library.tableJoin left right)
  | .columnApply, [table, column, function] => Library.columnApply call table column function
  | .valuationModel, _ => Library.valuationModel
  | .loadCsv, [path] => Library.loadCsv path
  | .saveCsv, [table, path] => Library.saveCsv table path
  | .readText, [path] => Library.readText path
  | .writeText, [path, value] => Library.writeText path value
  | builtin, arguments =>
      Eval.lift
        (Library.wrongCount builtin.name (toString (builtin.arity?.getD 0)) arguments.length)

end Fiscal
