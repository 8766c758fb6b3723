import Fiscal.Finance.Average
import Fiscal.Finance.Discount
import Fiscal.Finance.Schedule
import Fiscal.Machine.Call
import Fiscal.Machine.Cashflow
import Fiscal.Machine.Operator

set_option autoImplicit false

namespace Fiscal.Machine

open Eval

def literal : Literal → Value
  | .number value => .number value
  | .money amount _ => .number amount
  | .text value => .text value
  | .date value => .text value
  | .bool value => .bool value
  | .null => .null

def qualified (qualifier : Qualifier) (name : String) : Eval Value :=
  match qualifier with
  | .globalScope => lookupGlobal name
  | .parentScope => lookupOuter name

def indexable : Value → Except Failure (List Value)
  | .list items => .ok items
  | .text value => .ok (value.toList.map fun c => .text c.toString)
  | .cashflow flows => .ok (flows.map Value.number)
  | value => .error (.typeMismatch ("cannot index into " ++ value.kindName))

def sliced (target : Value) (start count : Nat) : Value :=
  match target with
  | .text value => .text (String.ofList ((value.toList.drop start).take count))
  | .cashflow flows => .numbers ((flows.drop start).take count)
  | .list items => .list ((items.drop start).take count)
  | other => other

def financial {α : Type} (name : String) (result : Except Fault α) : Eval α :=
  takingFaults name (liftFault result)

section

variable (parts : Evaluator)

def unary (span : Source.Span) (op : UnaryOperator) (operand : Expr) : Eval Value := do
  let value ← parts.evaluate operand
  match op, value with
  | .not, value => return .bool (!value.isTruthy)
  | .negate, .number x => return .number (-x)
  | .negate, value =>
      failAt (.typeMismatch ("unary '-' needs a number, got " ++ value.kindName)) span

def binary (span : Source.Span) (left : Expr) (op : BinaryOperator) (right : Expr) :
    Eval Value := do
  let first ← parts.evaluate left
  match op with
  -- The right operand is evaluated only where it matters.
  | .and =>
      if first.isTruthy then return .bool (← parts.evaluate right).isTruthy
      else return .bool false
  | .or =>
      if first.isTruthy then return .bool true
      else return .bool (← parts.evaluate right).isTruthy
  | op =>
      let second ← parts.evaluate right
      lift (first.operate (← get).ledgers span op second)

def calleeName? : Expr → Option String
  | .name _ name => some name
  | _ => none

def callExpr (callee : Expr) (arguments : List Expr) : Eval Value := do
  let function ← parts.evaluate callee
  let values ← parts.evaluateAll arguments
  parts.call function values (calleeName? callee)

def member (target : Expr) (name : String) : Eval Value := do
  let value ← parts.evaluate target
  lift (value.member (← get).ledgers name)

def memberKey? : Value → Value → Option String
  | .object _, .text name => some name
  | .table _, .text name => some name
  | _, _ => none

def itemAt (span : Source.Span) (target : Value) (key : Value) : Eval Value := do
  let items ← lift (indexable target)
  let place ← lift (key.asInt "index")
  match if place < 0 then none else items[place.toNat]? with
  | some item => return item
  | none =>
      failAt
        (.invalidRange
          ("index " ++ toString place ++ " out of range for " ++ target.kindName ++ " of length "
            ++ toString items.length)) span

def index (target key : Expr) : Eval Value := do
  let value ← parts.evaluate target
  let place ← parts.evaluate key
  match memberKey? value place with
  | some name => lift (value.member (← get).ledgers name)
  | none => itemAt key.span value place

def wholeOr (what : String) (standard : Int) : Option Expr → Eval Int
  | some expr => parts.whole what expr
  | none => return standard

def slice (span : Source.Span) (target : Expr) (start stop : Option Expr) : Eval Value := do
  let value ← parts.evaluate target
  let length : Int := (← lift (indexable value)).length
  let first ← wholeOr parts "slice start" 0 start
  -- An end behind the last item is none, whereas a start behind it is refused below.
  let last := min (← wholeOr parts "slice end" length stop) length
  if first < 0 || length < first || last < first then
    failAt
      (.invalidRange
        ("invalid slice [" ++ toString first ++ ":" ++ toString last ++ "] for "
          ++ value.kindName ++ " of length " ++ toString length)) span
  else return sliced value first.toNat (last - first).toNat

def lambda (parameters : List String) (body : Expr) : Eval Value := do
  let identity ← newIdentity
  return .lambda ⟨identity, parameters, body, (← get).current⟩

def tableColumns : Named Expr → Eval (Named (List Float))
  | [] => return []
  | (name, expr) :: rest => do
      let column ← parts.numbers ("TABLE column '" ++ name ++ "'") expr
      let columns ← tableColumns rest
      return (name, column) :: columns

def table (columns : Named Expr) : Eval Value := do
  let columns ← tableColumns parts columns
  return .table (← lift (Table.build columns))

def flows (place : Nat) : List (Flow Expr) → Eval (List Float)
  | [] => return []
  | flow :: rest => do
      let amount ← parts.number ("CASHFLOW amount at index " ++ toString place) flow.amount
      let amounts ← flows (place + 1) rest
      return flow.side.sign amount :: amounts

def portfolio (assets weights : Expr) : Eval Value := do
  let assets ← parts.numbers "PORTFOLIO assets" assets
  let weights ← parts.numbers "PORTFOLIO weights" weights
  return .portfolio (← lift (Portfolio.build assets weights none))

def npv (flows rate : Expr) : Eval Value := do
  let rate ← parts.number "NPV rate" rate
  let series ← cashflow parts flows
  return .number (← financial "NPV" (Finance.npv rate series))

def irr (flows : Expr) : Eval Value := do
  let series ← cashflow parts flows
  let settings := (← get).settings
  return .number
    (← financial "IRR" (Finance.irr series settings.irrIterations settings.irrGuess))

def pv (rate periods : Expr) (payment future : Option Expr) : Eval Value := do
  let rate ← parts.number "PV rate" rate
  let periods ← parts.number "PV periods" periods
  let payment ← parts.numberOr "PV payment" 0 payment
  let future ← parts.numberOr "PV future value" 0 future
  return .number (← financial "PV" (Finance.pv rate periods payment future))

def fv (rate periods : Expr) (payment present : Option Expr) : Eval Value := do
  let rate ← parts.number "FV rate" rate
  let periods ← parts.number "FV periods" periods
  let payment ← parts.numberOr "FV payment" 0 payment
  let present ← parts.numberOr "FV present value" 0 present
  return .number (← financial "FV" (Finance.fv rate periods payment present))

def wacc (equityWeight debtWeight costEquity costDebt taxRate : Expr) : Eval Value := do
  let equityWeight ← parts.number "WACC equity weight" equityWeight
  let debtWeight ← parts.number "WACC debt weight" debtWeight
  let costEquity ← parts.number "WACC cost of equity" costEquity
  let costDebt ← parts.number "WACC cost of debt" costDebt
  let taxRate ← parts.number "WACC tax rate" taxRate
  return .number (Finance.wacc equityWeight debtWeight costEquity costDebt taxRate)

-- A number has one expected return, a list has one for each beta, and the beta of a portfolio
-- is the sum of its weighted assets.
def capm (beta riskFree premium : Expr) : Eval Value := do
  let betas ← parts.evaluate beta
  let riskFree ← parts.number "CAPM risk-free rate" riskFree
  let premium ← parts.number "CAPM premium" premium
  let market := riskFree + premium
  match betas with
  | .number single => return .number (Finance.capm riskFree single market)
  | .list items =>
      let several ← lift ((Value.list items).asNumbers "CAPM beta list")
      return .numbers (several.map fun single => Finance.capm riskFree single market)
  | .portfolio holdings =>
      let total ← liftFault (Number.exactSum holdings.weighted)
      return .number (Finance.capm riskFree total market)
  | other =>
      failAt
        (.typeMismatch
          ("CAPM beta must be a number or list of numbers, got " ++ other.kindName)) beta.span

def riskSeries : Value → Except Failure (List Float)
  | .portfolio holdings => .ok holdings.weighted
  | value => value.asNumbers "VAR series"

def valueAtRisk (series confidence : Expr) : Eval Value := do
  let observed ← parts.evaluate series
  let level ← parts.number "VAR confidence" confidence
  let numbers ← lift (riskSeries observed)
  let settings := (← get).settings
  return .number
    (← financial "VAR" (Finance.valueAtRisk numbers level settings.zScores settings.defaultZ))

def sma (series period : Expr) : Eval Value := do
  let numbers ← parts.numbers "SMA series" series
  let size ← parts.whole "SMA period" period
  return .numbers (← financial "SMA" (Finance.sma numbers size))

def ema (series period : Expr) : Eval Value := do
  let numbers ← parts.numbers "EMA series" series
  let size ← parts.whole "EMA period" period
  return .numbers (← financial "EMA" (Finance.ema numbers size))

def scheduleColumns (rows : List (Finance.Installment Float)) : Named (List Float) := [
  ("payment", rows.map Finance.Installment.payment),
  ("interest", rows.map Finance.Installment.interest),
  ("principal", rows.map Finance.Installment.principal),
  ("balance", rows.map Finance.Installment.balance)]

def amortize (principal rate periods : Expr) : Eval Value := do
  let principal ← parts.number "AMORTIZE principal" principal
  let rate ← parts.number "AMORTIZE rate" rate
  let periods ← parts.whole "AMORTIZE periods" periods
  let rows ← financial "AMORTIZE" (Finance.amortize principal rate periods)
  return .table (← lift (Table.build (scheduleColumns rows)))

def timeseries (series window : Expr) : Eval Value := do
  let numbers ← parts.numbers "timeseries source" series
  let size ← parts.whole "timeseries window" window
  if size < 1 then
    failAt (.invalidRange ("timeseries window must be >= 1, got " ++ toString size)) window.span
  else return .numbers (← liftFault (Finance.rollingMean numbers size))

def expressionForm : Expr → Eval Value
  | .literal _ value => return literal value
  | .name _ name => lookup name
  | .qualified _ qualifier name => qualified qualifier name
  | .assign _ name value => do
      let value ← parts.evaluate value
      assign name value
      return value
  | .binary span left op right => binary parts span left op right
  | .unary span op operand => unary parts span op operand
  | .call _ callee arguments => callExpr parts callee arguments
  | .member _ target name => member parts target name
  | .index _ target key => index parts target key
  | .slice span target start stop => slice parts span target start stop
  | .list _ items => return .list (← parts.evaluateAll items)
  | .object _ fields => return .object (← parts.evaluateFields fields)
  | .lambda _ parameters body => lambda parameters body
  | .timeseries _ series window => timeseries parts series window
  | .table _ columns => table parts columns
  | .cashflow _ entries => return .cashflow (← flows parts 0 entries)
  | .portfolio _ assets weights => portfolio parts assets weights
  | .npv _ cashflows rate => npv parts cashflows rate
  | .irr _ cashflows => irr parts cashflows
  | .pv _ rate periods payment future => pv parts rate periods payment future
  | .fv _ rate periods payment present => fv parts rate periods payment present
  | .wacc _ equityWeight debtWeight costEquity costDebt taxRate =>
      wacc parts equityWeight debtWeight costEquity costDebt taxRate
  | .capm _ beta riskFree premium => capm parts beta riskFree premium
  | .valueAtRisk _ series confidence => valueAtRisk parts series confidence
  | .sma _ series period => sma parts series period
  | .ema _ series period => ema parts series period
  | .amortize _ principal rate periods => amortize parts principal rate periods

/-- The value of an expression. An issue without a place gets the place of the innermost
expression around it. -/
def expression (expr : Expr) : Eval Value := located expr.span (expressionForm parts expr)

end

end Fiscal.Machine
