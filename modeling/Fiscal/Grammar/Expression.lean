import Fiscal.Grammar.Cursor
import Fiscal.Named
import Fiscal.Program.Stmt
import Fiscal.Text.Identifier

/-!
The grammar of expressions. From loosest to tightest: assignment, the binary operators by
precedence, the unary ones, then calls, members and subscripts, then literals and brackets.

The rules of one depth are written in terms of the rules one depth below, which they only use
once they have passed a token; so the depth needed is bounded by the number of tokens.
-/

set_option autoImplicit false

namespace Fiscal.Grammar

open Source

/-- The rules that call each other in turn. -/
structure Rules where
  expression : Reading Expr
  binary : Nat → Reading Expr
  unary : Reading Expr
  statement : Reading Stmt

def maxArguments : Nat := 255

def parameters : Reading (List String) := do
  if ← at? .rightParen then return [] else joined (expectName "parameter name")

section Rules

variable (inner : Rules)

def nextArgument (args : List Expr) : Reading (List Expr × Bool) := do
  if ← accept .comma then
    if ← at? .rightParen then return (args, false)
    else if maxArguments ≤ args.length then
      let token := (← get).current
      failAt .tooManyArguments token.span token
    else
      let arg ← inner.expression
      return (arg :: args, true)
  else return (args, false)

def argumentList : Reading (List Expr) := do
  if ← at? .rightParen then return []
  else
    let first ← inner.expression
    repeating [first] (nextArgument inner)

def arguments : Reading (List Expr) := do
  let _ ← expect .leftParen "'('"
  let args ← argumentList inner
  let _ ← expect .rightParen "')'"
  return args.reverse

def keyName (expected : String) : Reading (String × Token) := do
  let token := (← get).current
  match token.kind, token.payload with
  | .string, .text value | .multilineString, .text value =>
      let _ ← advance
      return (value, token)
  | _, _ => return (← expectName expected, token)

def nextColumn (columns : Named Expr) : Reading (Named Expr × Bool) := do
  let (name, token) ← keyName "column name"
  if Named.has columns name then failAt (.duplicateColumn name) token.span token
  else
    let _ ← expect .colon "':'"
    let column ← inner.expression
    let columns := Named.put columns name column
    if ← accept .comma then return (columns, !(← at? .rightParen))
    else return (columns, false)

def columnList : Reading (Named Expr) := do
  if ← at? .rightParen then return [] else repeating [] (nextColumn inner)

def tableLiteral : Reading Expr := do
  let first ← advance
  let _ ← expect .leftParen "'('"
  let columns ← columnList inner
  let _ ← expect .rightParen "')'"
  return .table (← spanFrom first.span.start) columns

def expectEnd (construct : String) : Reading Unit := do
  skipNewlines
  let _ ← expect .endKeyword ("'END' to close " ++ construct)

def flowLine (side : Side) : Reading (Flow Expr) := do
  let first ← advance
  let amount ← inner.expression
  let span ← spanFrom first.span.start
  expectLineEnd
  return ⟨span, side, amount⟩

def nextFlow (flows : List (Flow Expr)) : Reading (List (Flow Expr) × Bool) :=
  nextLine flows do
    if ← at? .dedent then return (flows, false)
    else
      match Side.ofKind? (← kindHere) with
      | none => unexpected "DEBIT or CREDIT entry"
      | some side => return ((← flowLine inner side) :: flows, true)

def cashflowLiteral : Reading Expr := do
  let first ← advance
  skipNewlines
  let _ ← expect .indent "indented CASHFLOW entries"
  let flows ← repeating [] (nextFlow inner)
  let _ ← expect .dedent "end of CASHFLOW entries"
  expectEnd "CASHFLOW"
  return .cashflow (← spanFrom first.span.start) flows.reverse

def portfolioLiteral : Reading Expr := do
  let first ← advance
  skipNewlines
  let _ ← expect .indent "indented PORTFOLIO body"
  skipNewlines
  let assets ← inner.expression
  skipNewlines
  let weights ← inner.expression
  skipNewlines
  let _ ← expect .dedent "end of PORTFOLIO body"
  expectEnd "PORTFOLIO"
  return .portfolio (← spanFrom first.span.start) assets weights

def timeseries : Reading Expr := do
  let first ← advance
  let paren := (← get).current
  match ← arguments inner with
  | [series, window] => return .timeseries (← spanFrom first.span.start) series window
  | args => failAt (.financeArity "timeseries" "2" args.length) paren.span paren

def qualifiedName : Reading Expr := do
  let qualifier ← advance
  match Qualifier.ofWord? qualifier.lexeme with
  | none => failAt (.unknownQualifier qualifier.lexeme) qualifier.span qualifier
  | some scope =>
      let _ ← advance
      let _ ← advance
      let name ← expectName "name after '::'"
      return .qualified (← spanFrom qualifier.span.start) scope name

def plainLambda : Reading Expr := do
  let parameter ← advance
  let _ ← advance
  let body ← inner.expression
  return .lambda (← spanFrom parameter.span.start) [parameter.lexeme] body

-- Whether an arrow follows the parenthesis that closes the `depth` open ones.
def closesBeforeArrow : Nat → List Token → Bool
  | _, [] => false
  | depth, token :: rest =>
      match token.kind with
      | .endOfFile => false
      | .leftParen => closesBeforeArrow (depth + 1) rest
      | .rightParen =>
          if depth ≤ 1 then rest.head?.any fun next => next.kind == .arrow
          else closesBeforeArrow (depth - 1) rest
      | _ => closesBeforeArrow depth rest

def parenthesized : Reading Expr := do
  let cursor ← get
  let first ← advance
  if closesBeforeArrow 1 cursor.ahead then
    let names ← parameters
    let _ ← expect .rightParen "')'"
    let _ ← expect .arrow "'->'"
    let body ← inner.expression
    return .lambda (← spanFrom first.span.start) names body
  else
    let expr ← inner.expression
    let _ ← expect .rightParen "')'"
    return expr

def nextItem (items : List Expr) : Reading (List Expr × Bool) := do
  if ← accept .comma then
    skipNewlines
    if ← at? .rightBracket then return (items, false)
    else
      let item ← inner.expression
      skipNewlines
      return (item :: items, true)
  else return (items, false)

def itemList : Reading (List Expr) := do
  if ← at? .rightBracket then return []
  else
    let item ← inner.expression
    skipNewlines
    repeating [item] (nextItem inner)

def listLiteral : Reading Expr := do
  let first ← advance
  skipNewlines
  let items ← itemList inner
  let _ ← expect .rightBracket "']'"
  return .list (← spanFrom first.span.start) items.reverse

def nextField (fields : Named Expr) : Reading (Named Expr × Bool) := do
  skipNewlines
  let (key, _) ← keyName "field name"
  let _ ← expect .colon "':'"
  let value ← inner.expression
  let fields := Named.put fields key value
  skipNewlines
  if ← accept .comma then
    skipNewlines
    return (fields, !(← at? .rightBrace))
  else return (fields, false)

def fieldList : Reading (Named Expr) := do
  if ← at? .rightBrace then return [] else repeating [] (nextField inner)

def objectLiteral : Reading Expr := do
  let first ← advance
  skipNewlines
  let fields ← fieldList inner
  let _ ← expect .rightBrace "'\x7d'"
  return .object (← spanFrom first.span.start) fields

def literalOf? (token : Token) : Option Literal :=
  match token.kind, token.payload with
  | .trueKeyword, _ => some (.bool true)
  | .falseKeyword, _ => some (.bool false)
  | .nullKeyword, _ => some .null
  | .number, .number value => some (.number value)
  | .date, .text value => some (.date value)
  | .string, .text value => some (.text value)
  | .multilineString, .text value => some (.text value)
  | .money, .money value => some (.money value.amount value.currency)
  | _, _ => none

def primary : Reading Expr := do
  let cursor ← get
  let token := cursor.current
  let next := cursor.kindAhead 0
  if token.kind == .tableKeyword && next == .leftParen then tableLiteral inner
  else if token.kind == .cashflowKeyword then cashflowLiteral inner
  else if token.kind == .portfolioKeyword then portfolioLiteral inner
  else if let some literal := literalOf? token then
    let _ ← advance
    return .literal token.span literal
  else if token.kind == .timeseriesKeyword && next == .leftParen then timeseries inner
  else if token.kind == .identifier && next == .colon && cursor.kindAhead 1 == .colon then
    qualifiedName
  else if token.kind == .identifier && next == .arrow then plainLambda inner
  else if token.kind.isName then
    let _ ← advance
    return .name token.span token.lexeme
  else if token.kind == .leftParen then parenthesized inner
  else if token.kind == .leftBracket then listLiteral inner
  else if token.kind == .leftBrace then objectLiteral inner
  else unexpected "expression"

def financeForm? (span : Span) : TokenKind → List Expr → Option Expr
  | .npvKeyword, [cashflows, rate] => some (.npv span cashflows rate)
  | .irrKeyword, [cashflows] => some (.irr span cashflows)
  | .pvKeyword, rate :: periods :: rest => some (.pv span rate periods rest[0]? rest[1]?)
  | .fvKeyword, rate :: periods :: rest => some (.fv span rate periods rest[0]? rest[1]?)
  | .waccKeyword, [equityWeight, debtWeight, costEquity, costDebt, taxRate] =>
      some (.wacc span equityWeight debtWeight costEquity costDebt taxRate)
  | .capmKeyword, [beta, riskFree, premium] => some (.capm span beta riskFree premium)
  | .varKeyword, [series, confidence] => some (.valueAtRisk span series confidence)
  | .smaKeyword, [series, period] => some (.sma span series period)
  | .emaKeyword, [series, period] => some (.ema span series period)
  | .amortizeKeyword, [principal, rate, periods] => some (.amortize span principal rate periods)
  | _, _ => none

def financeCallee? : Expr → Option (String × TokenKind × Nat × Nat)
  | .name _ name =>
      (TokenKind.ofWord? name).bind fun kind =>
        kind.financeArity?.map fun bounds => (Text.upper name, kind, bounds)
  | _ => none

def arityText (low high : Nat) : String :=
  if low = high then toString low else toString low ++ "-" ++ toString high

def call (callee : Expr) : Reading Expr := do
  let paren := (← get).current
  let args ← arguments inner
  let span ← spanFrom callee.span.start
  match financeCallee? callee with
  | none => return .call span callee args
  | some (name, kind, low, high) =>
      if args.length < low || high < args.length then
        failAt (.financeArity name (arityText low high) args.length) paren.span paren
      else return (financeForm? span kind args).getD (.call span callee args)

def member (target : Expr) : Reading Expr := do
  let _ ← advance
  let token := (← get).current
  if token.kind == .identifier || Text.isIdentifier token.lexeme then
    let _ ← advance
    return .member (← spanFrom target.span.start) target token.lexeme
  else unexpected "member name after '.'"

def sliceStop (target : Expr) (start : Option Expr) : Reading Expr := do
  let stop ← unlessAny [.rightBracket] inner.expression
  let _ ← expect .rightBracket "']'"
  return .slice (← spanFrom target.span.start) target start stop

def subscript (target : Expr) : Reading Expr := do
  let _ ← advance
  if ← accept .colon then sliceStop inner target none
  else
    let index ← inner.expression
    if ← accept .colon then sliceStop inner target (some index)
    else
      let _ ← expect .rightBracket "']'"
      return .index (← spanFrom target.span.start) target index

def nextPostfix (target : Expr) : Reading (Expr × Bool) := do
  match ← kindHere with
  | .leftParen => return (← call inner target, true)
  | .dot => return (← member target, true)
  | .leftBracket => return (← subscript inner target, true)
  | _ => return (target, false)

def postfixes : Reading Expr := do
  let first ← primary inner
  repeating first (nextPostfix inner)

def unary : Reading Expr := do
  let token := (← get).current
  match UnaryOperator.ofKind? token.kind with
  | some op =>
      let _ ← advance
      let operand ← inner.unary
      return .unary ⟨token.span.start, operand.span.stop⟩ op operand
  | none => postfixes inner

def nextOperand (least : Nat) (left : Expr) : Reading (Expr × Bool) := do
  match BinaryOperator.ofKind? (← kindHere) with
  | none => return (left, false)
  | some op =>
      if op.precedence < least then return (left, false)
      else
        let _ ← advance
        let right ← inner.binary op.rightPrecedence
        return (.binary ⟨left.span.start, right.span.stop⟩ left op right, true)

def binary (least : Nat) : Reading Expr := do
  let first ← unary inner
  repeating first (nextOperand inner least)

def expression : Reading Expr := do
  let target ← binary inner 1
  let token := (← get).current
  if ← accept .equal then
    let value ← inner.expression
    match target with
    | .name span name => return .assign ⟨span.start, value.span.stop⟩ name value
    | _ => failAt .invalidTarget target.span token
  else return target

end Rules

end Fiscal.Grammar
