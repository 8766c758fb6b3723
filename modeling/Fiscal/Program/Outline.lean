import Fiscal.Number.Text
import Fiscal.Program.Stmt
import Fiscal.Text.Quoted

set_option autoImplicit false

namespace Fiscal

open Source (Span)

mutual

inductive Outline where
  | node (title : String) (span : Span) (fields : List (String × OutlineField))

inductive OutlineField where
  | scalar (text : String)
  | scalars (texts : List String)
  | child (outline : Outline)
  | children (outlines : List Outline)
  | entries (outlines : List (String × Outline))

end

namespace Outline

def span : Outline → Span
  | node _ span _ => span

def indented (depth : Nat) (text : String) : String :=
  String.ofList (List.replicate (2 * depth) ' ') ++ text

mutual

def lines (depth : Nat) : Outline → List String
  | .node title _ fields => indented depth title :: fieldLines depth fields

def fieldLines (depth : Nat) : List (String × OutlineField) → List String
  | [] => []
  | (name, .scalar text) :: rest =>
      indented depth ("  " ++ name ++ ": " ++ text) :: fieldLines depth rest
  | (name, .scalars texts) :: rest =>
      indented depth ("  " ++ name ++ ": [")
        :: (texts.map fun text => indented depth ("    " ++ text))
        ++ indented depth "  ]" :: fieldLines depth rest
  | (name, .child outline) :: rest =>
      indented depth ("  " ++ name ++ ":") :: lines (depth + 2) outline ++ fieldLines depth rest
  | (name, .children outlines) :: rest =>
      indented depth ("  " ++ name ++ ": [") :: childLines (depth + 2) outlines
        ++ indented depth "  ]" :: fieldLines depth rest
  | (name, .entries outlines) :: rest =>
      indented depth ("  " ++ name ++ ": \x7b") :: entryLines depth outlines
        ++ indented depth "  \x7d" :: fieldLines depth rest

def childLines (depth : Nat) : List Outline → List String
  | [] => []
  | outline :: rest => lines depth outline ++ childLines depth rest

def entryLines (depth : Nat) : List (String × Outline) → List String
  | [] => []
  | (key, outline) :: rest =>
      indented depth ("    " ++ key ++ ":") :: lines (depth + 3) outline ++ entryLines depth rest

end

mutual

def spans : Outline → List (String × Span)
  | .node title span fields => (title, span) :: fieldSpans fields

def fieldSpans : List (String × OutlineField) → List (String × Span)
  | [] => []
  | (_, .scalar _) :: rest => fieldSpans rest
  | (_, .scalars _) :: rest => fieldSpans rest
  | (_, .child outline) :: rest => spans outline ++ fieldSpans rest
  | (_, .children outlines) :: rest => childSpans outlines ++ fieldSpans rest
  | (_, .entries outlines) :: rest => entrySpans outlines ++ fieldSpans rest

def childSpans : List Outline → List (String × Span)
  | [] => []
  | outline :: rest => spans outline ++ childSpans rest

def entrySpans : List (String × Outline) → List (String × Span)
  | [] => []
  | (_, outline) :: rest => spans outline ++ entrySpans rest

end

mutual

-- Equality of outlines, spans included; the order of entries does not count.
def same : Outline → Outline → Bool
  | .node title span fields, .node title' span' fields' =>
      title == title' && span == span' && sameFields fields fields'

def sameFields : List (String × OutlineField) → List (String × OutlineField) → Bool
  | [], [] => true
  | (name, .scalar text) :: rest, (name', .scalar text') :: rest' =>
      name == name' && text == text' && sameFields rest rest'
  | (name, .scalars texts) :: rest, (name', .scalars texts') :: rest' =>
      name == name' && texts == texts' && sameFields rest rest'
  | (name, .child outline) :: rest, (name', .child outline') :: rest' =>
      name == name' && same outline outline' && sameFields rest rest'
  | (name, .children outlines) :: rest, (name', .children outlines') :: rest' =>
      name == name' && sameChildren outlines outlines' && sameFields rest rest'
  | (name, .entries outlines) :: rest, (name', .entries outlines') :: rest' =>
      name == name' && outlines.length == outlines'.length && sameEntries outlines outlines'
        && sameFields rest rest'
  | _, _ => false

def sameChildren : List Outline → List Outline → Bool
  | [], [] => true
  | outline :: rest, outline' :: rest' => same outline outline' && sameChildren rest rest'
  | _, _ => false

def sameEntries : List (String × Outline) → List (String × Outline) → Bool
  | [], _ => true
  | (key, outline) :: rest, others =>
      (match others.lookup key with
        | some other => same outline other
        | none => false)
        && sameEntries rest others

end

end Outline

def Literal.kind : Literal → TokenKind
  | number _ => .number
  | text _ => .string
  | bool true => .trueKeyword
  | bool false => .falseKeyword
  | null => .nullKeyword
  | date _ => .date
  | money _ _ => .money

def Literal.shown : Literal → String
  | number value => Number.exact value
  | text value => Text.quoted value
  | bool value => if value then "True" else "False"
  | null => "None"
  | date value => Text.quoted value
  | money amount _ => Number.exact amount

def Literal.currency : Literal → String
  | money _ currency => Text.quoted currency
  | _ => "None"

namespace Expr

open OutlineField

mutual

def outline : Expr → Outline
  | literal span value =>
      .node "Literal" span
        [("value", scalar value.shown), ("literal_type", scalar value.kind.name),
          ("currency", scalar value.currency)]
  | name span word => .node "Identifier" span [("name", scalar (Text.quoted word))]
  | qualified span qualifier word =>
      .node "ScopedIdentifier" span
        [("scope", scalar (Text.quoted qualifier.text)), ("name", scalar (Text.quoted word))]
  | assign span word value =>
      .node "Assignment" span
        [("name", scalar (Text.quoted word)), ("value", child value.outline)]
  | binary span left op right =>
      .node "BinaryOp" span
        [("left", child left.outline), ("operator", scalar op.kind.name),
          ("right", child right.outline)]
  | unary span op operand =>
      .node "UnaryOp" span
        [("operator", scalar op.kind.name), ("operand", child operand.outline)]
  | call span callee arguments =>
      .node "FunctionCall" span
        [("callee", child callee.outline), ("arguments", children (outlines arguments))]
  | member span target word =>
      .node "MemberAccess" span
        [("object", child target.outline), ("member", scalar (Text.quoted word))]
  | index span target position =>
      .node "IndexAccess" span
        [("object", child target.outline), ("index", child position.outline)]
  | slice span target start stop =>
      .node "SliceAccess" span
        [("object", child target.outline), ("start", optional start), ("end", optional stop)]
  | list span items => .node "ListLiteral" span [("elements", children (outlines items))]
  | object span fields => .node "ObjectLiteral" span [("fields", entries (namedOutlines fields))]
  | lambda span parameters body =>
      .node "LambdaExpr" span
        [("parameters", scalars (parameters.map Text.quoted)), ("body", child body.outline)]
  | timeseries span series window =>
      .node "TimeSeriesExpr" span
        [("source", child series.outline), ("window", child window.outline)]
  | table span columns => .node "TableLiteral" span [("columns", entries (namedOutlines columns))]
  | cashflow span flows =>
      .node "CashflowLiteral" span [("entries", children (flowOutlines flows))]
  | portfolio span assets weights =>
      .node "PortfolioLiteral" span
        [("assets", child assets.outline), ("weights", child weights.outline)]
  | npv span cashflows rate =>
      .node "NpvCall" span [("cashflows", child cashflows.outline), ("rate", child rate.outline)]
  | irr span cashflows => .node "IrrCall" span [("cashflows", child cashflows.outline)]
  | pv span rate periods payment future =>
      .node "PvCall" span
        [("rate", child rate.outline), ("periods", child periods.outline),
          ("payment", optional payment), ("future_value", optional future)]
  | fv span rate periods payment present =>
      .node "FvCall" span
        [("rate", child rate.outline), ("periods", child periods.outline),
          ("payment", optional payment), ("present_value", optional present)]
  | wacc span equityWeight debtWeight costEquity costDebt taxRate =>
      .node "WaccCall" span
        [("equity_weight", child equityWeight.outline), ("debt_weight", child debtWeight.outline),
          ("cost_equity", child costEquity.outline), ("cost_debt", child costDebt.outline),
          ("tax_rate", child taxRate.outline)]
  | capm span beta riskFree premium =>
      .node "CapmCall" span
        [("beta", child beta.outline), ("risk_free", child riskFree.outline),
          ("premium", child premium.outline)]
  | valueAtRisk span series confidence =>
      .node "VarCall" span
        [("series", child series.outline), ("confidence", child confidence.outline)]
  | sma span series period =>
      .node "SmaCall" span [("series", child series.outline), ("period", child period.outline)]
  | ema span series period =>
      .node "EmaCall" span [("series", child series.outline), ("period", child period.outline)]
  | amortize span principal rate periods =>
      .node "AmortizeCall" span
        [("principal", child principal.outline), ("rate", child rate.outline),
          ("periods", child periods.outline)]

def optional : Option Expr → OutlineField
  | none => scalar "None"
  | some expr => child expr.outline

def outlines : List Expr → List Outline
  | [] => []
  | expr :: rest => expr.outline :: outlines rest

def namedOutlines : List (String × Expr) → List (String × Outline)
  | [] => []
  | (word, expr) :: rest => (word, expr.outline) :: namedOutlines rest

def flowOutlines : List (Flow Expr) → List Outline
  | [] => []
  | ⟨span, side, amount⟩ :: rest =>
      .node "CashflowEntry" span
        [("entry_type", scalar side.kind.name), ("amount", child amount.outline)]
        :: flowOutlines rest

end

@[simp] theorem outline_span (expr : Expr) : expr.outline.span = expr.span := by
  cases expr <;> rw [outline, span, Outline.span]

end Expr

open OutlineField in
def Posting.outline (posting : Posting) : Outline :=
  .node "LedgerEntryStatement" posting.span
    [("entry_type", scalar posting.side.kind.name),
      ("account", scalar (Text.quoted posting.account)),
      ("amount", child posting.amount.outline),
      ("description", Expr.optional posting.description)]

namespace Stmt

open OutlineField

mutual

def outline : Stmt → Outline
  | block body => bodyOutline body
  | define span name value =>
      .node "LetStatement" span
        [("name", scalar (Text.quoted name)), ("initializer", child value.outline)]
  | assign span name value =>
      .node "SetStatement" span
        [("name", scalar (Text.quoted name)), ("value", child value.outline)]
  | print span values log =>
      .node "PrintStatement" span
        [("values", children (Expr.outlines values)),
          ("is_log", scalar (if log then "True" else "False"))]
  | evaluate expr => .node "ExpressionStatement" expr.span [("expression", child expr.outline)]
  | choose span condition body branches otherwise =>
      .node "IfStatement" span
        [("condition", child condition.outline), ("then_branch", child (bodyOutline body)),
          ("elif_branches", children (branchOutlines branches)),
          ("else_branch", optionalBody otherwise)]
  | repeatWhile span condition body =>
      .node "WhileStatement" span
        [("condition", child condition.outline), ("body", child (bodyOutline body))]
  | forRange span counter first last step body =>
      .node "ForRangeStatement" span
        [("variable", scalar (Text.quoted counter)), ("start", child first.outline),
          ("end", child last.outline), ("step", Expr.optional step),
          ("body", child (bodyOutline body))]
  | forEach span item items body =>
      .node "ForEachStatement" span
        [("variable", scalar (Text.quoted item)), ("iterable", child items.outline),
          ("body", child (bodyOutline body))]
  | giveBack span value => .node "ReturnStatement" span [("value", Expr.optional value)]
  | function span name parameters body =>
      .node "FunctionDef" span
        [("name", scalar (Text.quoted name)), ("parameters", scalars (parameters.map Text.quoted)),
          ("body", child (bodyOutline body))]
  | importPath span path name =>
      .node "ImportStatement" span
        [("path", scalar (Text.quoted path)), ("alias", scalar (Text.quoted name))]
  | invalid span message =>
      .node "ErrorStatement" span [("message", scalar (Text.quoted message))]
  | post posting => posting.outline
  | portfolio span name holdings =>
      .node "PortfolioStatement" span
        [("name", scalar (Text.quoted name)), ("entries", children (holdings.map Posting.outline))]
  | scenario span name body =>
      .node "ScenarioStatement" span
        [("name", scalar (Text.quoted name)), ("body", child (bodyOutline body))]
  | run span plan model =>
      .node "RunStatement" span
        [("scenario", scalar (Text.quoted plan)), ("model", scalar (Text.quoted model))]
  | simulate span plan runs step =>
      .node "SimulateStatement" span
        [("scenario", scalar (Text.quoted plan)), ("runs", Expr.optional runs),
          ("step", Expr.optional step)]

def bodyOutline : Body Stmt → Outline
  | ⟨span, statements⟩ => .node "Block" span [("statements", children (outlines statements))]

def optionalBody : Option (Body Stmt) → OutlineField
  | none => scalar "None"
  | some body => child (bodyOutline body)

def branchOutlines : List (Branch Stmt) → List Outline
  | [] => []
  | ⟨span, condition, body⟩ :: rest =>
      .node "ElifBranch" span
        [("condition", child condition.outline), ("body", child (bodyOutline body))]
        :: branchOutlines rest

def outlines : List Stmt → List Outline
  | [] => []
  | statement :: rest => statement.outline :: outlines rest

end

@[simp] theorem bodyOutline_span (body : Body Stmt) : (bodyOutline body).span = body.span := by
  cases body
  rw [bodyOutline, Outline.span]

@[simp] theorem outline_span (stmt : Stmt) : stmt.outline.span = stmt.span := by
  cases stmt with
  | block body => exact bodyOutline_span body
  | post => rfl
  | _ => rw [outline, span, Outline.span]

end Stmt

def Program.outline (program : Program) : Outline :=
  .node "Program" program.span [("statements", .children (Stmt.outlines program.statements))]

def Program.listing (program : Program) : String :=
  String.intercalate "\n" (program.outline.lines 0)

end Fiscal
