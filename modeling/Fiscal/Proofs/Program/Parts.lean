import Fiscal.Program.Stmt
import Fiscal.Named

set_option autoImplicit false

namespace Fiscal

def Expr.children : Expr → List Expr
  | literal _ _ | name _ _ | qualified _ _ _ => []
  | assign _ _ value => [value]
  | binary _ left _ right => [left, right]
  | unary _ _ operand => [operand]
  | call _ callee arguments => callee :: arguments
  | member _ target _ => [target]
  | index _ target key => [target, key]
  | slice _ target start stop => target :: (start.toList ++ stop.toList)
  | list _ items => items
  | object _ fields => fields.map Prod.snd
  | lambda _ _ body => [body]
  | timeseries _ series window => [series, window]
  | table _ columns => columns.map Prod.snd
  | cashflow _ flows => flows.map Flow.amount
  | portfolio _ assets weights => [assets, weights]
  | npv _ cashflows rate => [cashflows, rate]
  | irr _ cashflows => [cashflows]
  | pv _ rate periods payment future => rate :: periods :: (payment.toList ++ future.toList)
  | fv _ rate periods payment present => rate :: periods :: (payment.toList ++ present.toList)
  | wacc _ equityWeight debtWeight costEquity costDebt taxRate =>
      [equityWeight, debtWeight, costEquity, costDebt, taxRate]
  | capm _ beta riskFree premium => [beta, riskFree, premium]
  | valueAtRisk _ series confidence => [series, confidence]
  | sma _ series period | ema _ series period => [series, period]
  | amortize _ principal rate periods => [principal, rate, periods]

def Posting.expressions (posting : Posting) : List Expr :=
  posting.amount :: posting.description.toList

namespace Stmt

def expressions : Stmt → List Expr
  | block _ | function _ _ _ _ | importPath _ _ _ | invalid _ _ | scenario _ _ _ | run _ _ _ => []
  | define _ _ value | assign _ _ value => [value]
  | print _ values _ => values
  | evaluate expr => [expr]
  | choose _ condition _ branches _ => condition :: branches.map Branch.condition
  | repeatWhile _ condition _ => [condition]
  | forRange _ _ first last step _ => first :: last :: step.toList
  | forEach _ _ items _ => [items]
  | giveBack _ value => value.toList
  | post posting => posting.expressions
  | portfolio _ _ holdings => holdings.flatMap Posting.expressions
  | simulate _ _ runs step => runs.toList ++ step.toList

def statements : Stmt → List Stmt
  | block body | repeatWhile _ _ body | forRange _ _ _ _ _ body | forEach _ _ _ body
  | function _ _ _ body | scenario _ _ body => body.statements
  | choose _ _ body branches otherwise =>
      body.statements ++ branches.flatMap (fun branch => branch.body.statements)
        ++ otherwise.toList.flatMap Body.statements
  | define _ _ _ | assign _ _ _ | print _ _ _ | evaluate _ | giveBack _ _ | importPath _ _ _
  | invalid _ _ | post _ | portfolio _ _ _ | run _ _ _ | simulate _ _ _ _ => []

def holdings : Stmt → List Posting
  | portfolio _ _ holdings => holdings
  | _ => []

def declares : Stmt → Bool
  | define _ _ _ | function _ _ _ _ | importPath _ _ _ | post _ | portfolio _ _ _
  | scenario _ _ _ | simulate _ _ _ _ => true
  | block _ | assign _ _ _ | print _ _ _ | evaluate _ | choose _ _ _ _ _ | repeatWhile _ _ _
  | forRange _ _ _ _ _ _ | forEach _ _ _ _ | giveBack _ _ | invalid _ _ | run _ _ _ => false

end Stmt

inductive Node where
  | expr (whole : Expr)
  | stmt (whole : Stmt)
  | holding (posting : Posting)

namespace Node

def span : Node → Source.Span
  | expr whole => whole.span
  | stmt whole => whole.span
  | holding posting => posting.span

def parts : Node → List Node
  | expr whole => whole.children.map expr
  | stmt whole => whole.expressions.map expr ++ whole.statements.map stmt ++ whole.holdings.map holding
  | holding posting => posting.expressions.map expr

inductive Within (tops : List Node) : Node → Prop where
  | top (node : Node) (member : node ∈ tops) : Within tops node
  | part (whole part : Node) (within : Within tops whole) (member : part ∈ whole.parts) : Within tops part

end Node

def Program.nodes (program : Program) : List Node := program.statements.map .stmt

def Expr.NamesOnce (expr : Expr) : Prop :=
  ∀ span columns, expr = .table span columns → (Named.names columns).Nodup

inductive Expr.Tabled : Expr → Prop where
  | node (expr : Expr) (once : expr.NamesOnce) (parts : ∀ child ∈ expr.children, child.Tabled) : Tabled expr

inductive Stmt.Tabled : Stmt → Prop where
  | node (stmt : Stmt) (expressions : ∀ expr ∈ stmt.expressions, expr.Tabled)
      (statements : ∀ inner ∈ stmt.statements, inner.Tabled) : Tabled stmt

namespace Expr.Tabled

variable {expr : Expr}

theorem once (tabled : expr.Tabled) : expr.NamesOnce := by
  cases tabled with
  | node _ once _ => exact once

theorem children (tabled : expr.Tabled) : ∀ child ∈ expr.children, child.Tabled := by
  cases tabled with
  | node _ _ parts => exact parts

theorem other (none : ∀ span columns, expr ≠ .table span columns) (parts : ∀ child ∈ expr.children, child.Tabled) :
    expr.Tabled :=
  .node expr (fun span columns same => absurd same (none span columns)) parts

theorem table (span : Source.Span) (columns : Named Expr) (once : (Named.names columns).Nodup)
    (parts : ∀ entry ∈ columns, entry.2.Tabled) : (Expr.table span columns).Tabled := by
  refine .node _ (fun _ _ same => ?_) fun child member => ?_
  · cases same
    exact once
  · obtain ⟨entry, among, rfl⟩ := List.mem_map.mp member
    exact parts entry among

end Expr.Tabled

namespace Stmt.Tabled

variable {stmt : Stmt}

theorem parts (tabled : stmt.Tabled) : ∀ expr ∈ stmt.expressions, expr.Tabled := by
  cases tabled with
  | node _ expressions _ => exact expressions

theorem within (tabled : stmt.Tabled) : ∀ inner ∈ stmt.statements, inner.Tabled := by
  cases tabled with
  | node _ _ statements => exact statements

end Stmt.Tabled

end Fiscal
