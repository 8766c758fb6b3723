import Fiscal.Named
import Fiscal.Program.Stmt
import Fiscal.Source.Diagnostic
import Fiscal.Token.Basic

set_option autoImplicit false

namespace Fiscal

def Token.bare (token : Token) : Token := { token with span := default }

def Source.Diagnostic.bare (diagnostic : Source.Diagnostic) : Source.Diagnostic :=
  ⟨diagnostic.issue, diagnostic.span.map fun _ => default, none⟩

namespace Expr

mutual

def bare : Expr → Expr
  | literal _ value => literal default value
  | name _ word => name default word
  | qualified _ qualifier word => qualified default qualifier word
  | assign _ word value => assign default word value.bare
  | binary _ left op right => binary default left.bare op right.bare
  | unary _ op operand => unary default op operand.bare
  | call _ callee arguments => call default callee.bare (bareAll arguments)
  | member _ target word => member default target.bare word
  | index _ target position => index default target.bare position.bare
  | slice _ target start stop => slice default target.bare (bareOption start) (bareOption stop)
  | list _ items => list default (bareAll items)
  | object _ fields => object default (bareNamed fields)
  | lambda _ parameters body => lambda default parameters body.bare
  | timeseries _ series window => timeseries default series.bare window.bare
  | table _ columns => table default (bareNamed columns)
  | cashflow _ flows => cashflow default (bareFlows flows)
  | portfolio _ assets weights => portfolio default assets.bare weights.bare
  | npv _ cashflows rate => npv default cashflows.bare rate.bare
  | irr _ cashflows => irr default cashflows.bare
  | pv _ rate periods payment future =>
      pv default rate.bare periods.bare (bareOption payment) (bareOption future)
  | fv _ rate periods payment present =>
      fv default rate.bare periods.bare (bareOption payment) (bareOption present)
  | wacc _ equityWeight debtWeight costEquity costDebt taxRate =>
      wacc default equityWeight.bare debtWeight.bare costEquity.bare costDebt.bare taxRate.bare
  | capm _ beta riskFree premium => capm default beta.bare riskFree.bare premium.bare
  | valueAtRisk _ series confidence => valueAtRisk default series.bare confidence.bare
  | sma _ series period => sma default series.bare period.bare
  | ema _ series period => ema default series.bare period.bare
  | amortize _ principal rate periods => amortize default principal.bare rate.bare periods.bare

def bareOption : Option Expr → Option Expr
  | none => none
  | some expr => some expr.bare

def bareAll : List Expr → List Expr
  | [] => []
  | expr :: rest => expr.bare :: bareAll rest

def bareNamed : List (String × Expr) → List (String × Expr)
  | [] => []
  | (word, expr) :: rest => (word, expr.bare) :: bareNamed rest

def bareFlows : List (Flow Expr) → List (Flow Expr)
  | [] => []
  | ⟨_, side, amount⟩ :: rest => ⟨default, side, amount.bare⟩ :: bareFlows rest

end

def bareFlow (flow : Flow Expr) : Flow Expr := ⟨default, flow.side, flow.amount.bare⟩

theorem bareOption_eq (part : Option Expr) : bareOption part = part.map bare := by
  cases part with
  | none => rfl
  | some expr => rfl

theorem bareAll_eq (items : List Expr) : bareAll items = items.map bare := by
  induction items with
  | nil => rfl
  | cons item rest ih => rw [bareAll, ih, List.map_cons]

theorem bareNamed_eq (entries : Named Expr) : bareNamed entries = entries.map fun entry => (entry.1, entry.2.bare) := by
  induction entries with
  | nil => rfl
  | cons entry rest ih => rw [bareNamed, ih, List.map_cons]

theorem bareFlows_eq (flows : List (Flow Expr)) : bareFlows flows = flows.map bareFlow := by
  induction flows with
  | nil => rfl
  | cons flow rest ih => rw [bareFlows, ih, List.map_cons]; rfl

theorem bare_span (expr : Expr) : expr.bare.span = default := by
  cases expr <;> rfl

end Expr

def Posting.bare (posting : Posting) : Posting :=
  ⟨default, posting.side, posting.account, posting.amount.bare, posting.description.map Expr.bare⟩

namespace Stmt

mutual

def bare : Stmt → Stmt
  | block body => block (bareBody body)
  | define _ name value => define default name value.bare
  | assign _ name value => assign default name value.bare
  | print _ values log => print default (values.map Expr.bare) log
  | evaluate expr => evaluate expr.bare
  | choose _ condition body branches otherwise =>
      choose default condition.bare (bareBody body) (bareBranches branches) (bareOption otherwise)
  | repeatWhile _ condition body => repeatWhile default condition.bare (bareBody body)
  | forRange _ counter first last step body =>
      forRange default counter first.bare last.bare (step.map Expr.bare) (bareBody body)
  | forEach _ item items body => forEach default item items.bare (bareBody body)
  | giveBack _ value => giveBack default (value.map Expr.bare)
  | function _ name parameters body => function default name parameters (bareBody body)
  | importPath _ path name => importPath default path name
  | invalid _ message => invalid default message
  | post posting => post posting.bare
  | portfolio _ name holdings => portfolio default name (holdings.map Posting.bare)
  | scenario _ name body => scenario default name (bareBody body)
  | run _ plan model => run default plan model
  | simulate _ plan runs step => simulate default plan (runs.map Expr.bare) (step.map Expr.bare)

def bareBody : Body Stmt → Body Stmt
  | ⟨_, statements⟩ => ⟨default, bareAll statements⟩

def bareAll : List Stmt → List Stmt
  | [] => []
  | stmt :: rest => stmt.bare :: bareAll rest

def bareBranches : List (Branch Stmt) → List (Branch Stmt)
  | [] => []
  | ⟨_, condition, body⟩ :: rest => ⟨default, condition.bare, bareBody body⟩ :: bareBranches rest

def bareOption : Option (Body Stmt) → Option (Body Stmt)
  | none => none
  | some body => some (bareBody body)

end

def bareBranch (branch : Branch Stmt) : Branch Stmt := ⟨default, branch.condition.bare, bareBody branch.body⟩

theorem bareAll_eq (statements : List Stmt) : bareAll statements = statements.map bare := by
  induction statements with
  | nil => rfl
  | cons statement rest ih => rw [bareAll, ih, List.map_cons]

theorem bareBranches_eq (branches : List (Branch Stmt)) : bareBranches branches = branches.map bareBranch := by
  induction branches with
  | nil => rfl
  | cons branch rest ih => rw [bareBranches, ih, List.map_cons]; rfl

theorem bareOption_eq (body : Option (Body Stmt)) : bareOption body = body.map bareBody := by
  cases body with
  | none => rfl
  | some body => rfl

end Stmt

end Fiscal
