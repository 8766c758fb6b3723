import Fiscal.Source.Span
import Fiscal.Token.Kind

set_option autoImplicit false

namespace Fiscal

open Source (Span)

inductive Literal where
  | number (value : Float)
  | text (value : String)
  | bool (value : Bool)
  | null
  | date (value : String)
  | money (amount : Float) (currency : String)

inductive BinaryOperator where
  | or
  | and
  | equal
  | notEqual
  | less
  | greater
  | lessEqual
  | greaterEqual
  | add
  | subtract
  | multiply
  | divide
  | modulo
  | power
  deriving DecidableEq, Repr

namespace BinaryOperator

def ofKind? : TokenKind → Option BinaryOperator
  | .orKeyword | .orOr => some or
  | .andKeyword | .andAnd => some and
  | .equalEqual => some equal
  | .bangEqual => some notEqual
  | .less => some less
  | .greater => some greater
  | .lessEqual => some lessEqual
  | .greaterEqual => some greaterEqual
  | .plus => some add
  | .minus => some subtract
  | .star => some multiply
  | .slash => some divide
  | .percent => some modulo
  | .caret => some power
  | _ => none

def kind : BinaryOperator → TokenKind
  | or => .orKeyword
  | and => .andKeyword
  | equal => .equalEqual
  | notEqual => .bangEqual
  | less => .less
  | greater => .greater
  | lessEqual => .lessEqual
  | greaterEqual => .greaterEqual
  | add => .plus
  | subtract => .minus
  | multiply => .star
  | divide => .slash
  | modulo => .percent
  | power => .caret

def precedence : BinaryOperator → Nat
  | or => 1
  | and => 2
  | equal | notEqual => 3
  | less | greater | lessEqual | greaterEqual => 4
  | add | subtract => 5
  | multiply | divide | modulo => 6
  | power => 7

def rightPrecedence : BinaryOperator → Nat
  | power => 7
  | op => op.precedence + 1

def symbol : BinaryOperator → String
  | or => "or"
  | and => "and"
  | equal => "equal_equal"
  | notEqual => "bang_equal"
  | less => "<"
  | greater => ">"
  | lessEqual => "<="
  | greaterEqual => ">="
  | add => "+"
  | subtract => "-"
  | multiply => "*"
  | divide => "/"
  | modulo => "%"
  | power => "^"

end BinaryOperator

inductive UnaryOperator where
  | negate
  | not
  deriving DecidableEq, Repr

namespace UnaryOperator

def ofKind? : TokenKind → Option UnaryOperator
  | .minus => some negate
  | .notKeyword | .bang => some not
  | _ => none

def kind : UnaryOperator → TokenKind
  | negate => .minus
  | not => .notKeyword

end UnaryOperator

inductive Qualifier where
  | globalScope
  | parentScope
  deriving DecidableEq, Repr

namespace Qualifier

def text : Qualifier → String
  | globalScope => "global"
  | parentScope => "parent"

def ofWord? (word : String) : Option Qualifier :=
  match Text.lowerAscii word with
  | "global" => some globalScope
  | "parent" => some parentScope
  | _ => none

end Qualifier

inductive Side where
  | debit
  | credit
  deriving DecidableEq, Repr

namespace Side

def kind : Side → TokenKind
  | debit => .debitKeyword
  | credit => .creditKeyword

def ofKind? : TokenKind → Option Side
  | .debitKeyword => some debit
  | .creditKeyword => some credit
  | _ => none

def sign (side : Side) (amount : Float) : Float :=
  match side with
  | debit => amount
  | credit => -amount

end Side

structure Flow (α : Type) where
  span : Span
  side : Side
  amount : α

inductive Expr where
  | literal (span : Span) (value : Literal)
  | name (span : Span) (name : String)
  | qualified (span : Span) (qualifier : Qualifier) (name : String)
  | assign (span : Span) (name : String) (value : Expr)
  | binary (span : Span) (left : Expr) (op : BinaryOperator) (right : Expr)
  | unary (span : Span) (op : UnaryOperator) (operand : Expr)
  | call (span : Span) (callee : Expr) (arguments : List Expr)
  | member (span : Span) (target : Expr) (member : String)
  | index (span : Span) (target index : Expr)
  | slice (span : Span) (target : Expr) (start stop : Option Expr)
  | list (span : Span) (items : List Expr)
  | object (span : Span) (fields : List (String × Expr))
  | lambda (span : Span) (parameters : List String) (body : Expr)
  | timeseries (span : Span) (series window : Expr)
  | table (span : Span) (columns : List (String × Expr))
  | cashflow (span : Span) (flows : List (Flow Expr))
  | portfolio (span : Span) (assets weights : Expr)
  | npv (span : Span) (cashflows rate : Expr)
  | irr (span : Span) (cashflows : Expr)
  | pv (span : Span) (rate periods : Expr) (payment future : Option Expr)
  | fv (span : Span) (rate periods : Expr) (payment present : Option Expr)
  | wacc (span : Span) (equityWeight debtWeight costEquity costDebt taxRate : Expr)
  | capm (span : Span) (beta riskFree premium : Expr)
  | valueAtRisk (span : Span) (series confidence : Expr)
  | sma (span : Span) (series period : Expr)
  | ema (span : Span) (series period : Expr)
  | amortize (span : Span) (principal rate periods : Expr)

def Expr.span : Expr → Span
  | literal span _ | name span _ | qualified span _ _ | assign span _ _ | binary span _ _ _
  | unary span _ _ | call span _ _ | member span _ _ | index span _ _ | slice span _ _ _
  | list span _ | object span _ | lambda span _ _ | timeseries span _ _ | table span _
  | cashflow span _ | portfolio span _ _ | npv span _ _ | irr span _ | pv span _ _ _ _
  | fv span _ _ _ _ | wacc span _ _ _ _ _ | capm span _ _ _ | valueAtRisk span _ _
  | sma span _ _ | ema span _ _ | amortize span _ _ _ => span

end Fiscal
