import Fiscal.Builtin
import Fiscal.Program.Outline
import Fiscal.Value.Ledger
import Fiscal.Value.Portfolio
import Fiscal.Value.Table

set_option autoImplicit false

namespace Fiscal

-- A function declared in a program, with the number that tells it from every other function and
-- the scope it was declared in.
structure UserFunction where
  identity : Nat
  name : String
  parameters : List String
  body : Block
  scope : Nat

structure Lambda where
  identity : Nat
  parameters : List String
  body : Expr
  scope : Nat

inductive Value where
  | null
  | number (value : Float)
  | text (value : String)
  | bool (value : Bool)
  | list (items : List Value)
  | table (table : Table)
  | portfolio (portfolio : Portfolio)
  | cashflow (flows : List Float)
  | ledger (ledger : Nat)
  | entry (entry : Entry)
  | builtin (builtin : Builtin)
  | function (function : UserFunction)
  | lambda (lambda : Lambda)
  | block (body : Block)
  | object (fields : List (String × Value))

namespace Value

def kindName : Value → String
  | null => "null"
  | number _ => "number"
  | text _ => "string"
  | bool _ => "bool"
  | list _ => "list"
  | table _ => "table"
  | portfolio _ => "portfolio"
  | cashflow _ => "cashflow"
  | ledger _ => "ledger"
  | entry _ => "ledger entry"
  | builtin _ => "function"
  | function _ => "function"
  | lambda _ => "lambda"
  | block _ => "block"
  | object _ => "object"

def isTruthy : Value → Bool
  | null => false
  | bool value => value
  | number value => value != 0
  | text value => !value.isEmpty
  | list items => !items.isEmpty
  | _ => true

def isNull : Value → Bool
  | null => true
  | _ => false

def isCallable : Value → Bool
  | builtin _ | function _ | lambda _ => true
  | _ => false

def numbers (values : List Float) : Value := list (values.map number)

mutual

def shown (ledgers : Ledgers) : Value → String
  | null => "null"
  | number value => Number.display value
  | text value => value
  | bool value => if value then "true" else "false"
  | list items => "[" ++ String.intercalate ", " (shownAll ledgers items) ++ "]"
  | table grid => grid.text
  | portfolio holdings =>
      "PORTFOLIO(assets=" ++ toString holdings.assets.length ++ ", weights="
        ++ toString holdings.weights.length ++ ")"
  | cashflow flows => "CASHFLOW(" ++ toString flows.length ++ " periods)"
  | ledger account => "LEDGER(" ++ toString (ledgers.entries account).length ++ " entries)"
  | entry posted => posted.text
  | builtin known => "<function " ++ known.name ++ ">"
  | function declared => "<function " ++ declared.name ++ ">"
  | lambda made => "<lambda(" ++ toString made.parameters.length ++ " params)>"
  | block _ => "<block>"
  | object fields =>
      if fields.isEmpty then "\x7b\x7d"
      else "\x7b " ++ String.intercalate ", " (shownFields ledgers fields) ++ " \x7d"

def shownAll (ledgers : Ledgers) : List Value → List String
  | [] => []
  | item :: rest => shown ledgers item :: shownAll ledgers rest

def shownFields (ledgers : Ledgers) : List (String × Value) → List String
  | [] => []
  | (key, value) :: rest => (key ++ ": " ++ shown ledgers value) :: shownFields ledgers rest

end

def sameNumbers : List Float → List Float → Bool
  | [], [] => true
  | x :: xs, y :: ys => x == y && sameNumbers xs ys
  | _, _ => false

def sameColumns (a b : Named (List Float)) : Bool :=
  a.length == b.length && a.all fun column =>
    (b.get? column.1).any (sameNumbers column.2)

def samePortfolio (a b : Portfolio) : Bool :=
  sameNumbers a.assets b.assets && sameNumbers a.weights b.weights && a.names == b.names

def sameLedger : Ledger → Ledger → Bool
  | [], [] => true
  | x :: xs, y :: ys => x.same y && sameLedger xs ys
  | _, _ => false

mutual

/-- Equality of values. Lists agree place by place, objects and tables name by name in any order,
ledgers entry by entry, scenario bodies by their statements, and functions only with
themselves. -/
def same (ledgers : Ledgers) : Value → Value → Bool
  | null, null => true
  | number x, number y => x == y
  | text x, text y => x == y
  | bool x, bool y => x == y
  | list xs, list ys => sameItems ledgers xs ys
  | table x, table y => sameColumns x.columns y.columns
  | portfolio x, portfolio y => samePortfolio x y
  | cashflow xs, cashflow ys => sameNumbers xs ys
  | ledger x, ledger y => sameLedger (ledgers.entries x) (ledgers.entries y)
  | entry x, entry y => x.same y
  | builtin x, builtin y => x == y
  | function x, function y => x.identity == y.identity
  | lambda x, lambda y => x.identity == y.identity
  | block x, block y => (Stmt.bodyOutline x).same (Stmt.bodyOutline y)
  | object xs, object ys => xs.length == ys.length && sameFields ledgers xs ys
  | _, _ => false

def sameItems (ledgers : Ledgers) : List Value → List Value → Bool
  | [], [] => true
  | x :: xs, y :: ys => same ledgers x y && sameItems ledgers xs ys
  | _, _ => false

def sameFields (ledgers : Ledgers) : List (String × Value) → List (String × Value) → Bool
  | [], _ => true
  | (key, value) :: rest, others =>
      (match Named.get? others key with
        | some other => same ledgers value other
        | none => false)
        && sameFields ledgers rest others

end

end Value

end Fiscal
