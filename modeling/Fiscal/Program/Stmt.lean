import Fiscal.Program.Expr

set_option autoImplicit false

namespace Fiscal

open Source (Span)

structure Posting where
  span : Span
  side : Side
  account : String
  amount : Expr
  description : Option Expr

structure Body (α : Type) where
  span : Span
  statements : List α

structure Branch (α : Type) where
  span : Span
  condition : Expr
  body : Body α

inductive Stmt where
  | block (body : Body Stmt)
  | define (span : Span) (name : String) (value : Expr)
  | assign (span : Span) (name : String) (value : Expr)
  | print (span : Span) (values : List Expr) (log : Bool)
  | evaluate (expr : Expr)
  | choose (span : Span) (condition : Expr) (body : Body Stmt) (branches : List (Branch Stmt))
      (otherwise : Option (Body Stmt))
  | repeatWhile (span : Span) (condition : Expr) (body : Body Stmt)
  | forRange (span : Span) (counter : String) (first last : Expr) (step : Option Expr)
      (body : Body Stmt)
  | forEach (span : Span) (item : String) (items : Expr) (body : Body Stmt)
  | giveBack (span : Span) (value : Option Expr)
  | function (span : Span) (name : String) (parameters : List String) (body : Body Stmt)
  | importPath (span : Span) (path name : String)
  | invalid (span : Span) (message : String)
  | post (posting : Posting)
  | portfolio (span : Span) (name : String) (holdings : List Posting)
  | scenario (span : Span) (name : String) (body : Body Stmt)
  | run (span : Span) (scenario model : String)
  | simulate (span : Span) (scenario : String) (runs step : Option Expr)

abbrev Block := Body Stmt

def Stmt.span : Stmt → Span
  | block body => body.span
  | evaluate expr => expr.span
  | post posting => posting.span
  | define span _ _ | assign span _ _ | print span _ _ | choose span _ _ _ _
  | repeatWhile span _ _ | forRange span _ _ _ _ _ | forEach span _ _ _ | giveBack span _
  | function span _ _ _ | importPath span _ _ | invalid span _ | portfolio span _ _
  | scenario span _ _ | run span _ _ | simulate span _ _ _ => span

structure Program where
  span : Span
  statements : List Stmt

end Fiscal
