import Fiscal.Machine.Expression

set_option autoImplicit false

namespace Fiscal.Machine

open Eval

section

variable (parts : Evaluator)

def block (body : Block) : Eval Outcome := inNewScope (parts.executeAll body.statements)

def texts : List Expr → Eval (List String)
  | [] => return []
  | expr :: rest => do
      let text ← shown (← parts.evaluate expr)
      let others ← texts rest
      return text :: others

def print (values : List Expr) (log : Bool) : Eval Outcome := do
  let line := String.intercalate " " (← texts parts values)
  write (if log then "[LOG] " ++ line else line)
  return .nothing

def chooseBranch (otherwise : Option Block) : List (Branch Stmt) → Eval Outcome
  | [] =>
      match otherwise with
      | some body => block parts body
      | none => return .nothing
  | branch :: rest => do
      if (← parts.evaluate branch.condition).isTruthy then block parts branch.body
      else chooseBranch otherwise rest

def choose (condition : Expr) (body : Block) (branches : List (Branch Stmt))
    (otherwise : Option Block) : Eval Outcome := do
  if (← parts.evaluate condition).isTruthy then block parts body
  else chooseBranch parts otherwise branches

def whileRounds (condition : Expr) (body : List Stmt) : Nat → Eval Outcome
  | 0 => throw .unfinished
  | rounds + 1 => do
      if (← parts.evaluate condition).isTruthy then
        match ← parts.executeAll body with
        | .returned value => return .returned value
        | .done _ => whileRounds condition body rounds
      else return .nothing

def inRange (step last current : Float) : Bool :=
  if step > 0 then current ≤ last else current ≥ last

def rangeRounds (counter : String) (step last : Float) (body : List Stmt) :
    Nat → Float → Eval Outcome
  | 0, _ => throw .unfinished
  | rounds + 1, current => do
      if inRange step last current then
        -- Bound anew in every round: what the body makes of the counter has no effect on the next.
        define counter (.number current)
        match ← parts.executeAll body with
        | .returned value => return .returned value
        | .done _ => rangeRounds counter step last body rounds (current + step)
      else return .nothing

def loopStep : Option Expr → Eval Float
  | none => return 1
  | some expr => do
      let step ← parts.number "FOR step" expr
      if step == 0 then failAt (.invalidRange "FOR loop step cannot be zero") expr.span
      else return step

def forRange (rounds : Nat) (counter : String) (first last : Expr) (step : Option Expr)
    (body : Block) : Eval Outcome := do
  let first ← parts.number "FOR start" first
  let last ← parts.number "FOR end" last
  let step ← loopStep parts step
  inNewScope do
    -- The last value and the step are known, but there may be no round that binds the counter.
    define counter (.number first)
    rangeRounds parts counter step last body.statements rounds first

def loopItems? : Value → Option (List Value)
  | .list items => some items
  | .text value => some (value.toList.map fun c => .text c.toString)
  | .table grid =>
      some (grid.rows.map fun row => .object (row.map fun cell => (cell.1, .number cell.2)))
  | .cashflow flows => some (flows.map Value.number)
  | _ => none

def eachRound (item : String) (body : List Stmt) : List Value → Eval Outcome
  | [] => return .nothing
  | value :: rest => do
      define item value
      match ← parts.executeAll body with
      | .returned value => return .returned value
      | .done _ => eachRound item body rest

def forEach (item : String) (items : Expr) (body : Block) : Eval Outcome := do
  let value ← parts.evaluate items
  match loopItems? value with
  | some items => inNewScope (eachRound parts item body.statements items)
  | none => failAt (.typeMismatch ("cannot iterate over " ++ value.kindName)) items.span

def giveBack : Option Expr → Eval Outcome
  | none => return .returned .null
  | some expr => return .returned (← parts.evaluate expr)

end

def function (name : String) (parameters : List String) (body : Block) : Eval Outcome := do
  let identity ← newIdentity
  define name (.function ⟨identity, name, parameters, body, (← get).current⟩)
  return .nothing

end Fiscal.Machine
