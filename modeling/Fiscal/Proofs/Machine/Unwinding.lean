import Fiscal.Proofs.Machine.Depth
import Fiscal.Proofs.Machine.Moves
import Fiscal.Session

set_option autoImplicit false

namespace Fiscal

open Machine

namespace Stmt

def passed : Stmt → List Stmt
  | block body | repeatWhile _ _ body | forRange _ _ _ _ _ body | forEach _ _ _ body => body.statements
  | choose _ _ body branches otherwise =>
      body.statements ++ branches.flatMap (fun branch => branch.body.statements)
        ++ otherwise.toList.flatMap Body.statements
  | define _ _ _ | assign _ _ _ | print _ _ _ | evaluate _ | giveBack _ _ | function _ _ _ _
  | importPath _ _ _ | invalid _ _ | post _ | portfolio _ _ _ | scenario _ _ _ | run _ _ _
  | simulate _ _ _ _ => []

end Stmt

inductive Chooses (parts : Evaluator) (otherwise : Option Block) :
    List (Branch Stmt) → Machine → Block → Machine → Prop where
  | taken (branch : Branch Stmt) (rest : List (Branch Stmt)) (machine after : Machine) (test : Value)
      (tested : parts.evaluate branch.condition machine = .ok test after)
      (holds : test.isTruthy = true) :
      Chooses parts otherwise (branch :: rest) machine branch.body after
  | skipped (branch : Branch Stmt) (rest : List (Branch Stmt)) (machine middle after : Machine)
      (test : Value) (body : Block)
      (tested : parts.evaluate branch.condition machine = .ok test middle)
      (fails : test.isTruthy = false) (later : Chooses parts otherwise rest middle body after) :
      Chooses parts otherwise (branch :: rest) machine body after
  | otherwise (body : Block) (machine : Machine) (given : otherwise = some body) :
      Chooses parts otherwise [] machine body machine

section Rounds

variable {σ : Type}

-- Rounds of a loop, each opened and with its body completed. The state tells how the loop goes on.
inductive Rounds (opens : σ → Machine → σ → Machine → Prop) (parts : Evaluator) (body : List Stmt) :
    σ → Machine → σ → Machine → Prop where
  | none (state : σ) (machine : Machine) : Rounds opens parts body state machine state machine
  | more (state next last : σ) (machine begun middle after : Machine) (value : Value)
      (opened : opens state machine next begun)
      (completed : parts.executeAll body begun = .ok (.done value) middle)
      (later : Rounds opens parts body next middle last after) :
      Rounds opens parts body state machine last after

end Rounds

def whileOpens (parts : Evaluator) (condition : Expr) (left : Nat) (machine : Machine) (next : Nat)
    (begun : Machine) : Prop :=
  left = next + 1 ∧ ∃ test, parts.evaluate condition machine = .ok test begun ∧ test.isTruthy = true

def rangeOpens (counter : String) (step last : Float) (state : Nat × Float) (machine : Machine)
    (next : Nat × Float) (begun : Machine) : Prop :=
  state.1 = next.1 + 1 ∧ inRange step last state.2 = true ∧ next.2 = state.2 + step ∧
    begun = machine.binding machine.current counter (.number state.2)

def eachOpens (item : String) (values : List Value) (machine : Machine) (next : List Value)
    (begun : Machine) : Prop :=
  ∃ value, values = value :: next ∧ begun = machine.binding machine.current item value

inductive Enters (rounds : Nat) (parts : Evaluator) : Stmt → Machine → List Stmt → Machine → Prop where
  | block (body : Block) (machine : Machine) :
      Enters rounds parts (.block body) machine body.statements (machine.entering machine.current)
  | choose (span : Source.Span) (condition : Expr) (body chosen : Block)
      (branches : List (Branch Stmt)) (otherwise : Option Block) (machine tested : Machine)
      (chooses : Chooses parts otherwise (⟨span, condition, body⟩ :: branches) machine chosen tested) :
      Enters rounds parts (.choose span condition body branches otherwise) machine chosen.statements
        (tested.entering tested.current)
  | repeatWhile (span : Source.Span) (condition : Expr) (body : Block) (left next : Nat)
      (machine middle begun : Machine)
      (before : Rounds (whileOpens parts condition) parts body.statements rounds
        (machine.entering machine.current) left middle)
      (opens : whileOpens parts condition left middle next begun) :
      Enters rounds parts (.repeatWhile span condition body) machine body.statements begun
  | forRange (span : Source.Span) (counter : String) (low high : Expr) (step : Option Expr)
      (body : Block) (first last size : Float) (state next : Nat × Float)
      (machine started bounded ready middle begun : Machine)
      (starts : parts.number "FOR start" low machine = .ok first started)
      (ends : parts.number "FOR end" high started = .ok last bounded)
      (steps : loopStep parts step bounded = .ok size ready)
      (before : Rounds (rangeOpens counter size last) parts body.statements (rounds, first)
        ((ready.entering ready.current).binding ready.scopes.size counter (.number first)) state middle)
      (opens : rangeOpens counter size last state middle next begun) :
      Enters rounds parts (.forRange span counter low high step body) machine body.statements begun
  | forEach (span : Source.Span) (item : String) (items : Expr) (body : Block) (value : Value)
      (values left next : List Value) (machine ready middle begun : Machine)
      (evaluated : parts.evaluate items machine = .ok value ready)
      (listed : loopItems? value = some values)
      (before : Rounds (eachOpens item) parts body.statements values (ready.entering ready.current)
        left middle)
      (opens : eachOpens item left middle next begun) :
      Enters rounds parts (.forEach span item items body) machine body.statements begun

structure ReturnPoint where
  depth : Nat
  value : Option Expr
  machine : Machine

def ReturnPoint.Gives (point : ReturnPoint) (rounds : Nat) (value : Value) (after : Machine) : Prop :=
  Machine.giveBack (.ofDepth rounds point.depth) point.value point.machine = .ok (.returned value) after

-- Statements come to a RETURN. Those before it have been completed, here and in every body around
-- it, and those behind it are not looked at.
inductive Comes (rounds : Nat) : Nat → List Stmt → Machine → ReturnPoint → Prop where
  | after (depth : Nat) (stmt : Stmt) (rest : List Stmt) (machine middle : Machine) (value : Value)
      (point : ReturnPoint)
      (completed : (Evaluator.ofDepth rounds depth).execute stmt machine = .ok (.done value) middle)
      (later : Comes rounds depth rest middle point) : Comes rounds depth (stmt :: rest) machine point
  | giveBack (depth : Nat) (span : Source.Span) (value : Option Expr) (rest : List Stmt)
      (machine : Machine) :
      Comes rounds (depth + 1) (.giveBack span value :: rest) machine ⟨depth, value, machine⟩
  | inside (depth : Nat) (stmt : Stmt) (rest body : List Stmt) (machine begun : Machine)
      (point : ReturnPoint) (entered : Enters rounds (.ofDepth rounds depth) stmt machine body begun)
      (within : Comes rounds depth body begun point) :
      Comes rounds (depth + 1) (stmt :: rest) machine point

section Sequence

variable {machine after : Machine} {value : Value}

end Sequence

section Loops

variable {σ : Type} {opens : σ → Machine → σ → Machine → Prop} {parts : Evaluator} {body : List Stmt}

end Loops

end Fiscal
