import Fiscal.Machine.Account
import Fiscal.Machine.Scenario
import Fiscal.Machine.Statement

set_option autoImplicit false

namespace Fiscal

/-- How deep a program may nest, and how many rounds a loop may take. -/
structure Limits where
  depth : Nat
  rounds : Nat

def Limits.standard : Limits := ⟨1000, Nat.pow 2 62⟩

namespace Machine

open Eval

def statementForm (parts : Evaluator) (rounds : Nat) : Stmt → Eval Outcome
  | .block body => block parts body
  | .define _ name value => do
      define name (← parts.evaluate value)
      return .nothing
  | .assign _ name value => do
      assign name (← parts.evaluate value)
      return .nothing
  | .print _ values log => print parts values log
  | .evaluate expr => return .done (← parts.evaluate expr)
  | .choose _ condition body branches otherwise => choose parts condition body branches otherwise
  | .repeatWhile _ condition body =>
      inNewScope (whileRounds parts condition body.statements rounds)
  | .forRange _ counter first last step body =>
      forRange parts rounds counter first last step body
  | .forEach _ item items body => forEach parts item items body
  | .giveBack _ value => giveBack parts value
  | .function _ name parameters body => function name parameters body
  | .importPath _ path name => do
      define name (.text path)
      return .nothing
  | .invalid _ _ => return .nothing
  | .post posting => post parts posting
  | .portfolio span name holdings => declarePortfolio parts span name holdings
  | .scenario _ name body => do
      define name (.block body)
      return .nothing
  | .run span scenario model => runScenario parts span scenario model
  | .simulate span scenario runs step => simulate parts span scenario runs step

/-- Executes a statement. An issue without a place gets the place of the statement. -/
def statement (parts : Evaluator) (rounds : Nat) (stmt : Stmt) : Eval Outcome :=
  located stmt.span (statementForm parts rounds stmt)

end Machine

namespace Evaluator

-- The evaluator without any depth left.
def exhausted : Evaluator where
  evaluate _ := throw .tooDeep
  execute _ := throw .tooDeep
  call _ _ _ := throw .tooDeep

def deepen (rounds : Nat) (parts : Evaluator) : Evaluator where
  evaluate := Machine.expression parts
  execute := Machine.statement parts rounds
  call := Machine.call parts

def ofDepth (rounds : Nat) : Nat → Evaluator
  | 0 => exhausted
  | depth + 1 => (ofDepth rounds depth).deepen rounds

def ofLimits (limits : Limits) : Evaluator := ofDepth limits.rounds limits.depth

end Evaluator

end Fiscal
