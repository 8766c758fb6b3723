import Fiscal.Grammar.Statement
import Fiscal.Machine.Run
import Fiscal.Source.Diagnostic
import Fiscal.Token.Scan

/-!
Sessions: source texts executed one after the other on one machine.
-/

set_option autoImplicit false

namespace Fiscal

open Source

/-- What is told about an execution: a value for each statement that has ended at the top, the
lines written, the issue that counts as its error, and all diagnostics. -/
structure Report where
  results : List Value
  output : List String
  error : Option Issue
  diagnostics : List Diagnostic

namespace Report

def success (report : Report) : Bool := report.error.isNone

def value (report : Report) : Value := report.results.getLast?.getD .null

def message (report : Report) : Option String := report.error.map Issue.message

end Report

/-- How an execution ends: with a report, with a fault that nothing has taken over, or not within
the rounds a loop may take. -/
inductive Conclusion where
  | reported (report : Report)
  | escaped (fault : Fault)
  | unfinished

namespace Session

structure Reading where
  tokens : List Token
  program : Program
  diagnostics : List Diagnostic

def read (settings : Settings) (file : Option String) (source : String) :
    Except Fault Reading := do
  let stream ← Token.scan settings.tabWidth settings.currencies file source
  let outcome := Grammar.parse settings.maxErrors (some (Text.lines source)) stream.tokens
  return ⟨stream.tokens, outcome.program, stream.reports ++ outcome.reports⟩

/-- The frames that the stack of the host has room for: a thousand, less those of the calls around. -/
def standardFrames : Nat := 990

/-- Reads a source text as `read` does, on a host whose stack has room for so many frames. -/
def readWithin (frames : Nat) (settings : Settings) (file : Option String) (source : String) :
    Except Fault Reading := do
  let stream ← Token.tokenize frames settings.tabWidth settings.currencies file source
  let outcome ←
    Grammar.parseWithin frames settings.maxErrors (some (Text.lines source)) stream.tokens
  return ⟨stream.tokens, outcome.program, stream.reports ++ outcome.reports⟩

def runAll (evaluator : Evaluator) :
    List Stmt → Machine → List Value × Option Failure × Machine
  | [], machine => ([], none, machine)
  | stmt :: rest, machine =>
      match evaluator.execute stmt machine with
      | .error failure machine => ([], some failure, machine)
      | .ok (.returned value) machine => ([value], none, machine)
      | .ok (.done value) machine =>
          let (values, failure, machine) := runAll evaluator rest machine
          (value :: values, failure, machine)

def runtimeDiagnostic (lines : List String) (issue : Issue) (span : Option Span) : Diagnostic where
  issue := issue
  span := span
  line := span.bind fun span => Text.line? lines span.start.line

def conclude (reading : Reading) (results : List Value) (machine : Machine) :
    Option Failure → Conclusion
  | none =>
      -- Nothing has gone wrong in the run, so the first thing that could not be read is the error.
      .reported
        { results
          output := machine.output.reverse
          error := reading.diagnostics.head?.map Diagnostic.issue
          diagnostics := reading.diagnostics }
  | some (.issue issue span) => failed issue span
  | some .tooDeep => failed .tooDeep none
  | some (.fault fault) => .escaped fault
  | some .unfinished => .unfinished
where
  failed (issue : Issue) (span : Option Span) : Conclusion :=
    .reported
      { results
        output := machine.output.reverse
        error := some issue
        diagnostics := reading.diagnostics ++ [runtimeDiagnostic machine.lines issue span] }

def run (limits : Limits) (source : String) (machine : Machine) (reading : Reading) :
    Conclusion × Machine :=
  let ready := { machine with output := [], lines := Text.lines source }
  let (results, failure, after) :=
    runAll (Evaluator.ofLimits limits) reading.program.statements ready
  (conclude reading results after failure, after)

/-- Executes a source text, on a host whose stack has room for any text: what can be read of it is
run, whatever else is wrong with it. -/
def execute (limits : Limits) (file : Option String) (source : String) (machine : Machine) :
    Conclusion × Machine :=
  match read machine.settings file source with
  | .error fault => (.escaped fault, machine)
  | .ok reading => run limits source machine reading

/-- Executes a source text, unless it is nested deeper than the host can read. -/
def attempt (frames : Nat) (limits : Limits) (file : Option String) (source : String)
    (machine : Machine) : Conclusion × Machine :=
  match readWithin frames machine.settings file source with
  | .error fault => (.escaped fault, machine)
  | .ok reading => run limits source machine reading

def executeFile (limits : Limits) (path : String) (machine : Machine) : Conclusion × Machine :=
  match machine.files.readText path with
  | .error fault => (.escaped fault, machine)
  | .ok source => attempt standardFrames limits (some path) source machine

def callBuiltin (limits : Limits) (name : String) (arguments : List Value) : Eval Value :=
  match Builtin.ofName? name with
  | some builtin => (Evaluator.ofLimits limits).call (.builtin builtin) arguments (some name)
  | none => throw (.undefinedVariable name)

end Session

end Fiscal
