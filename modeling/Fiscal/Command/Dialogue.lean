import Fiscal.Command.Transcript
import Fiscal.Token.OpenBlocks

set_option autoImplicit false

namespace Fiscal.Command

structure Dialogue where
  machine : Machine
  pending : List String

namespace Dialogue

def greeting : String := "FinLite REPL. End a block with END; Ctrl-D exits.\n"

def start (machine : Machine) : Dialogue := ⟨machine, []⟩

def prompt (dialogue : Dialogue) : String := if dialogue.pending.isEmpty then "> " else "... "

-- The values that are shown after an execution: all but null, if it has succeeded.
def results (ledgers : Ledgers) (report : Report) : Transcript :=
  if report.success then
    .print ((report.results.filter fun value => !value.isNull).map (Value.shown ledgers))
  else .empty

def submit (limits : Limits) (source : String) (machine : Machine) :
    Except Failure (Transcript × Dialogue) :=
  match Session.attempt Session.standardFrames limits (some "<repl>") source machine with
  | (.reported report, after) =>
      .ok (.ofReport report ++ results after.ledgers report, start after)
  | (.escaped fault, _) => .error (.fault fault)
  | (.unfinished, _) => .error .unfinished

def feed (limits : Limits) (line : String) (dialogue : Dialogue) :
    Except Failure (Transcript × Dialogue) :=
  -- A blank line between two inputs is passed over.
  if dialogue.pending.isEmpty && (Text.strip line).isEmpty then .ok (.empty, dialogue)
  else do
    let pending := dialogue.pending ++ [line]
    let source := String.intercalate "\n" pending ++ "\n"
    let depth ← Fault.lift (Token.openBlocks source)
    if 0 < depth then return (.empty, { dialogue with pending })
    else submit limits source dialogue.machine

-- Takes lines one after the other, with a prompt before each and one before the end.
def feedAll (limits : Limits) : List String → Dialogue → Except Failure (Transcript × Dialogue)
  | [], dialogue => .ok (⟨dialogue.prompt ++ "\n", ""⟩, dialogue)
  | line :: rest, dialogue => do
      let (printed, next) ← dialogue.feed limits line
      let (more, last) ← feedAll limits rest next
      return (⟨dialogue.prompt, ""⟩ ++ printed ++ more, last)

def splitInput (line : List Char) : List Char → List String
  | [] => if line.isEmpty then [] else [String.ofList line.reverse]
  | c :: rest =>
      if c = '\n' then String.ofList line.reverse :: splitInput [] rest
      else splitInput (c :: line) rest

def inputLines (text : String) : List String := splitInput [] text.toList

end Dialogue

end Fiscal.Command
