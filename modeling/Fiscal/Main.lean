import Std.Time.Format
import Fiscal.Command.Run

set_option autoImplicit false

namespace Fiscal.Main

def usageText : String :=
  "usage: finlite [-h] [-v] [--config FILE] \x7brun,check,tokens,ast,repl\x7d ..."

def printTranscript (transcript : Command.Transcript) : IO Unit := do
  IO.print transcript.out
  IO.eprint transcript.err
  (← IO.getStdout).flush

def textAt (path : String) : IO (List (String × String)) := do
  match ← (IO.FS.readFile path).toBaseIO with
  | .ok text => return [(path, text)]
  | .error _ => return []

def visiblePaths : IO (List String) := do
  let top ← IO.currentDir
  let found ← top.walkDir fun path => return !((path.fileName.getD "").startsWith ".")
  return found.toList.map fun path =>
    String.ofList (path.toString.toList.drop (top.toString.length + 1))

def snapshot (arguments : List String) : IO Files := do
  let texts ← (arguments ++ (← visiblePaths)).mapM textAt
  return Files.ofList texts.flatten

def pathText : List String → String
  | "/" :: names => Files.join "/" names
  | names => Files.join "" names

def store (before after : Files) : IO Unit :=
  for (path, text) in after.contents do
    if before.fileAt? path != some text then
      IO.FS.writeFile (pathText path) text

def failureText : Failure → String
  | .fault fault => fault.message
  | .issue issue _ => issue.message
  | .tooDeep => Source.Issue.tooDeep.message
  | .unfinished => "the program does not end"

def nextLines : IO (List String) := do
  let text ← (← IO.getStdin).getLine
  return Command.Dialogue.inputLines (String.ofList (Text.unifyLineEnds text.toList))

partial def converse (dialogue : Command.Dialogue) (waiting : List String) : IO UInt32 := do
  IO.print dialogue.prompt
  (← IO.getStdout).flush
  let lines ← if waiting.isEmpty then nextLines else pure waiting
  match lines with
  | [] =>
      IO.println ""
      return 0
  | line :: rest =>
      match dialogue.feed .standard line with
      | .ok (printed, next) =>
          printTranscript printed
          store dialogue.machine.files next.machine.files
          converse next rest
      | .error failure =>
          IO.eprintln (failureText failure)
          return 1

def printEnding (before : Files) : Command.Ending → IO UInt32
  | .finished result => do
      printTranscript result.transcript
      store before result.files
      return UInt32.ofNat result.exitCode
  | .usage usage => do
      if usage = .help then IO.println usageText else IO.eprintln usageText
      return UInt32.ofNat usage.exitCode
  | .failed failure => do
      IO.eprintln (failureText failure)
      return 1

def dialogue? (world : Command.World) (arguments : List String) : Option Command.Dialogue :=
  match Command.Invocation.ofArguments arguments with
  | .ok ⟨config, .dialogue⟩ =>
      match Settings.load world.files config world.environment with
      | .ok settings => some (.start (world.machine settings))
      | .error _ => none
  | _ => none

end Fiscal.Main

open Fiscal in
def main (arguments : List String) : IO UInt32 := do
  let files ← Main.snapshot arguments
  let environment ← IO.getEnv "FINLITE_CONFIG"
  let today := Std.Time.PlainDate.toLeanDateString (← Std.Time.PlainDate.now)
  let world : Command.World := ⟨files, environment, today, ""⟩
  match Main.dialogue? world arguments with
  | some dialogue =>
      IO.print Command.Dialogue.greeting
      Main.converse dialogue []
  | none => Main.printEnding files (Command.run .standard world arguments)
