import Fiscal.Command.Arguments
import Fiscal.Command.Dialogue
import Fiscal.Command.Json
import Fiscal.Program.Outline
import Fiscal.Settings.Load

set_option autoImplicit false

namespace Fiscal.Command

structure Result where
  exitCode : Nat
  transcript : Transcript
  files : Files

-- How a command ends: with a result, with a note on its usage, or with a failure that it does
-- not report itself.
inductive Ending where
  | finished (result : Result)
  | usage (usage : Usage)
  | failed (failure : Failure)

structure World where
  files : Files
  environment : Option String
  today : String
  input : String

def World.machine (world : World) (settings : Settings) : Machine :=
  Machine.start settings world.files world.today

def finish (world : World) (exitCode : Nat) (transcript : Transcript) : Ending :=
  .finished ⟨exitCode, transcript, world.files⟩

def runFile (limits : Limits) (world : World) (settings : Settings) (file source : String) :
    Ending :=
  match Session.attempt Session.standardFrames limits (some file) source (world.machine settings) with
  | (.reported report, after) =>
      .finished ⟨if report.success then 0 else 1, .ofReport report, after.files⟩
  | (.escaped fault, _) => .failed (.fault fault)
  | (.unfinished, _) => .failed .unfinished

def errorCode (diagnostics : List Source.Diagnostic) : Nat :=
  if diagnostics.isEmpty then 0 else 1

def checkSummary (file : String) (reading : Session.Reading) : String :=
  "OK: " ++ Files.fileName file ++ " - " ++ toString reading.program.statements.length
    ++ " statement(s), no errors"

def checkText (file : String) (json : Bool) (reading : Session.Reading) : String :=
  if json then (Json.ofDiagnostics reading.diagnostics).render 0
  else if reading.diagnostics.isEmpty then checkSummary file reading
  else Source.Diagnostic.renderAll reading.diagnostics

def tokenRow (token : Token) : String :=
  let place := token.span.start
  Text.padLeft 8 (toString place.line ++ ":" ++ toString place.column) ++ "  "
    ++ Text.padRight 16 token.kind.name ++ " " ++ Text.quoted token.lexeme

def isLexical (diagnostic : Source.Diagnostic) : Bool := diagnostic.issue.kind == .lexical

def tokensEnding (world : World) (reading : Session.Reading) : Ending :=
  let lexical := reading.diagnostics.filter isLexical
  finish world (errorCode lexical)
    (.print (reading.tokens.map tokenRow)
      ++ .complain (lexical.map Source.Diagnostic.render))

def treeEnding (world : World) (reading : Session.Reading) : Ending :=
  let complaint :=
    if reading.diagnostics.isEmpty then .empty
    else .complain [Source.Diagnostic.renderAll reading.diagnostics]
  finish world (errorCode reading.diagnostics)
    (.print [reading.program.listing] ++ complaint)

def withReading (settings : Settings) (file source : String)
    (next : Session.Reading → Ending) : Ending :=
  match Session.readWithin Session.standardFrames settings (some file) source with
  | .ok reading => next reading
  | .error fault => .failed (.fault fault)

def withSource (world : World) (path : String) (next : String → String → Ending) : Ending :=
  let file := Files.normal path
  if !world.files.exists? file then
    finish world 2 (.complain ["Error: File not found: " ++ file])
  else
    match world.files.readText file with
    | .ok source => next file source
    | .error fault => .failed (.fault fault)

def dialogueEnding (limits : Limits) (world : World) (settings : Settings) : Ending :=
  let start := Dialogue.start (world.machine settings)
  match start.feedAll limits (Dialogue.inputLines world.input) with
  | .ok (printed, last) =>
      .finished ⟨0, ⟨Dialogue.greeting, ""⟩ ++ printed, last.machine.files⟩
  | .error failure => .failed failure

def Action.perform (limits : Limits) (world : World) (settings : Settings) : Action → Ending
  | .run path => withSource world path (runFile limits world settings)
  | .check path json =>
      withSource world path fun file source =>
        withReading settings file source fun reading =>
          finish world (errorCode reading.diagnostics) (.print [checkText file json reading])
  | .tokens path =>
      withSource world path fun file source =>
        withReading settings file source (tokensEnding world)
  | .tree path =>
      withSource world path fun file source =>
        withReading settings file source (treeEnding world)
  | .dialogue => dialogueEnding limits world settings

/-- Runs the command. Settings that are refused end it before it starts. -/
def run (limits : Limits) (world : World) (arguments : List String) : Ending :=
  match Invocation.ofArguments arguments with
  | .error usage => .usage usage
  | .ok invocation =>
      match Settings.load world.files invocation.config world.environment with
      | .ok settings => invocation.action.perform limits world settings
      | .error (.refused message) => finish world 2 (.complain ["Error: " ++ message])
      | .error (.fault fault) => .failed (.fault fault)

end Fiscal.Command
