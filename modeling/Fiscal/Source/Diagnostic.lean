import Fiscal.Source.Issue
import Fiscal.Source.Span
import Fiscal.Text.Lines

set_option autoImplicit false

namespace Fiscal.Source

structure Diagnostic where
  issue : Issue
  span : Option Span
  line : Option String

namespace Diagnostic

def code (d : Diagnostic) : String := d.issue.code

def message (d : Diagnostic) : String := d.issue.message

def hints (d : Diagnostic) : List String := d.issue.hints

def placeText (d : Diagnostic) : String :=
  match d.span with
  | some span => span.start.text
  | none => "<unknown>"

def headline (d : Diagnostic) : String :=
  d.placeText ++ ": error[" ++ d.code ++ "]: " ++ d.message

-- The column after the last caret: the end of the span, or the end of the line for a span that
-- goes on below it.
def caretStop (span : Span) (line : String) : Nat :=
  if span.start.line = span.stop.line then span.stop.column else line.length + 1

def caretCount (span : Span) (line : String) : Nat :=
  max 1 (caretStop span line - span.start.column)

def caretRow (span : Span) (line : String) : String :=
  "    | " ++ String.ofList (List.replicate (span.start.column - 1) ' ')
    ++ String.ofList (List.replicate (caretCount span line) '^')

def sourceRow (span : Span) (line : String) : String :=
  Text.padLeft 3 (toString span.start.line) ++ " | " ++ line

def excerpt (d : Diagnostic) : List String :=
  match d.span, d.line with
  | some span, some line => ["  |", sourceRow span line, caretRow span line]
  | _, _ => []

def hintRow (hint : String) : String := "    = hint: " ++ hint

def render (d : Diagnostic) : String :=
  String.intercalate "\n" (d.headline :: (d.excerpt ++ d.hints.map hintRow))

def renderAll (ds : List Diagnostic) : String :=
  let count := if ds.isEmpty then [] else ["\n" ++ toString ds.length ++ " error(s)"]
  String.intercalate "\n\n" (ds.map render ++ count)

end Diagnostic

end Fiscal.Source
