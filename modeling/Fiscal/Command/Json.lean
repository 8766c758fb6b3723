import Fiscal.Source.Diagnostic
import Fiscal.Text.Quoted

set_option autoImplicit false

namespace Fiscal.Command

inductive Json where
  | text (value : String)
  | number (value : Nat)
  | list (items : List Json)
  | object (fields : List (String × Json))

namespace Json

def escapeUnit (unit : Nat) : List Char := '\\' :: 'u' :: Text.hexDigits 4 unit

def escapeCode (code : Nat) : List Char :=
  if code < 0x10000 then escapeUnit code
  else
    escapeUnit (0xD800 + (code - 0x10000) / 0x400)
      ++ escapeUnit (0xDC00 + (code - 0x10000) % 0x400)

def escapeChar (c : Char) : List Char :=
  match c with
  | '"' => ['\\', '"']
  | '\\' => ['\\', '\\']
  | '\n' => ['\\', 'n']
  | '\r' => ['\\', 'r']
  | '\t' => ['\\', 't']
  | '\x08' => ['\\', 'b']
  | '\x0c' => ['\\', 'f']
  | c => if ' ' ≤ c && c ≤ '~' then [c] else escapeCode c.toNat

def quote (value : String) : String :=
  "\"" ++ String.ofList (value.toList.flatMap escapeChar) ++ "\""

def indent (level : Nat) : String := String.ofList (List.replicate (2 * level) ' ')

def bracketed (opening closing : String) (level : Nat) (parts : List String) : String :=
  if parts.isEmpty then opening ++ closing
  else
    opening ++ "\n" ++ indent (level + 1)
      ++ String.intercalate (",\n" ++ indent (level + 1)) parts
      ++ "\n" ++ indent level ++ closing

mutual

def render (level : Nat) : Json → String
  | text value => quote value
  | number value => toString value
  | list items => bracketed "[" "]" level (renderItems (level + 1) items)
  | object fields => bracketed "\x7b" "\x7d" level (renderFields (level + 1) fields)

def renderItems (level : Nat) : List Json → List String
  | [] => []
  | item :: rest => render level item :: renderItems level rest

def renderFields (level : Nat) : List (String × Json) → List String
  | [] => []
  | (name, value) :: rest =>
      (quote name ++ ": " ++ render level value) :: renderFields level rest

end

def ofLocation (place : Source.Location) : Json :=
  object [("line", number place.line), ("column", number place.column),
    ("offset", number place.offset)]

def ofSpan (span : Source.Span) : Json :=
  object [("start", ofLocation span.start), ("end", ofLocation span.stop)]

def ofDiagnostic (diagnostic : Source.Diagnostic) : Json :=
  object
    ([("code", text diagnostic.code), ("message", text diagnostic.message),
        ("severity", text "error"), ("hints", list (diagnostic.hints.map text))]
      ++ diagnostic.span.toList.map fun span => ("range", ofSpan span))

def ofDiagnostics (diagnostics : List Source.Diagnostic) : Json :=
  object [("diagnostics", list (diagnostics.map ofDiagnostic)),
    ("error_count", number diagnostics.length)]

end Json

end Fiscal.Command
