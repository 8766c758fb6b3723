import Fiscal.Source.Diagnostic
import Fiscal.Token.Basic

set_option autoImplicit false

namespace Fiscal.Grammar

open Source

/-- Where a reading stands: the last token passed, the present one and those after it, the source
lines to quote, and what was reported, latest first. -/
structure Cursor where
  previous : Token
  current : Token
  ahead : List Token
  lines : Option (List String)
  reports : List Diagnostic

-- Why a reading stops early: a rule refuses the tokens, or a bound on its depth or its rounds is
-- reached.
inductive Halt where
  | refused (diagnostic : Diagnostic)
  | unfinished

def Halt.diagnostics : Halt → List Diagnostic
  | refused diagnostic => [diagnostic]
  | unfinished => []

abbrev Reading := EStateM Halt Cursor

namespace Cursor

def start (first : Token) (rest : List Token) (lines : Option (List String)) : Cursor :=
  ⟨first, first, rest, lines, []⟩

def kind (cursor : Cursor) : TokenKind := cursor.current.kind

def kindAhead (cursor : Cursor) (distance : Nat) : TokenKind :=
  (cursor.ahead[distance]?.map Token.kind).getD .endOfFile

def atEnd (cursor : Cursor) : Bool := cursor.kind == .endOfFile

def advance (cursor : Cursor) : Cursor :=
  if cursor.atEnd then cursor
  else
    match cursor.ahead with
    | [] => cursor
    | next :: rest => { cursor with previous := cursor.current, current := next, ahead := rest }

def advanceWhile (goOn : Token → Token → Bool) (previous current : Token) :
    List Token → Token × Token × List Token
  | [] => (previous, current, [])
  | next :: rest =>
      if current.kind != .endOfFile && goOn previous current then
        advanceWhile goOn current next rest
      else (previous, current, next :: rest)

def skip (goOn : Token → Token → Bool) (cursor : Cursor) : Cursor :=
  let (previous, current, ahead) :=
    advanceWhile goOn cursor.previous cursor.current cursor.ahead
  { cursor with previous, current, ahead }

def lineOf (cursor : Cursor) (token : Token) : Option String :=
  cursor.lines.bind fun lines => Text.line? lines token.span.start.line

def describe (token : Token) : String :=
  if token.kind == .invalid then "invalid text " ++ Text.quoted token.lexeme
  else if token.kind.isLayout then token.kind.name
  else "'" ++ token.lexeme ++ "'"

def unexpected (cursor : Cursor) (expected : String) : Diagnostic :=
  if cursor.atEnd then ⟨.unexpectedEnd expected, some cursor.current.span, none⟩
  else
    ⟨.unexpectedToken expected (describe cursor.current), some cursor.current.span,
      cursor.lineOf cursor.current⟩

def spanFrom (cursor : Cursor) (first : Location) : Span := ⟨first, cursor.previous.span.stop⟩

end Cursor

def kindHere : Reading TokenKind := return (← get).kind

def kindAhead (distance : Nat) : Reading TokenKind := return (← get).kindAhead distance

def at? (kind : TokenKind) : Reading Bool := return (← get).kind == kind

def atAny (kinds : List TokenKind) : Reading Bool := return kinds.contains (← get).kind

def advance : Reading Token := do
  let cursor ← get
  set cursor.advance
  return cursor.current

def accept (kind : TokenKind) : Reading Bool := do
  if ← at? kind then
    let _ ← advance
    return true
  else return false

def acceptAny (kinds : List TokenKind) : Reading Bool := do
  if ← atAny kinds then
    let _ ← advance
    return true
  else return false

def unexpected {α : Type} (expected : String) : Reading α := do
  throw (.refused ((← get).unexpected expected))

def failAt {α : Type} (issue : Issue) (span : Span) (token : Token) : Reading α := do
  throw (.refused ⟨issue, some span, (← get).lineOf token⟩)

def expect (kind : TokenKind) (expected : String) : Reading Token := do
  if ← at? kind then advance else unexpected expected

def expectName (expected : String) : Reading String := do
  if (← kindHere).isName then return (← advance).lexeme else unexpected expected

def skipNewlines : Reading Unit :=
  modify (Cursor.skip fun _ current => current.kind == .newline)

def expectLineEnd : Reading Unit := do
  if ← atAny [.endOfFile, .dedent] then return ()
  else if ← accept .newline then return ()
  else unexpected "end of line"

def spanFrom (first : Location) : Reading Span := return (← get).spanFrom first

def repeatStep {σ : Type} (step : σ → Reading (σ × Bool)) : Nat → σ → Reading σ
  | 0, _ => throw .unfinished
  | count + 1, state => do
      let (state, more) ← step state
      if more then repeatStep step count state else return state

-- Repeats a step that passes a token whenever it asks for more.
def repeating {σ : Type} (start : σ) (step : σ → Reading (σ × Bool)) : Reading σ := do
  repeatStep step ((← get).ahead.length + 1) start

def nextLine {σ : Type} (state : σ) (line : Reading (σ × Bool)) : Reading (σ × Bool) := do
  if ← atAny [.dedent, .endOfFile] then return (state, false)
  else
    skipNewlines
    line

section Parts

variable {α : Type}

def optionalAfter (kind : TokenKind) (reading : Reading α) : Reading (Option α) := do
  if ← accept kind then return some (← reading) else return none

def unlessAny (kinds : List TokenKind) (reading : Reading α) : Reading (Option α) := do
  if ← atAny kinds then return none else return some (← reading)

def nextJoined (item : Reading α) (items : List α) : Reading (List α × Bool) := do
  if ← accept .comma then return ((← item) :: items, true) else return (items, false)

def joined (item : Reading α) : Reading (List α) := do
  let first ← item
  let items ← repeating [first] (nextJoined item)
  return items.reverse

end Parts

end Fiscal.Grammar
