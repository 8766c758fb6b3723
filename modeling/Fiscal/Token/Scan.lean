import Fiscal.Source.Diagnostic
import Fiscal.Token.Basic
import Fiscal.Token.Literal

/-!
Scanning: from a source text to its tokens. A scan walks over the characters ahead; every round
passes blanks and comments, settles the indentation at the start of a line and reads one token.
A malformed piece is reported and stands in the stream as an invalid token, so the stream always
ends with the end of the file.
-/

set_option autoImplicit false

namespace Fiscal.Token

open Source

structure Dialect where
  tabWidth : Nat
  currencies : List String
  lines : List String

-- Three kinds of brackets, each with the places of its open ones, innermost first.
structure Groups where
  parens : List Location
  brackets : List Location
  braces : List Location

namespace Groups

def none : Groups := ⟨[], [], []⟩

def depth (groups : Groups) : Nat :=
  groups.parens.length + groups.brackets.length + groups.braces.length

end Groups

/-- Where a scan stands. `indents` is the stack of indentation widths, innermost first; tokens
and reports are kept latest first. -/
structure Scan where
  ahead : List Char
  place : Location
  lineStart : Bool
  indents : List Nat
  groups : Groups
  tokens : List Token
  reports : List Diagnostic

namespace Scan

def start (file : Option String) (source : String) : Scan :=
  ⟨source.toList, Location.start file, true, [0], Groups.none, [], []⟩

-- Passes over `count` characters. A line feed among them puts the scan at the start of a line.
def advance (count : Nat) (scan : Scan) : Scan :=
  let passed := scan.ahead.take count
  { scan with
    ahead := scan.ahead.drop count
    place := scan.place.afterAll passed
    lineStart := scan.lineStart || passed.contains '\n' }

def emit (token : Token) (scan : Scan) : Scan :=
  { scan with tokens := token :: scan.tokens }

def report (diagnostic : Diagnostic) (scan : Scan) : Scan :=
  { scan with reports := diagnostic :: scan.reports }

def reportAt (dialect : Dialect) (issue : Issue) (span : Span) (scan : Scan) : Scan :=
  scan.report ⟨issue, some span, Text.line? dialect.lines span.start.line⟩

def emitLayout (kind : TokenKind) (lexeme : String) (first : Location) (scan : Scan) : Scan :=
  scan.emit ⟨kind, .none, lexeme, ⟨first, scan.place⟩⟩

def read (kind : TokenKind) (payload : Payload) (count : Nat) (scan : Scan) : Scan :=
  let next := scan.advance count
  next.emit ⟨kind, payload, String.ofList (scan.ahead.take count), ⟨scan.place, next.place⟩⟩

def readInvalid (dialect : Dialect) (issue : Issue) (count : Nat) (scan : Scan) : Scan :=
  let next := scan.advance count
  let lexeme := String.ofList (scan.ahead.take count)
  let span : Span := ⟨scan.place, next.place⟩
  (next.reportAt dialect issue span).emit ⟨.invalid, .text lexeme, lexeme, span⟩

def readText (kind : TokenKind) (count : Nat) (scan : Scan) : Scan :=
  scan.read kind (.text (String.ofList (scan.ahead.take count))) count

-- Brings the stack of indentation widths to `width` and emits the tokens for the difference.
def settleIndent (width : Nat) (first : Location) (scan : Scan) : Scan :=
  if scan.indents.head?.any fun top => top < width then
    { scan with indents := width :: scan.indents }.emitLayout .indent "" first
  else
    let kept := scan.indents.dropWhile fun top => width < top
    let dedent : Token := ⟨.dedent, .none, "", ⟨first, scan.place⟩⟩
    { scan with
      indents := kept
      tokens := List.replicate (scan.indents.length - kept.length) dedent ++ scan.tokens }

def reportEscapes (dialect : Dialect) (offset : Nat) (scan : Scan) :
    List (Nat × Option Char) → Scan
  | [] => scan
  | (position, c) :: rest =>
      let first := scan.place.afterAll (scan.ahead.take (offset + position))
      let last := (c.map first.after).getD first
      reportEscapes dialect offset (scan.reportAt dialect (.invalidEscape c) ⟨first, last⟩) rest

def readString (dialect : Dialect) (quote : Char) (scan : Scan) : Scan :=
  let multiline := scan.ahead.take 3 = [quote, quote, quote]
  let opening := if multiline then 3 else 1
  let rest := scan.ahead.drop opening
  let body := if multiline then StringBody.multiline quote rest else StringBody.inline quote rest
  let scan := scan.reportEscapes dialect opening body.badEscapes
  let count := opening + body.length
  if body.closed then
    scan.read (if multiline then .multilineString else .string) (.text (String.ofList body.value))
      count
  else
    let issue := if multiline then .unterminatedMultilineString else .unterminatedString
    scan.readInvalid dialect issue count

def readNumber (dialect : Dialect) (scan : Scan) : Scan :=
  match dateLength? scan.ahead with
  | some count => scan.readText .date count
  | none =>
      let count := numberLength (scan.groups.depth == 0) scan.ahead
      let text := numberText (scan.ahead.take count)
      match Number.read? text with
      | none => scan.readInvalid dialect (.invalidNumber text) count
      | some amount =>
          match currencySuffix? dialect.currencies (scan.ahead.drop count) with
          | some (currency, suffix) =>
              scan.read .money (.money ⟨currency, amount⟩) (count + suffix)
          | none => scan.read .number (.number amount) count

def readWord (dialect : Dialect) (scan : Scan) : Except Fault Scan :=
  let count := wordLength scan.ahead
  let word := String.ofList (scan.ahead.take count)
  let rest := scan.ahead.drop count
  let blanks := (rest.takeWhile isInlineBlank).length
  if dialect.currencies.contains word && digitAt rest blanks then
    let digits := rest.drop blanks
    let length := numberLength (scan.groups.depth == 0) digits
    let text := numberText (digits.take length)
    match Number.read? text with
    | some amount => .ok (scan.read .money (.money ⟨word, amount⟩) (count + blanks + length))
    | none => .error (.unreadableNumber text)
  else
    match TokenKind.ofWord? word with
    | some kind => .ok (scan.read kind .none count)
    | none => .ok (scan.readText .identifier count)

def openGroup (kind : TokenKind) (groups : Groups) (scan : Scan) : Scan :=
  { scan with groups }.readText kind 1

-- Reads a closing bracket, whose stack is given with what it leaves when one is taken off.
def closeGroup (dialect : Dialect) (kind : TokenKind) (name : String) (stack : List Location)
    (groups : Groups) (scan : Scan) : Scan :=
  match stack with
  | _ :: _ => { scan with groups }.readText kind 1
  | [] =>
      (scan.readText kind 1).reportAt dialect (.unopenedGroup name)
        ⟨scan.place, scan.place.afterAll (scan.ahead.take 1)⟩

def pairKind? : Char → Char → Option TokenKind
  | '-', '>' => some .arrow
  | '=', '=' => some .equalEqual
  | '!', '=' => some .bangEqual
  | '<', '=' => some .lessEqual
  | '>', '=' => some .greaterEqual
  | '&', '&' => some .andAnd
  | '|', '|' => some .orOr
  | _, _ => none

def singleKind? : Char → Option TokenKind
  | '+' => some .plus
  | '-' => some .minus
  | '*' => some .star
  | '/' => some .slash
  | '%' => some .percent
  | '^' => some .caret
  | '<' => some .less
  | '>' => some .greater
  | '=' => some .equal
  | '!' => some .bang
  | ':' => some .colon
  | ',' => some .comma
  | '.' => some .dot
  | _ => none

def readSymbol (dialect : Dialect) (c : Char) (next : Option Char) (scan : Scan) : Scan :=
  match next.bind (pairKind? c) with
  | some kind => scan.readText kind 2
  | none =>
      let groups := scan.groups
      match c with
      | '(' => scan.openGroup .leftParen { groups with parens := scan.place :: groups.parens }
      | '[' =>
          scan.openGroup .leftBracket { groups with brackets := scan.place :: groups.brackets }
      | '\x7b' => scan.openGroup .leftBrace { groups with braces := scan.place :: groups.braces }
      | ')' =>
          scan.closeGroup dialect .rightParen "parenthesis" groups.parens
            { groups with parens := groups.parens.tail }
      | ']' =>
          scan.closeGroup dialect .rightBracket "bracket" groups.brackets
            { groups with brackets := groups.brackets.tail }
      | '\x7d' =>
          scan.closeGroup dialect .rightBrace "brace" groups.braces
            { groups with braces := groups.braces.tail }
      | _ =>
          match singleKind? c with
          | some kind => scan.readText kind 1
          | none => scan.readInvalid dialect (.unexpectedCharacter c) 1

def readNewline (scan : Scan) : Scan :=
  let next := scan.advance 1
  if scan.groups.depth = 0 then next.emitLayout .newline "\\n" scan.place else next

def readToken (dialect : Dialect) (scan : Scan) : Except Fault Scan :=
  match scan.ahead with
  | [] => .ok scan
  | c :: rest =>
      if c = '\n' then .ok scan.readNewline
      else if c = '"' || c = '\'' then .ok (scan.readString dialect c)
      else if Text.isDigit c then .ok (scan.readNumber dialect)
      else if Text.isLetter c || c = '_' then scan.readWord dialect
      else .ok (scan.readSymbol dialect c rest.head?)

-- Whether a line has code at the present place: the end of the line, the end of the text and a
-- NUL leave the start of the line pending.
def atCode (scan : Scan) : Bool :=
  scan.ahead.head?.any fun c => c != '\n' && c != '\x00'

def startLine (width : Nat) (first : Location) (scan : Scan) : Scan :=
  if scan.atCode then
    let scan := { scan with lineStart := false }
    -- Inside brackets a line has no indentation of its own.
    if scan.groups.depth = 0 then scan.settleIndent width first else scan
  else scan

def round (dialect : Dialect) (scan : Scan) : Except Fault Scan :=
  let skipped := trivia scan.ahead
  match skipped.openComment with
  | some offset =>
      .ok ((scan.advance offset).readInvalid dialect .unterminatedComment (skipped.length - offset))
  | none =>
      let next := scan.advance skipped.length
      let next :=
        if scan.lineStart then
          next.startLine (indentWidth dialect.tabWidth scan.ahead) scan.place
        else next
      next.readToken dialect

def rounds (dialect : Dialect) : Nat → Scan → Except Fault Scan
  | 0, scan => .ok scan
  | count + 1, scan =>
      if scan.ahead.isEmpty then .ok scan
      else (scan.round dialect).bind (rounds dialect count)

def continues (scan : Scan) : Bool :=
  let skipped := trivia scan.ahead
  skipped.openComment.isNone && (scan.ahead.drop skipped.length).head? == some '\n'
    && scan.groups.depth != 0

-- Rounds where looking for a token once more is a call inside the call before: there may be only so
-- many of them open at once, and a token ends them all.
def roundsWithin (dialect : Dialect) (calls : Nat) : Nat → Nat → Scan → Except Fault Scan
  | 0, _, scan => .ok scan
  | count + 1, spare, scan =>
      if scan.ahead.isEmpty then .ok scan
      else if scan.continues then
        match spare with
        | 0 => .error .stackOverflow
        | spare + 1 => (scan.round dialect).bind (roundsWithin dialect calls count spare)
      else (scan.round dialect).bind (roundsWithin dialect calls count calls)

def reportUnclosed (name : String) (places : List Location) (scan : Scan) : Scan :=
  places.reverse.foldl
    (fun scan place => scan.report ⟨.unclosedGroup name, some (Span.point place), none⟩) scan

def lineOpen (scan : Scan) : Bool :=
  scan.tokens.head?.any fun token => !token.kind.isLayout

def finish (scan : Scan) : Scan :=
  let scan := scan.reportUnclosed "parenthesis" scan.groups.parens
  let scan := scan.reportUnclosed "bracket" scan.groups.brackets
  let scan := scan.reportUnclosed "brace" scan.groups.braces
  -- The last line may lack its end, and blocks may still be open.
  let scan := if scan.lineOpen then scan.emitLayout .newline "" scan.place else scan
  let scan := scan.settleIndent 0 scan.place
  scan.emitLayout .endOfFile "" scan.place

end Scan

structure Stream where
  tokens : List Token
  reports : List Diagnostic

/-- Scans a source text, given the width of a tab and currency codes beyond the standard ones. -/
def scan (tabWidth : Nat) (currencies : List String) (file : Option String) (source : String) :
    Except Fault Stream :=
  let dialect : Dialect :=
    ⟨tabWidth, standardCurrencies ++ currencies.map Text.upper, Text.lines source⟩
  let start := Scan.start file source
  (start.rounds dialect start.ahead.length).map fun scan =>
    let scan := scan.finish
    ⟨scan.tokens.reverse, scan.reports.reverse⟩

/-- Scans a source text as `scan` does, on a host whose stack has room for so many calls. -/
def tokenize (calls tabWidth : Nat) (currencies : List String) (file : Option String) (source : String) :
    Except Fault Stream :=
  let dialect : Dialect :=
    ⟨tabWidth, standardCurrencies ++ currencies.map Text.upper, Text.lines source⟩
  let start := Scan.start file source
  (start.roundsWithin dialect calls start.ahead.length calls).map fun scan =>
    let scan := scan.finish
    ⟨scan.tokens.reverse, scan.reports.reverse⟩

end Fiscal.Token
