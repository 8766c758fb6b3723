import Fiscal.Number.Numeral
import Fiscal.Text.Upper

set_option autoImplicit false

namespace Fiscal.Token

def isInlineBlank (c : Char) : Bool := c = ' ' || c = '\t'

def digitAt (chars : List Char) (index : Nat) : Bool := chars[index]?.any Text.isDigit

-- A run of digits. An underscore belongs to it before a digit; where `grouping` is on, so does
-- a comma before exactly three digits.
def digitRun (grouping : Bool) : List Char → Nat
  | [] => 0
  | c :: rest =>
      if Text.isDigit c then digitRun grouping rest + 1
      else if c = '_' && digitAt rest 0 then digitRun grouping rest + 1
      else if c = ',' && grouping && digitAt rest 0 && digitAt rest 1 && digitAt rest 2
          && !digitAt rest 3 then
        digitRun grouping rest + 1
      else 0

def fractionLength (grouping : Bool) : List Char → Nat
  | '.' :: rest => if digitAt rest 0 then digitRun grouping rest + 1 else 0
  | _ => 0

def isExponentMark (c : Char) : Bool := c = 'e' || c = 'E'

def isSign (c : Char) : Bool := c = '+' || c = '-'

def exponentLength : List Char → Nat
  | [] => 0
  | mark :: rest =>
      if isExponentMark mark && digitAt rest 0 then (rest.takeWhile Text.isDigit).length + 1
      else if isExponentMark mark && rest.head?.any isSign && digitAt rest 1 then
        ((rest.drop 1).takeWhile Text.isDigit).length + 2
      else 0

def numberLength (grouping : Bool) (chars : List Char) : Nat :=
  let whole := digitRun grouping chars
  let fraction := fractionLength grouping (chars.drop whole)
  whole + fraction + exponentLength (chars.drop (whole + fraction))

def numberText (chars : List Char) : String :=
  String.ofList (chars.filter fun c => c != '_' && c != ',')

def isAsciiWord (c : Char) : Bool := c.isAlphanum || c = '_'

def dateLength? (chars : List Char) : Option Nat :=
  let shape := (chars.take 10).zipIdx.all fun (c, index) =>
    if index = 4 || index = 7 then c = '-' else Text.isDecimal c
  if 10 ≤ chars.length && shape && !chars[10]?.any isAsciiWord then some 10 else none

-- Blanks and a three-letter code after a number, with their length, if the code is a known
-- currency and ends there.
def currencySuffix? (currencies : List String) (chars : List Char) : Option (String × Nat) :=
  let blanks := (chars.takeWhile isInlineBlank).length
  let word := (chars.drop blanks).takeWhile Text.isLetter
  let code := Text.upper (String.ofList word)
  let next := chars[blanks + word.length]?
  if word.length = 3 && currencies.contains code
      && !next.any fun c => Text.isDigit c || c = '_' then
    some (code, blanks + word.length)
  else none

def isWordChar (c : Char) : Bool := Text.isAlphanumeric c || c = '_'

def wordLength (chars : List Char) : Nat := (chars.takeWhile isWordChar).length

def escapeValue? : Char → Option Char
  | 'n' => some '\n'
  | 't' => some '\t'
  | 'r' => some '\r'
  | '\\' => some '\\'
  | '"' => some '"'
  | '\'' => some '\''
  | '0' => some '\x00'
  | _ => none

/-- What follows the opening quote of a string: the number of characters up to and including the
closing quote, the decoded value, and the unknown escapes by the position of the character after
the backslash. -/
structure StringBody where
  length : Nat
  value : List Char
  badEscapes : List (Nat × Option Char)
  closed : Bool

namespace StringBody

def unclosed : StringBody := ⟨0, [], [], false⟩

def closedBy (quotes : Nat) : StringBody := ⟨quotes, [], [], true⟩

def precede (count : Nat) (value : List Char) (body : StringBody) : StringBody :=
  { body with
    length := count + body.length
    value := value ++ body.value
    badEscapes := body.badEscapes.map fun bad => (count + bad.1, bad.2) }

def withBadEscape (c : Option Char) (body : StringBody) : StringBody :=
  { body with badEscapes := (1, c) :: body.badEscapes }

def precedeEscape (c : Char) (body : StringBody) : StringBody :=
  match escapeValue? c with
  | some value => body.precede 2 [value]
  | none => (body.precede 2 [c]).withBadEscape (some c)

def inline (quote : Char) : List Char → StringBody
  | [] => unclosed
  | '\\' :: c :: rest =>
      if c = '\n' then (unclosed.precede 1 []).withBadEscape none
      else (inline quote rest).precedeEscape c
  | c :: rest =>
      if c = quote then closedBy 1
      else if c = '\n' then unclosed
      else if c = '\\' then (unclosed.precede 1 []).withBadEscape none
      else (inline quote rest).precede 1 [c]

def multiline (quote : Char) : List Char → StringBody
  | [] => unclosed
  | '\\' :: c :: rest =>
      if c = '\n' then ((multiline quote (c :: rest)).precede 1 []).withBadEscape none
      else (multiline quote rest).precedeEscape c
  | c :: rest =>
      if c = quote && rest.take 2 = [quote, quote] then closedBy 3
      else if c = '\\' then ((multiline quote rest).precede 1 []).withBadEscape none
      else (multiline quote rest).precede 1 [c]

end StringBody

-- Where a reader of blanks and comments stands; inside a block comment, with the position at
-- which that comment started.
inductive TriviaMode where
  | between
  | line
  | block (start : Nat)

structure Trivia where
  length : Nat
  openComment : Option Nat

def triviaFrom : TriviaMode → Nat → List Char → Trivia
  | .between, length, '#' :: '#' :: '#' :: rest => triviaFrom (.block length) (length + 3) rest
  | .between, length, '#' :: rest => triviaFrom .line (length + 1) rest
  | .between, length, c :: rest =>
      if isInlineBlank c || c = '\r' then triviaFrom .between (length + 1) rest
      else ⟨length, none⟩
  | .between, length, [] => ⟨length, none⟩
  | .line, length, c :: rest =>
      if c = '\n' then ⟨length, none⟩ else triviaFrom .line (length + 1) rest
  | .line, length, [] => ⟨length, none⟩
  | .block _, length, '#' :: '#' :: '#' :: rest => triviaFrom .between (length + 3) rest
  | .block start, length, _ :: rest => triviaFrom (.block start) (length + 1) rest
  | .block start, length, [] => ⟨length, some start⟩

def trivia (chars : List Char) : Trivia := triviaFrom .between 0 chars

-- Width of the blanks at the head of a line: a tab counts as `tabWidth` columns and a carriage
-- return as none.
def indentWidth (tabWidth : Nat) : List Char → Nat
  | ' ' :: rest => indentWidth tabWidth rest + 1
  | '\t' :: rest => indentWidth tabWidth rest + tabWidth
  | '\r' :: rest => indentWidth tabWidth rest
  | _ => 0

end Fiscal.Token
