import Fiscal.Yaml.Scalar

set_option autoImplicit false

namespace Fiscal.Yaml

abbrev Reader (α : Type) := List Char → Option (α × List Char)

def isSpaceOrEnd : List Char → Bool
  | [] => true
  | c :: _ => c == ' ' || c == '\n' || c == '\t'

def isBracketOrComma (c : Char) : Bool := [',', '[', ']', '\x7b', '\x7d'].contains c

-- Whether a colon ends a plain scalar: before a blank, and inside brackets also before a
-- bracket or a comma.
def endsAtColon (flow : Bool) (rest : List Char) : Bool :=
  isSpaceOrEnd rest || (flow && (rest.head?.map isBracketOrComma).getD false)

def startsPlain (flow : Bool) : List Char → Bool
  | [] => false
  | c :: rest =>
      if ['-', '?', ':'].contains c then
        !isSpaceOrEnd rest && (c == '-' || !flow)
      else
        !(c == ' ' || c == '\n' || c == '\t' || isBracketOrComma c
          || ['#', '&', '*', '!', '|', '>', '\'', '"', '%', '@', '\x60'].contains c)

-- The part of a plain scalar that stands on one line, without the spaces at its end. `spaces`
-- holds those that belong to it only if something follows.
def plainLine (flow : Bool) (spaces : List Char) : List Char → List Char × List Char
  | [] => ([], [])
  | c :: rest =>
      if c = '\n' || c = '\t' then ([], c :: rest)
      else if c = ' ' then plainLine flow (' ' :: spaces) rest
      else if c = '#' && !spaces.isEmpty then ([], c :: rest)
      else if c = ':' && endsAtColon flow rest then ([], c :: rest)
      else if flow && (c == '?' || isBracketOrComma c) then ([], c :: rest)
      else
        let (more, after) := plainLine flow [] rest
        (spaces ++ c :: more, after)

def indentation (chars : List Char) : Nat := (chars.takeWhile (· == ' ')).length

def isDocumentMark (chars : List Char) : Bool :=
  (["---".toList, "...".toList].contains (chars.take 3)) && isSpaceOrEnd (chars.drop 3)

def lineBreaks : Nat → List Char → Nat × List Char
  | 0, chars => (0, chars)
  | steps + 1, chars =>
      match chars.dropWhile (· == ' ') with
      | '\n' :: rest =>
          let (count, after) := lineBreaks steps rest
          (count + 1, after)
      | _ => (0, chars)

def foldedBreaks (count : Nat) : List Char :=
  if count ≤ 1 then [' '] else List.replicate (count - 1) '\n'

def plainLines (flow : Bool) (least : Nat) : Nat → List Char → List Char × List Char
  | 0, chars => ([], chars)
  | steps + 1, chars =>
      let (count, line) := lineBreaks (chars.length + 1) chars
      let content := line.dropWhile (· == ' ')
      if count = 0 || content.isEmpty || content.head? == some '#' || isDocumentMark line
          || (!flow && indentation line < least) then ([], chars)
      else
        match plainLine flow [] content with
        | ([], _) => ([], chars)
        | (text, after) =>
            let (more, rest) := plainLines flow least steps after
            (foldedBreaks count ++ text ++ more, rest)

def plain (flow : Bool) (least : Nat) : Reader Setting := fun chars =>
  if startsPlain flow chars then
    let (first, after) := plainLine flow [] chars
    let (more, rest) := plainLines flow least (after.length + 1) after
    let text := String.ofList (first ++ more)
    if text = "=" then none else some (resolve text, rest)
  else none

def simpleEscape? : Char → Option Char
  | '0' => some '\x00'
  | 'a' => some '\x07'
  | 'b' => some '\x08'
  | 't' => some '\t'
  | '\t' => some '\t'
  | 'n' => some '\n'
  | 'v' => some '\x0b'
  | 'f' => some '\x0c'
  | 'r' => some '\x0d'
  | 'e' => some '\x1b'
  | ' ' => some ' '
  | '"' => some '"'
  | '/' => some '/'
  | '\\' => some '\\'
  | 'N' => some '\u0085'
  | '_' => some '\u00a0'
  | 'L' => some '\u2028'
  | 'P' => some '\u2029'
  | _ => none

def escapeLength? : Char → Option Nat
  | 'x' => some 2
  | 'u' => some 4
  | 'U' => some 8
  | _ => none

def escape? : Reader Char
  | [] => none
  | c :: rest =>
      match simpleEscape? c, escapeLength? c with
      | some known, _ => some (known, rest)
      | none, some count =>
          if (rest.take count).length = count then
            ((rest.take count).mapM (digit? 16)).map fun digits =>
              (Char.ofNat (digits.foldl (fun value digit => 16 * value + digit) 0),
                rest.drop count)
          else none
      | none, none => none

def dropTrailing (reversed : List Char) : List Char :=
  reversed.dropWhile fun c => c == ' ' || c == '\t'

def singleQuoted : Nat → List Char → Reader String
  | 0, _, _ => none
  | steps + 1, reversed, chars =>
      match chars with
      | [] => none
      | '\'' :: '\'' :: rest => singleQuoted steps ('\'' :: reversed) rest
      | '\'' :: rest => some (String.ofList reversed.reverse, rest)
      | '\n' :: rest =>
          let (count, after) := lineBreaks (rest.length + 1) rest
          let text := (foldedBreaks (count + 1)).reverse ++ dropTrailing reversed
          if isDocumentMark after then none
          else
            singleQuoted steps text (after.dropWhile fun c => c == ' ' || c == '\t')
      | c :: rest => singleQuoted steps (c :: reversed) rest

def doubleQuoted : Nat → List Char → Reader String
  | 0, _, _ => none
  | steps + 1, reversed, chars =>
      match chars with
      | [] => none
      | '"' :: rest => some (String.ofList reversed.reverse, rest)
      | '\\' :: '\n' :: rest =>
          let (count, after) := lineBreaks (rest.length + 1) rest
          doubleQuoted steps (List.replicate count '\n' ++ reversed)
            (after.dropWhile fun c => c == ' ' || c == '\t')
      | '\\' :: rest =>
          match escape? rest with
          | some (c, after) => doubleQuoted steps (c :: reversed) after
          | none => none
      | '\n' :: rest =>
          let (count, after) := lineBreaks (rest.length + 1) rest
          let text := (foldedBreaks (count + 1)).reverse ++ dropTrailing reversed
          if isDocumentMark after then none
          else
            doubleQuoted steps text (after.dropWhile fun c => c == ' ' || c == '\t')
      | c :: rest => doubleQuoted steps (c :: reversed) rest

def quotedText : Reader String
  | '\'' :: rest => singleQuoted (rest.length + 1) [] rest
  | '"' :: rest => doubleQuoted (rest.length + 1) [] rest
  | _ => none

def dropFlowSpace : Nat → List Char → List Char
  | 0, chars => chars
  | steps + 1, chars =>
      match chars with
      | ' ' :: rest => dropFlowSpace steps rest
      | '\n' :: rest => dropFlowSpace steps rest
      | '#' :: rest => dropFlowSpace steps (rest.dropWhile (· != '\n'))
      | chars => chars

def skipSpace (chars : List Char) : List Char := dropFlowSpace (chars.length + 1) chars

def isKey : Setting → Bool
  | .list _ | .mapping _ => false
  | _ => true

mutual

def flowNode : Nat → Reader Setting
  | 0, _ => none
  | steps + 1, chars =>
      match chars with
      | '[' :: rest => flowItems steps [] (skipSpace rest)
      | '\x7b' :: rest => flowEntries steps [] (skipSpace rest)
      | '\'' :: _ => (quotedText chars).map fun found => (.text found.1, found.2)
      | '"' :: _ => (quotedText chars).map fun found => (.text found.1, found.2)
      | chars => plain true 0 chars

def flowValue : Nat → Reader Setting
  | 0, _ => none
  | steps + 1, chars =>
      match chars with
      | ',' :: _ | ']' :: _ | '\x7d' :: _ => some (.null, chars)
      | chars => flowNode steps chars

-- The items of a list up to its closing bracket, those before in reverse. A key with a value is
-- an item by itself.
def flowItems : Nat → List Setting → Reader Setting
  | 0, _, _ => none
  | steps + 1, items, chars =>
      match chars with
      | ']' :: rest => some (.list items.reverse, rest)
      | chars =>
          match flowNode steps chars with
          | none => none
          | some (item, after) =>
              match skipSpace after with
              | ',' :: rest => flowItems steps (item :: items) (skipSpace rest)
              | ']' :: rest => some (.list (item :: items).reverse, rest)
              | ':' :: rest =>
                  match flowValue steps (skipSpace rest) with
                  | none => none
                  | some (value, after) =>
                      let pair := Setting.mapping [(item, value)]
                      if !isKey item then none
                      else
                        match skipSpace after with
                        | ',' :: rest => flowItems steps (pair :: items) (skipSpace rest)
                        | ']' :: rest => some (.list (pair :: items).reverse, rest)
                        | _ => none
              | _ => none

def flowEntries : Nat → List (Setting × Setting) → Reader Setting
  | 0, _, _ => none
  | steps + 1, entries, chars =>
      match chars with
      | '\x7d' :: rest => some (.mapping entries, rest)
      | chars =>
          match flowNode steps chars with
          | none => none
          | some (key, after) =>
              let after := skipSpace after
              let value :=
                match after with
                | ':' :: rest => flowValue steps (skipSpace rest)
                | after => some (.null, after)
              match value with
              | none => none
              | some (value, after) =>
                  let entries := Setting.putEntry key value entries
                  if !isKey key then none
                  else
                    match skipSpace after with
                    | ',' :: rest => flowEntries steps entries (skipSpace rest)
                    | '\x7d' :: rest => some (.mapping entries, rest)
                    | _ => none

end

def inlineNode (least : Nat) : Reader Setting := fun chars =>
  match chars with
  | '[' :: _ => flowNode (2 * chars.length + 2) chars
  | '\x7b' :: _ => flowNode (2 * chars.length + 2) chars
  | '\'' :: _ => (quotedText chars).map fun found => (.text found.1, found.2)
  | '"' :: _ => (quotedText chars).map fun found => (.text found.1, found.2)
  | chars => plain false least chars

end Fiscal.Yaml
