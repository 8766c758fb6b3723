import Fiscal.Yaml.Flow

set_option autoImplicit false

namespace Fiscal.Yaml

def endLine : List Char → Option (List Char) := fun chars =>
  match chars.dropWhile (· == ' ') with
  | [] => some []
  | '\n' :: rest => some rest
  | '#' :: rest => some ((rest.dropWhile (· != '\n')).drop 1)
  | _ => none

def dropEmptyLines : Nat → List Char → List Char
  | 0, chars => chars
  | steps + 1, chars =>
      if chars.isEmpty then []
      else
        match endLine chars with
        | some rest => dropEmptyLines steps rest
        | none => chars

def nextLine? (chars : List Char) : Option (Nat × List Char) :=
  let line := dropEmptyLines (chars.length + 1) chars
  if line.isEmpty || isDocumentMark line then none
  else some (indentation line, line.dropWhile (· == ' '))

def startsItem : List Char → Bool
  | '-' :: rest => isSpaceOrEnd rest
  | _ => false

def key? : Reader Setting := fun chars =>
  match chars with
  | [] => none
  | c :: _ =>
      let found :=
        if c = '\'' || c = '"' then
          (quotedText chars).map fun found =>
            (Setting.text found.1, found.2.dropWhile (· == ' '))
        else if startsPlain false chars then
          let (text, after) := plainLine false [] chars
          some (resolve (String.ofList text), after)
        else none
      match found with
      | some (key, ':' :: rest) =>
          if isSpaceOrEnd rest && !(chars.take (chars.length - rest.length)).contains '\n' then
            some (key, rest)
          else none
      | _ => none

mutual

-- A value whose first line stands at a column, inside a form at the column `least - 1`.
def blockNode : Nat → Nat → Nat → Reader Setting
  | 0, _, _, _ => none
  | steps + 1, least, column, chars =>
      if startsItem chars then blockItems steps column [] chars
      else if (key? chars).isSome then blockEntries steps column [] chars
      else
        match inlineNode least chars with
        | some (value, after) => (endLine after).map fun rest => (value, rest)
        | none => none

-- The value on the lines below a key or a dash at a column. Only a key may have a list at its
-- own column.
def valueBelow : Nat → Bool → Nat → Reader Setting
  | 0, _, _, _ => none
  | steps + 1, underKey, column, chars =>
      match nextLine? chars with
      | none => some (.null, chars)
      | some (indent, content) =>
          if column < indent then blockNode steps (column + 1) indent content
          else if underKey && indent == column && startsItem content then
            blockItems steps column [] content
          else some (.null, chars)

def blockItems : Nat → Nat → List Setting → Reader Setting
  | 0, _, _, _ => none
  | steps + 1, column, items, chars =>
      let content := chars.drop 1
      let item :=
        match endLine content with
        | some rest => valueBelow steps false column rest
        | none =>
            blockNode steps (column + 1) (column + 1 + indentation content)
              (content.dropWhile (· == ' '))
      match item with
      | none => none
      | some (item, after) =>
          match nextLine? after with
          | some (indent, next) =>
              if indent == column && startsItem next then
                blockItems steps column (item :: items) next
              else some (.list (item :: items).reverse, after)
          | none => some (.list (item :: items).reverse, after)

def blockEntries : Nat → Nat → List (Setting × Setting) → Reader Setting
  | 0, _, _, _ => none
  | steps + 1, column, entries, chars =>
      match key? chars with
      | none => none
      | some (key, content) =>
          let value :=
            match endLine content with
            | some rest => valueBelow steps true column rest
            | none =>
                match inlineNode (column + 1) (content.dropWhile (· == ' ')) with
                | some (value, after) => (endLine after).map fun rest => (value, rest)
                | none => none
          match value with
          | none => none
          | some (value, after) =>
              let entries := Setting.putEntry key value entries
              match nextLine? after with
              | some (indent, next) =>
                  if indent == column then blockEntries steps column entries next
                  else some (.mapping entries, after)
              | none => some (.mapping entries, after)

end

def isAllowed (c : Char) : Bool :=
  let code := c.toNat
  code == 0x09 || code == 0x0A || (0x20 ≤ code && code ≤ 0x7E) || code == 0x85
    || (0xA0 ≤ code && code ≤ 0xFFFD) || 0x10000 ≤ code

def isFinished (chars : List Char) : Bool :=
  let line := dropEmptyLines (chars.length + 1) chars
  line.isEmpty || (line.take 3 == "...".toList && isSpaceOrEnd (line.drop 3))

def content (chars : List Char) : Option (Setting × List Char) :=
  match nextLine? chars with
  | none => some (.null, chars)
  | some (indent, content) => blockNode (2 * chars.length + 4) 0 indent content

def document (chars : List Char) : Option (Setting × List Char) :=
  let line := dropEmptyLines (chars.length + 1) chars
  if line.take 3 == "---".toList && isSpaceOrEnd (line.drop 3) then
    match endLine (line.drop 3) with
    | some rest => content rest
    | none =>
        match inlineNode 0 ((line.drop 3).dropWhile (· == ' ')) with
        | some (value, after) => (endLine after).map fun rest => (value, rest)
        | none => none
  else content chars

/-- The one document of a text. -/
def read? (text : String) : Option Setting :=
  let chars :=
    match text.toList with
    | '\uFEFF' :: rest => rest
    | chars => chars
  if !chars.all isAllowed then none
  else
    match document chars with
    | some (value, rest) => if isFinished rest then some value else none
    | none => none

end Fiscal.Yaml
