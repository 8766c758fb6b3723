import Fiscal.Fault

set_option autoImplicit false

namespace Fiscal.Csv

abbrev Record := List String

inductive Position where
  -- At the start of a line.
  | lineStart
  -- After blanks at the start of a line.
  | leading (blanks : List Char)
  -- After a carriage return that ended a line without a record.
  | skippedReturn
  -- Before the first character of a field.
  | fieldStart
  -- In a field, outside quotes.
  | plain
  -- Inside quotes.
  | quoted
  -- After a quote inside quotes.
  | closed
  -- After a carriage return that ended a record.
  | endedReturn
  deriving DecidableEq, Repr

-- A scan of a text: the open field in reverse, the fields and the records before it, latest
-- first, and the number of lines that have ended.
structure Scan where
  position : Position
  field : List Char
  fields : List String
  records : List Record
  lines : Nat

namespace Scan

def start : Scan := ⟨.lineStart, [], [], [], 0⟩

def endField (scan : Scan) : Scan :=
  { scan with field := [], fields := String.ofList scan.field.reverse :: scan.fields }

def expected (scan : Scan) : Nat :=
  match scan.records with
  | [] => 0
  | before :: _ => before.length

def endRecord (scan : Scan) : Except Fault Scan :=
  let record := scan.fields.reverse
  let count := scan.expected
  -- The heading and the record below it may have any length.
  if 2 ≤ scan.records.length && count < record.length then
    .error (.malformedTable
      ("Error tokenizing data. C error: Expected " ++ toString count ++ " fields in line "
        ++ toString (scan.lines + 1) ++ ", saw " ++ toString record.length ++ "\n"))
  else
    let filled := record ++ List.replicate (count - record.length) ""
    .ok ⟨.lineStart, [], [], filled :: scan.records, scan.lines + 1⟩

def skipLine (scan : Scan) (position : Position) : Scan :=
  { scan with position, lines := scan.lines + 1 }

def push (scan : Scan) (position : Position) (c : Char) : Scan :=
  { scan with position, field := c :: scan.field }

def move (scan : Scan) (position : Position) : Scan := { scan with position }

def beginField (scan : Scan) (c : Char) : Except Fault Scan :=
  match c with
  | '\n' => scan.endField.endRecord
  | '\r' => .ok (scan.endField.move .endedReturn)
  | '"' => .ok (scan.move .quoted)
  | ' ' => .ok (scan.move .fieldStart)
  | ',' => .ok (scan.endField.move .fieldStart)
  | c => .ok (scan.push .plain c)

def continueField (scan : Scan) (c : Char) : Except Fault Scan :=
  match c with
  | '\n' => scan.endField.endRecord
  | '\r' => .ok (scan.endField.move .endedReturn)
  | ',' => .ok (scan.endField.move .fieldStart)
  | c => .ok (scan.push .plain c)

def beginLine (scan : Scan) (c : Char) : Except Fault Scan :=
  match c with
  | '\n' => .ok (scan.skipLine .lineStart)
  | '\r' => .ok (scan.skipLine .skippedReturn)
  | ' ' => .ok (scan.move (.leading [' ']))
  | '\t' => .ok (scan.move (.leading ['\t']))
  | c => scan.beginField c

-- The first character after blanks. The blanks from the first tab on belong to the field.
def afterLeading (scan : Scan) (blanks : List Char) (c : Char) : Except Fault Scan :=
  match c with
  | '\n' => .ok (scan.skipLine .lineStart)
  | '\r' => .ok (scan.skipLine .skippedReturn)
  | ' ' => .ok (scan.move (.leading (blanks ++ [' '])))
  | '\t' => .ok (scan.move (.leading (blanks ++ ['\t'])))
  | c =>
      match blanks.dropWhile (· == ' ') with
      | [] => scan.beginField c
      | kept => { scan with field := kept.reverse }.continueField c

def step (scan : Scan) (c : Char) : Except Fault Scan :=
  match scan.position with
  | .lineStart => scan.beginLine c
  | .leading blanks => scan.afterLeading blanks c
  | .skippedReturn => if c = '\n' then .ok (scan.move .lineStart) else scan.beginLine c
  | .fieldStart => scan.beginField c
  | .plain => scan.continueField c
  | .quoted => if c = '"' then .ok (scan.move .closed) else .ok (scan.push .quoted c)
  | .closed => if c = '"' then .ok (scan.push .quoted c) else scan.continueField c
  | .endedReturn => do
      let scan ← scan.endRecord
      if c = '\n' then return scan else scan.beginLine c

def finish (scan : Scan) : Except Fault Scan :=
  match scan.position with
  | .lineStart | .leading _ | .skippedReturn => .ok scan
  | .quoted =>
      .error (.malformedTable
        ("Error tokenizing data. C error: EOF inside string starting at row "
          ++ toString scan.lines))
  | .fieldStart | .plain | .closed => scan.endField.endRecord
  | .endedReturn => scan.endRecord

end Scan

def dropByteOrderMark : List Char → List Char
  | '\uFEFF' :: rest => rest
  | chars => chars

/-- The records of a text, the heading first. -/
def records (text : String) : Except Fault (List Record) := do
  let scan ← (dropByteOrderMark text.toList).foldlM Scan.step Scan.start
  let scan ← scan.finish
  return scan.records.reverse

end Fiscal.Csv
