set_option autoImplicit false

namespace Fiscal.Text

-- Characters that end a line: the line feed and the carriage return, the vertical tab and the
-- form feed, the three information separators, the next-line control and the two line and
-- paragraph separators.
def breaksLine (c : Char) : Bool :=
  let code := c.toNat
  (0x0A ≤ code && code ≤ 0x0D) || (0x1C ≤ code && code ≤ 0x1E) || code == 0x85
    || code == 0x2028 || code == 0x2029

/-- Splits at every line break, a carriage return and the line feed after it being one break.
`line` holds the open line in reverse; a last line without characters is no line. -/
def splitLines (line : List Char) : List Char → List (List Char)
  | [] => if line.isEmpty then [] else [line.reverse]
  | '\r' :: '\n' :: rest => line.reverse :: splitLines [] rest
  | c :: rest =>
      if breaksLine c then line.reverse :: splitLines [] rest else splitLines (c :: line) rest

def lines (text : String) : List String :=
  (splitLines [] text.toList).map String.ofList

def line? (lines : List String) (number : Nat) : Option String :=
  if number = 0 then none else lines[number - 1]?

def unifyLineEnds : List Char → List Char
  | [] => []
  | '\r' :: '\n' :: rest => '\n' :: unifyLineEnds rest
  | c :: rest => (if c = '\r' then '\n' else c) :: unifyLineEnds rest

def padLeft (width : Nat) (text : String) : String :=
  String.ofList (List.replicate (width - text.length) ' ') ++ text

def padRight (width : Nat) (text : String) : String :=
  text ++ String.ofList (List.replicate (width - text.length) ' ')

end Fiscal.Text
