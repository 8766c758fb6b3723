set_option autoImplicit false

namespace Fiscal.Source

structure Location where
  line : Nat
  column : Nat
  offset : Nat
  file : Option String
  deriving DecidableEq, Repr, Inhabited

namespace Location

def start (file : Option String) : Location := ⟨1, 1, 0, file⟩

def after (place : Location) (c : Char) : Location :=
  if c = '\n' then { place with line := place.line + 1, column := 1, offset := place.offset + 1 }
  else { place with column := place.column + 1, offset := place.offset + 1 }

def afterAll (place : Location) (chars : List Char) : Location :=
  chars.foldl after place

def text (place : Location) : String :=
  let position := toString place.line ++ ":" ++ toString place.column
  match place.file with
  | some file => if file.isEmpty then position else file ++ ":" ++ position
  | none => position

end Location

structure Span where
  start : Location
  stop : Location
  deriving DecidableEq, Repr, Inhabited

def Span.point (place : Location) : Span := ⟨place, place⟩

end Fiscal.Source
