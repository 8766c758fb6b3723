import Fiscal.Failure
import Fiscal.Named
import Fiscal.Text.Lines

set_option autoImplicit false

namespace Fiscal

structure Table where
  columns : Named (List Float)

namespace Table

def WellFormed (table : Table) : Prop :=
  table.columns.names.Nodup ∧
    ∀ first ∈ table.columns, ∀ second ∈ table.columns, first.2.length = second.2.length

def rowCount (table : Table) : Nat :=
  match table.columns with
  | [] => 0
  | (_, column) :: _ => column.length

def isEven (table : Table) : Bool :=
  table.columns.all fun column => column.2.length == table.rowCount

/-- A table of the given columns, if they have one length. -/
def build (columns : Named (List Float)) : Except Failure Table :=
  let table : Table := ⟨columns⟩
  if table.isEven then .ok table
  else
    let lengths := columns.map fun column => column.1 ++ "=" ++ toString column.2.length
    .error (.brokenInvariant
      ("TABLE columns must have equal length (" ++ String.intercalate ", " lengths ++ ")"))

def column (table : Table) (name : String) : Except Failure (List Float) :=
  match table.columns.get? name with
  | some column => .ok column
  | none => .error (.issue (.unknownColumn name) none)

def row (table : Table) (index : Nat) : Named Float :=
  table.columns.filterMap fun column => column.2[index]?.map fun cell => (column.1, cell)

def rows (table : Table) : List (Named Float) :=
  (List.range table.rowCount).map table.row

def keepRows (table : Table) (mask : List Bool) : Named (List Float) :=
  table.columns.map fun column =>
    (column.1, ((column.2.zip mask).filter Prod.snd).map Prod.fst)

def cellText (x : Float) : String := Number.display (Number.roundTo 4 x)

def columnWidth (name : String) (cells : List String) : Nat :=
  cells.foldl (fun width cell => max width cell.length) name.length

def text (table : Table) : String :=
  if table.columns.isEmpty then "TABLE()"
  else
    let shown := table.columns.map fun column => (column.1, column.2.map cellText)
    let padded := shown.map fun column =>
      let width := columnWidth column.1 column.2
      (Text.padLeft width column.1, width, column.2.map (Text.padLeft width))
    let heading := String.intercalate " | " (padded.map fun column => column.1)
    let rule := String.intercalate "-+-"
      (padded.map fun column => String.ofList (List.replicate column.2.1 '-'))
    let rows := (List.range table.rowCount).map fun index =>
      String.intercalate " | " (padded.map fun column => column.2.2.getD index "")
    String.intercalate "\n" (heading :: rule :: rows)

end Table

end Fiscal
