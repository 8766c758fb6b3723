import Fiscal.Csv.Column
import Fiscal.Csv.Heading
import Fiscal.Text.Blank
import Fiscal.Value.Table

set_option autoImplicit false

namespace Fiscal.Csv

-- The words of a column. Where the rows have more fields than the heading, the first ones only
-- label the rows.
def columnWords (labels : Nat) (rows : List Record) (index : Nat) : List String :=
  rows.map fun row => row.getD (labels + index) ""

-- The columns of named words, in order; the first column with a missing value or a word that
-- is no number ends the reading.
def readColumns (path : String) (columns : Named (List Float)) :
    List (String × List String) → Except Fault (Named (List Float))
  | [] => .ok columns
  | (name, words) :: rest =>
      let name := Text.strip name
      match firstMissing? words with
      | some index =>
          .error (.malformedTable
            (path ++ ":" ++ toString (index + 2) ++ ": missing value in column '" ++ name ++ "'"))
      | none => do
          let numbers ← readColumn words
          readColumns path (columns.put name numbers) rest

def read (path text : String) : Except Fault (Named (List Float)) := do
  match ← records text with
  | [] => return []
  | heading :: rows =>
      let names := columnNames heading
      let width := (rows.head?.map List.length).getD names.length
      let labels := width - names.length
      readColumns path []
        (names.mapIdx fun index name => (name, columnWords labels rows index))

def writeField (alone : Bool) (field : String) : String :=
  let chars := field.toList
  if chars.any (fun c => c == ',' || c == '"' || c == '\n') || (alone && chars.isEmpty) then
    let doubled := chars.flatMap fun c => if c = '"' then ['"', '"'] else [c]
    "\"" ++ String.ofList doubled ++ "\""
  else field

def writeRecord (record : Record) : String :=
  String.intercalate "," (record.map (writeField (record.length == 1))) ++ "\n"

def writeCell (x : Float) : String := if Number.isNaN x then "" else Number.exact x

def write (table : Table) : String :=
  let rows := table.rows.map fun row => row.map fun cell => writeCell cell.2
  String.join ((table.columns.names :: rows).map writeRecord)

end Fiscal.Csv
