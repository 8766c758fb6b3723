import Fiscal.Csv.Records

set_option autoImplicit false

namespace Fiscal.Csv

abbrev Counts := List (String × Nat)

namespace Counts

def count (counts : Counts) (name : String) : Nat := (counts.lookup name).getD 0

def set (counts : Counts) (name : String) (count : Nat) : Counts := (name, count) :: counts

end Counts

-- A name of its own for a repeated one: the first number that gives a free name, tried at most
-- `tries` times.
def numbered (heading : List String) (name : String) :
    Nat → Nat → Counts → String × Counts
  | 0, number, counts => (name ++ "." ++ toString number, counts)
  | tries + 1, number, counts =>
      let counts := counts.set name (number + 1)
      let candidate := name ++ "." ++ toString number
      if heading.contains candidate then numbered heading name tries (number + 1) counts
      else if counts.count candidate = 0 then (candidate, counts)
      else numbered heading name tries (counts.count candidate) counts

def distinguish (state : List String × Counts) (index : Nat) : List String × Counts :=
  let (heading, counts) := state
  let name := heading.getD index ""
  if counts.count name = 0 then (heading, counts.set name 1)
  else
    let (fresh, counts) :=
      numbered heading name (heading.length * heading.length + heading.length) (counts.count name)
        counts
    (heading.set index fresh, counts.set fresh 1)

def nameOrNumber (index : Nat) (name : String) : String :=
  if name.isEmpty then "Unnamed: " ++ toString index else name

def columnNames (heading : Record) : List String :=
  let names := heading.mapIdx nameOrNumber
  -- A name made from an index gives way to one that is given further on.
  let given := (List.range heading.length).filter fun index => heading.getD index "" != ""
  let made := (List.range heading.length).filter fun index => heading.getD index "" == ""
  ((given ++ made).foldl distinguish (names, [])).1

end Fiscal.Csv
