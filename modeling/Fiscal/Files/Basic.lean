import Fiscal.Fault
import Fiscal.Files.Path
import Fiscal.Text.Lines

set_option autoImplicit false

namespace Fiscal

/-- Files by the names on their path, each path once. -/
structure Files where
  contents : List (List String × String)

namespace Files

def empty : Files := ⟨[]⟩

def fileAt? (files : Files) (path : List String) : Option String := files.contents.lookup path

def isDirectory (files : Files) (path : List String) : Bool :=
  path.isEmpty || path == ["/"] || files.contents.any fun file =>
    path.length < file.1.length && file.1.take path.length == path

inductive Place where
  | file (path : List String) (text : String)
  | directory
  | free (path : List String)
  | missing
  | blocked

def placeAt (files : Files) (path : List String) : Place :=
  match files.fileAt? path with
  | some text => .file path text
  | none => if files.isDirectory path then .directory else .free path

-- The place one name further. Two dots lead back to the directory around; the root has none,
-- and those around the current directory keep the dots as their names.
def enter (directory : List String) (name : String) : List String :=
  if name != ".." then directory ++ [name]
  else
    match directory.getLast? with
    | none | some ".." => directory ++ [name]
    | some "/" => directory
    | some _ => directory.dropLast

def follow (files : Files) (directory : List String) : List String → Place
  | [] => files.placeAt directory
  | name :: rest =>
      match files.placeAt directory with
      | .directory => follow files (enter directory name) rest
      | .file _ _ => .blocked
      | _ => .missing

def start (path : String) : List String := if isAbsolute path then ["/"] else []

def locate (files : Files) (path : String) : Place :=
  if path.isEmpty then .missing else files.follow (start path) (parts path)

def exists? (files : Files) (path : String) : Bool :=
  match files.locate path with
  | .file _ _ | .directory => true
  | _ => false

def hasNull (path : String) : Bool := path.toList.contains '\x00'

def asksDirectory (path : String) : Bool := path.toList.getLast? == some '/'

def read (files : Files) (path : String) : Except Fault String :=
  if hasNull path then .error .malformedPath
  else
    match files.locate path with
    | .file _ text => if asksDirectory path then .error (.notDirectory path) else .ok text
    | .directory => .error (.directory path)
    | .blocked => .error (.notDirectory path)
    | .free _ | .missing => .error (.missingFile path)

def readText (files : Files) (path : String) : Except Fault String :=
  (files.read path).map fun text => String.ofList (Text.unifyLineEnds text.toList)

def put (path : List String) (text : String) :
    List (List String × String) → List (List String × String)
  | [] => [(path, text)]
  | (known, old) :: rest =>
      if known = path then (known, text) :: rest else (known, old) :: put path text rest

def write (files : Files) (path text : String) : Except Fault Files :=
  if hasNull path then .error .malformedPath
  else
    match files.locate path with
    | .file place _ | .free place =>
        if asksDirectory path then .error (.directory path)
        else .ok ⟨put place text files.contents⟩
    | .directory => .error (.directory path)
    | .blocked => .error (.notDirectory path)
    | .missing => .error (.missingFile path)

def ofList (contents : List (String × String)) : Files :=
  ⟨contents.foldl (fun files file => put (start file.1 ++ parts file.1) file.2 files) []⟩

end Files

end Fiscal
