set_option autoImplicit false

namespace Fiscal.Files

def splitSlashes (name : List Char) : List Char → List (List Char)
  | [] => [name.reverse]
  | c :: rest =>
      if c = '/' then name.reverse :: splitSlashes [] rest else splitSlashes (c :: name) rest

def parts (path : String) : List String :=
  ((splitSlashes [] path.toList).map String.ofList).filter fun name => name != "" && name != "."

def isAbsolute (path : String) : Bool := path.toList.head? == some '/'

def fileName (path : String) : String := (parts path).getLast?.getD ""

def stem (path : String) : String :=
  let name := (fileName path).toList
  let extension := (name.reverse.takeWhile (· != '.')).length
  let dot := name.length - extension - 1
  if extension < name.length && 0 < extension && 0 < dot then String.ofList (name.take dot)
  else fileName path

def root (path : String) : String :=
  match (path.toList.takeWhile (· == '/')).length with
  | 0 => ""
  | 2 => "//"
  | _ => "/"

def join (root : String) (names : List String) : String :=
  if root.isEmpty && names.isEmpty then "." else root ++ String.intercalate "/" names

def normal (path : String) : String := join (root path) (parts path)

def parent (path : String) : String := join (root path) (parts path).dropLast

end Fiscal.Files
