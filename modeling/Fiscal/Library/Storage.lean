import Fiscal.Csv.Table
import Fiscal.Machine.Basic

set_option autoImplicit false

namespace Fiscal.Library

def loadCsv (path : Value) : Eval Value := do
  let path ← Eval.lift (path.asText "load_csv() path")
  let text ← Eval.liftFault ((← get).files.read path)
  let columns ← Eval.liftFault (Csv.read path text)
  return .table (← Eval.lift (Table.build columns))

def writeFile (path text : String) : Eval Unit := do
  let machine ← get
  let files ← Eval.liftFault (machine.files.write path text)
  set { machine with files }

def requireDirectory (path : String) : Eval Unit := do
  let parent := Files.parent path
  match (← get).files.locate parent with
  | .directory => return
  | _ => throw (.fault (.missingDirectory parent))

def saveCsv (table path : Value) : Eval Value := do
  let grid ← Eval.lift (table.asTable "save_csv() first argument")
  let path ← Eval.lift (path.asText "save_csv() path")
  requireDirectory path
  writeFile path (Csv.write grid)
  return .text path

def readText (path : Value) : Eval Value := do
  let path ← Eval.lift (path.asText "read_text() path")
  let text ← Eval.liftFault ((← get).files.readText (Files.normal path))
  return .text text

def writeText (path value : Value) : Eval Value := do
  let path ← Eval.lift (path.asText "write_text() path")
  writeFile (Files.normal path) (← Eval.shown value)
  return .text path

end Fiscal.Library
