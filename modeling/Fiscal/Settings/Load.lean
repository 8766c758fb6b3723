import Fiscal.Files.Basic
import Fiscal.Settings.Basic
import Fiscal.Yaml.Block

set_option autoImplicit false

namespace Fiscal.Settings

def fileName : String := "finlite.yaml"

def file? (files : Files) (path environment : Option String) : Option String :=
  match path, environment with
  | some path, _ => some path
  | none, some named =>
      if named.isEmpty then standardFile? else some named
  | none, none => standardFile?
where
  standardFile? : Option String := if files.exists? fileName then some fileName else none

-- The settings of a file. A document that is empty or counts as nothing leaves them standard.
def readFile (files : Files) (path : String) : Except SettingsError Settings :=
  let path := Files.normal path
  if !files.exists? path then
    .error (.refused ("configuration file not found: " ++ path))
  else
    match files.readText path with
    | .error fault => .error (.fault fault)
    | .ok text =>
        match Yaml.read? text with
        | none => .error (.refused ("YAML parse error in " ++ path))
        | some setting => ofSetting (if setting.isEmpty then .mapping [] else setting)

def load (files : Files) (path environment : Option String) : Except SettingsError Settings :=
  match file? files path environment with
  | some path => readFile files path
  | none => .ok standard

end Fiscal.Settings
