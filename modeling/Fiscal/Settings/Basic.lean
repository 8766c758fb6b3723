import Fiscal.Finance.Risk
import Fiscal.Settings.Setting
import Fiscal.Text.Upper

set_option autoImplicit false

namespace Fiscal

structure Settings where
  tabWidth : Nat
  maxErrors : Int
  irrGuess : Float
  irrIterations : Nat
  zScores : Finance.ZScores
  defaultZ : Float
  resultsName : Setting
  currencies : List String

namespace Settings

def standard : Settings where
  tabWidth := 4
  maxErrors := 20
  irrGuess := 0.1
  irrIterations := 100
  zScores := .standard
  defaultZ := 1
  resultsName := .text "lastSimulation"
  currencies := []

structure Raw where
  tabWidth : Setting
  maxErrors : Setting
  irrGuess : Setting
  irrIterations : Setting
  zScores : Setting
  defaultZ : Setting
  resultsName : Setting
  currencies : Setting

def Raw.standard : Raw where
  tabWidth := .int 4
  maxErrors := .int 20
  irrGuess := .float 0.1
  irrIterations := .int 100
  zScores := .mapping [(.float 0.95, .float 1.65), (.float 0.99, .float 2.33)]
  defaultZ := .float 1
  resultsName := .text "lastSimulation"
  currencies := .list []

def Raw.put? (raw : Raw) (value : Setting) : Setting → Option Raw
  | .text "tab_width" => some { raw with tabWidth := value }
  | .text "max_errors" => some { raw with maxErrors := value }
  | .text "irr_guess" => some { raw with irrGuess := value }
  | .text "irr_iterations" => some { raw with irrIterations := value }
  | .text "var_z_scores" => some { raw with zScores := value }
  | .text "var_default_z" => some { raw with defaultZ := value }
  | .text "simulation_results_name" => some { raw with resultsName := value }
  | .text "currencies" => some { raw with currencies := value }
  | _ => none

def isKnown (key : Setting) : Bool := (Raw.standard.put? .null key).isSome

def texts? : List Setting → Option (List String)
  | [] => some []
  | .text value :: rest => (texts? rest).map (value :: ·)
  | _ :: _ => none

def scalars? : List Setting → Option (List (Float × Setting))
  | [] => some []
  | key :: rest =>
      match key.scalar? with
      | some value => (scalars? rest).map ((value, key) :: ·)
      | none => none

def insertText (text : String) : List String → List String
  | [] => [text]
  | first :: rest => if first ≤ text then first :: insertText text rest else text :: first :: rest

def sortTexts (texts : List String) : List String :=
  texts.foldl (fun sorted text => insertText text sorted) []

def leastKey (first : Float × Setting) (rest : List (Float × Setting)) : Setting :=
  (rest.foldl (fun least entry => if entry.1 < least.1 then entry else least) first).2

-- The error for keys that no setting has. They are listed in order, which takes texts.
def unknownKeys (keys : List Setting) : SettingsError :=
  match texts? keys with
  | some names =>
      .refused ("unknown configuration keys: " ++ String.intercalate ", " (sortTexts names))
  | none =>
      match keys, scalars? keys with
      | [key], _ => .fault (.keyNotText key.kindName)
      | _, some (first :: rest) => .fault (.keyNotText (leastKey first rest).kindName)
      | first :: second :: _, none => .fault (.unorderedKeys second.kindName first.kindName)
      | _, _ => .refused "unknown configuration keys: "

def scoresFrom (scores : Finance.ZScores) :
    List (Setting × Setting) → Except SettingsError Finance.ZScores
  | [] => .ok scores
  | (key, value) :: rest => do
      let level ← key.toFloat
      let score ← value.toFloat
      scoresFrom (scores.put level score) rest

def textsFrom : List Setting → Except SettingsError (List String)
  | [] => .ok []
  | item :: rest => do
      let text ← item.toText
      return text :: (← textsFrom rest)

def Raw.convert (raw : Raw) : Except SettingsError Settings := do
  let tabWidth ← raw.tabWidth.toInt
  let maxErrors ← raw.maxErrors.toInt
  let irrGuess ← raw.irrGuess.toFloat
  let irrIterations ← raw.irrIterations.toInt
  let defaultZ ← raw.defaultZ.toFloat
  let zScores ← scoresFrom [] (← raw.zScores.toEntries)
  let currencies ← textsFrom (← raw.currencies.toItems)
  if tabWidth < 1 then throw (.refused "tab_width must be at least 1")
  if irrIterations < 0 then throw (.refused "irr_iterations must not be negative")
  return {
    tabWidth := tabWidth.toNat
    maxErrors, irrGuess
    irrIterations := irrIterations.toNat
    zScores, defaultZ
    resultsName := raw.resultsName
    currencies := currencies.map Text.upper }

/-- Settings from a mapping; what it does not mention keeps its standard value. -/
def ofSetting : Setting → Except SettingsError Settings
  | .mapping entries =>
      let unknown := (entries.map Prod.fst).filter fun key => !isKnown key
      if unknown.isEmpty then
        (entries.foldl (fun raw entry => (raw.put? entry.2 entry.1).getD raw) Raw.standard).convert
      else .error (unknownKeys unknown)
  | setting =>
      .error (.refused ("configuration must be a mapping, got " ++ setting.kindName))

end Settings

end Fiscal
