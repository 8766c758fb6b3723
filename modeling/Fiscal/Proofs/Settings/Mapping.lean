import Fiscal.Proofs.Number.Order
import Fiscal.Settings.Basic
import Mathlib.Data.List.Induction

set_option autoImplicit false

namespace Fiscal

theorem Number.number_of_infinite {x : Float} (infinite : isInfinite x = true) : isNaN x = false := by
  change (unpacked x).isInf = true at infinite
  change (unpacked x).isNaN = false
  cases known : unpacked x with
  | notANumber =>
      rw [known] at infinite
      cases infinite
  | _ => rfl

namespace Setting

def names (field : String) : Setting → Bool
  | text name => name == field
  | _ => false

theorem names_iff (field : String) (key : Setting) : key.names field = true ↔ key = .text field := by
  cases key <;> simp [names]

variable {setting : Setting} {fault : Fault}

theorem textToInt_no_fault (value : String) : textToInt value ≠ .error (.fault fault) := by
  unfold textToInt
  split
  · nofun
  · dsimp only
    split <;> nofun

theorem toItems_no_fault : setting.toItems ≠ .error (.fault fault) := by
  unfold toItems
  split <;> nofun

theorem toText_no_fault : setting.toText ≠ .error (.fault fault) := by
  unfold toText
  split <;> nofun

theorem toPair_no_fault (index : Nat) (item : Setting) : toPair index item ≠ .error (.fault fault) := by
  unfold toPair
  split
  · nofun
  · split <;> nofun
  · nofun

theorem pairsFrom_no_fault (items : List Setting) (index : Nat) (entries : List (Setting × Setting)) :
    pairsFrom index entries items ≠ .error (.fault fault) := by
  induction items generalizing index entries with
  | nil => nofun
  | cons item items ih =>
      rw [pairsFrom]
      cases read : toPair index item with
      | error error =>
          rintro ⟨⟩
          exact toPair_no_fault index item read
      | ok pair => exact ih _ _

theorem toEntries_no_fault : setting.toEntries ≠ .error (.fault fault) := by
  cases setting with
  | text | list => exact pairsFrom_no_fault _ _ _
  | _ => nofun

theorem toInt_float (x : Float) :
    (float x).toInt =
      if Number.isNaN x then invalid "cannot convert float NaN to integer"
      else if Number.isInfinite x then .error (.fault .infiniteWhole)
      else .ok (Number.truncate x) := rfl

theorem toFloat_int (n : Int) :
    (int n).toFloat =
      if Number.isFinite (Number.ofInt n) then .ok (Number.ofInt n) else .error (.fault .wholeTooLarge) := rfl

theorem toFloat_text (value : String) :
    (text value).toFloat =
      match Number.read? value with
      | some number => .ok number
      | none => invalid ("could not convert string to float: " ++ Text.quoted value) := rfl

theorem toInt_fault_iff : setting.toInt = .error (.fault fault) ↔
    ∃ x, setting = .float x ∧ Number.isInfinite x = true ∧ fault = .infiniteWhole := by
  constructor
  · intro failed
    cases setting with
    | float x =>
        rw [toInt_float] at failed
        split at failed
        · cases failed
        · split at failed
          · cases failed
            exact ⟨x, rfl, ‹_›, rfl⟩
          · cases failed
    | text value => exact absurd failed (textToInt_no_fault value)
    | _ => cases failed
  · rintro ⟨x, rfl, infinite, rfl⟩
    rw [toInt_float, Number.number_of_infinite infinite, if_pos infinite]
    rfl

theorem toFloat_fault_iff : setting.toFloat = .error (.fault fault) ↔
    ∃ n, setting = .int n ∧ Number.isFinite (Number.ofInt n) = false ∧ fault = .wholeTooLarge := by
  constructor
  · intro failed
    cases setting with
    | int n =>
        rw [toFloat_int] at failed
        split at failed
        · cases failed
        · cases failed
          exact ⟨n, rfl, Bool.eq_false_iff.mpr ‹_›, rfl⟩
    | text value =>
        rw [toFloat_text] at failed
        split at failed <;> cases failed
    | _ => cases failed
  · rintro ⟨n, rfl, beyond, rfl⟩
    rw [toFloat_int, beyond]
    rfl

end Setting

namespace Settings

section Keys

def fields : List String :=
  ["tab_width", "max_errors", "irr_guess", "irr_iterations", "var_z_scores", "var_default_z",
    "simulation_results_name", "currencies"]

theorem put?_eq_none_iff (raw : Raw) (value key : Setting) :
    raw.put? value key = none ↔ ∀ field ∈ fields, key ≠ .text field := by
  unfold Raw.put?
  split
  case h_9 =>
    simp only [fields, List.mem_cons, List.not_mem_nil, true_iff]
    grind
  all_goals simp [fields]

theorem isKnown_iff (key : Setting) : isKnown key = true ↔ ∃ field ∈ fields, key = .text field := by
  rw [isKnown, Option.isSome_iff_ne_none, Ne, put?_eq_none_iff]
  simp only [ne_eq, not_forall, not_not, exists_prop]

theorem texts?_isSome_iff (keys : List Setting) :
    (texts? keys).isSome = true ↔ ∀ key ∈ keys, ∃ name, key = .text name := by
  induction keys with
  | nil => simp [texts?]
  | cons key rest ih => cases key <;> simp [texts?, ih]

theorem scalars?_cons_ne_nil (key : Setting) (rest : List Setting) : scalars? (key :: rest) ≠ some [] := by
  rw [scalars?]
  cases key.scalar? with
  | none => nofun
  | some value => cases scalars? rest <;> nofun

theorem unknownKeys_fault_iff (keys : List Setting) (some : keys ≠ []) :
    (∃ fault, unknownKeys keys = .fault fault) ↔ ∃ key ∈ keys, ∀ name, key ≠ .text name := by
  have textual := texts?_isSome_iff keys
  unfold unknownKeys
  cases names : texts? keys with
  | some names =>
      rw [names] at textual
      have all := textual.mp rfl
      refine iff_of_false nofun ?_
      rintro ⟨key, member, other⟩
      obtain ⟨name, same⟩ := all key member
      exact other name same
  | none =>
      rw [names] at textual
      refine iff_of_true ?_ (by simpa using textual)
      match keys, some with
      | [key], _ => exact ⟨_, rfl⟩
      | first :: second :: rest, _ =>
          cases found : scalars? (first :: second :: rest) with
          | none => exact ⟨_, by dsimp only⟩
          | some entries =>
              cases entries with
              | nil => exact absurd found (scalars?_cons_ne_nil _ _)
              | cons => exact ⟨_, by dsimp only⟩

end Keys

section Given

variable (entries : List (Setting × Setting))

def given (field : String) : Option Setting :=
  (entries.reverse.find? fun entry => entry.1.names field).map Prod.snd

def Raw.given : Raw where
  tabWidth := (Settings.given entries "tab_width").getD Raw.standard.tabWidth
  maxErrors := (Settings.given entries "max_errors").getD Raw.standard.maxErrors
  irrGuess := (Settings.given entries "irr_guess").getD Raw.standard.irrGuess
  irrIterations := (Settings.given entries "irr_iterations").getD Raw.standard.irrIterations
  zScores := (Settings.given entries "var_z_scores").getD Raw.standard.zScores
  defaultZ := (Settings.given entries "var_default_z").getD Raw.standard.defaultZ
  resultsName := (Settings.given entries "simulation_results_name").getD Raw.standard.resultsName
  currencies := (Settings.given entries "currencies").getD Raw.standard.currencies

theorem given_append (entry : Setting × Setting) (field : String) :
    given (entries ++ [entry]) field = if entry.1.names field then some entry.2 else given entries field := by
  rw [given, List.reverse_append, List.reverse_singleton, List.singleton_append, List.find?_cons]
  cases entry.1.names field <;> rfl

theorem given_other (entry : Setting × Setting) (field : String) (other : entry.1 ≠ .text field) :
    given (entries ++ [entry]) field = given entries field := by
  rw [given_append, if_neg ((Setting.names_iff _ _).not.mpr other)]

theorem put_given (entry : Setting × Setting) :
    ((Raw.given entries).put? entry.2 entry.1).getD (Raw.given entries) = Raw.given (entries ++ [entry]) := by
  by_cases other : ∀ field ∈ fields, entry.1 ≠ .text field
  · have same field (member : field ∈ fields) := given_other entries entry field (other field member)
    rw [(put?_eq_none_iff _ _ _).mpr other]
    simp (disch := decide) [Raw.given, same]
  · obtain ⟨key, value⟩ := entry
    obtain ⟨field, member, rfl⟩ : ∃ field ∈ fields, key = .text field := by simpa using other
    simp only [fields, List.mem_cons, List.not_mem_nil, or_false] at member
    rcases member with rfl | rfl | rfl | rfl | rfl | rfl | rfl | rfl <;>
      simp [Raw.put?, Raw.given, given_append, Setting.names]

theorem foldl_put_given :
    entries.foldl (fun raw entry => (raw.put? entry.2 entry.1).getD raw) Raw.standard = Raw.given entries := by
  induction entries using List.reverseRecOn with
  | nil => rfl
  | append_singleton entries entry ih =>
      rw [List.foldl_append, ih]
      exact put_given entries entry

end Given

section Conversions

inductive Conversion where
  | whole (setting : Setting)
  | number (setting : Setting)
  | entries (setting : Setting)
  | items (setting : Setting)
  | text (setting : Setting)

def failure? {α : Type} : Except SettingsError α → Option SettingsError
  | .error error => some error
  | .ok _ => none

def Conversion.failure? : Conversion → Option SettingsError
  | whole setting => Settings.failure? setting.toInt
  | number setting => Settings.failure? setting.toFloat
  | entries setting => Settings.failure? setting.toEntries
  | items setting => Settings.failure? setting.toItems
  | text setting => Settings.failure? setting.toText

-- A number that is too large for the type it is converted to.
def Conversion.Overflows : Conversion → Prop
  | whole (.float x) => Number.isInfinite x = true
  | number (.int n) => Number.isFinite (Number.ofInt n) = false
  | _ => False

def scoreConversions (entries : List (Setting × Setting)) : List Conversion :=
  entries.flatMap fun entry => [.number entry.1, .number entry.2]

def Raw.conversions (raw : Raw) : List Conversion :=
  [.whole raw.tabWidth, .whole raw.maxErrors, .number raw.irrGuess, .whole raw.irrIterations, .number raw.defaultZ,
    .entries raw.zScores] ++
  (match raw.zScores.toEntries with
    | .ok entries => scoreConversions entries
    | .error _ => []) ++
  .items raw.currencies ::
  (match raw.currencies.toItems with
    | .ok items => items.map .text
    | .error _ => [])

theorem failure?_eq_some_iff {α : Type} (result : Except SettingsError α) (error : SettingsError) :
    failure? result = some error ↔ result = .error error := by
  cases result <;> simp [failure?]

theorem Conversion.overflows_iff (conversion : Conversion) :
    conversion.Overflows ↔ ∃ fault, conversion.failure? = some (.fault fault) := by
  cases conversion with
  | whole setting =>
      simp only [failure?, failure?_eq_some_iff, Setting.toInt_fault_iff]
      cases setting <;> simp [Overflows]
  | number setting =>
      simp only [failure?, failure?_eq_some_iff, Setting.toFloat_fault_iff]
      cases setting <;> simp [Overflows]
  | entries setting =>
      simp only [failure?, failure?_eq_some_iff, Setting.toEntries_no_fault, exists_false]
      exact Iff.rfl
  | items setting =>
      simp only [failure?, failure?_eq_some_iff, Setting.toItems_no_fault, exists_false]
      exact Iff.rfl
  | text setting =>
      simp only [failure?, failure?_eq_some_iff, Setting.toText_no_fault, exists_false]
      exact Iff.rfl

variable {α β : Type} {error : SettingsError} {rest : List Conversion}

theorem failure?_next {result : Except SettingsError α} {next : α → Except SettingsError β} {conversion : Conversion}
    (same : conversion.failure? = failure? result)
    (later : ∀ value, result = .ok value →
      (failure? (next value) = some error ↔ rest.findSome? Conversion.failure? = some error)) :
    failure? (result >>= next) = some error ↔ (conversion :: rest).findSome? Conversion.failure? = some error := by
  rw [List.findSome?_cons, same]
  cases result with
  | error error => exact Iff.rfl
  | ok value => exact later value rfl

theorem failure?_scores (entries : List (Setting × Setting)) (scores : Finance.ZScores)
    {next : Finance.ZScores → Except SettingsError β}
    (later : ∀ all, failure? (next all) = some error ↔ rest.findSome? Conversion.failure? = some error) :
    failure? (scoresFrom scores entries >>= next) = some error ↔
      (scoreConversions entries ++ rest).findSome? Conversion.failure? = some error := by
  induction entries generalizing scores with
  | nil => exact later scores
  | cons entry entries ih =>
      obtain ⟨key, value⟩ := entry
      rw [scoresFrom, bind_assoc]
      refine failure?_next rfl fun level _ => ?_
      rw [bind_assoc]
      exact failure?_next rfl fun score _ => ih _

theorem failure?_texts (items : List Setting) {next : List String → Except SettingsError β}
    (later : ∀ all, failure? (next all) = some error ↔ rest.findSome? Conversion.failure? = some error) :
    failure? (textsFrom items >>= next) = some error ↔
      (items.map Conversion.text ++ rest).findSome? Conversion.failure? = some error := by
  induction items generalizing next with
  | nil => exact later []
  | cons item items ih =>
      rw [textsFrom, bind_assoc]
      refine failure?_next rfl fun text _ => ?_
      rw [bind_assoc]
      exact ih fun all => later (text :: all)

def bounded (tabWidth irrIterations : Int) (settings : Settings) : Except SettingsError Settings :=
  if tabWidth < 1 then .error (.refused "tab_width must be at least 1")
  else if irrIterations < 0 then .error (.refused "irr_iterations must not be negative")
  else .ok settings

theorem bounded_no_fault (tabWidth irrIterations : Int) (settings : Settings) (fault : Fault) :
    bounded tabWidth irrIterations settings ≠ .error (.fault fault) := by
  unfold bounded
  split
  · nofun
  · split <;> nofun

theorem bounded_ok_iff (tabWidth irrIterations : Int) (settings last : Settings) :
    bounded tabWidth irrIterations settings = .ok last ↔ 1 ≤ tabWidth ∧ 0 ≤ irrIterations ∧ settings = last := by
  unfold bounded
  split
  · exact iff_of_false nofun fun within => absurd within.1 (by omega)
  · split
    · exact iff_of_false nofun fun within => absurd within.2.1 (by omega)
    · rw [Except.ok.injEq]
      exact ⟨fun same => ⟨by omega, by omega, same⟩, fun within => within.2.2⟩

theorem convert_eq (raw : Raw) : raw.convert = (do
    let tabWidth ← raw.tabWidth.toInt
    let maxErrors ← raw.maxErrors.toInt
    let irrGuess ← raw.irrGuess.toFloat
    let irrIterations ← raw.irrIterations.toInt
    let defaultZ ← raw.defaultZ.toFloat
    let zScores ← scoresFrom [] (← raw.zScores.toEntries)
    let currencies ← textsFrom (← raw.currencies.toItems)
    bounded tabWidth irrIterations {
      tabWidth := tabWidth.toNat, maxErrors, irrGuess, irrIterations := irrIterations.toNat, zScores, defaultZ
      resultsName := raw.resultsName
      currencies := currencies.map Text.upper }) := rfl

theorem convert_fault_iff (raw : Raw) (fault : Fault) :
    raw.convert = .error (.fault fault) ↔
      raw.conversions.findSome? Conversion.failure? = some (.fault fault) := by
  rw [← failure?_eq_some_iff, convert_eq]
  refine failure?_next rfl fun tabWidth _ => ?_
  refine failure?_next rfl fun maxErrors _ => ?_
  refine failure?_next rfl fun irrGuess _ => ?_
  refine failure?_next rfl fun irrIterations _ => ?_
  refine failure?_next rfl fun defaultZ _ => ?_
  refine failure?_next rfl fun entries found => ?_
  rw [found]
  refine failure?_scores entries [] fun zScores => ?_
  refine failure?_next rfl fun items listed => ?_
  rw [listed]
  dsimp only
  rw [← List.append_nil (items.map Conversion.text)]
  refine failure?_texts items fun currencies => ?_
  rw [failure?_eq_some_iff]
  exact iff_of_false (bounded_no_fault _ _ _ _) nofun

theorem convert_escapes_iff (raw : Raw) :
    (∃ fault, raw.convert = .error (.fault fault)) ↔
      ∃ before conversion after, raw.conversions = before ++ conversion :: after ∧
        (∀ earlier ∈ before, earlier.failure? = none) ∧ conversion.Overflows := by
  simp only [convert_fault_iff, List.findSome?_eq_some_iff, Conversion.overflows_iff]
  constructor
  · rintro ⟨fault, before, conversion, after, split, failed, succeeded⟩
    exact ⟨before, conversion, after, split, succeeded, fault, failed⟩
  · rintro ⟨before, conversion, after, split, succeeded, fault, failed⟩
    exact ⟨fault, before, conversion, after, split, failed, succeeded⟩

-- The settings that values are converted to.
structure Converted (raw : Raw) (settings : Settings) : Prop where
  tabWidth : raw.tabWidth.toInt = .ok (settings.tabWidth : Int)
  maxErrors : raw.maxErrors.toInt = .ok settings.maxErrors
  irrGuess : raw.irrGuess.toFloat = .ok settings.irrGuess
  irrIterations : raw.irrIterations.toInt = .ok (settings.irrIterations : Int)
  zScores : (raw.zScores.toEntries >>= scoresFrom []) = .ok settings.zScores
  defaultZ : raw.defaultZ.toFloat = .ok settings.defaultZ
  resultsName : settings.resultsName = raw.resultsName
  currencies : ∃ texts, (raw.currencies.toItems >>= textsFrom) = .ok texts ∧
    settings.currencies = texts.map Text.upper

theorem bind_ok_iff {result : Except SettingsError α} {next : α → Except SettingsError β} {last : β} :
    (result >>= next) = .ok last ↔ ∃ value, result = .ok value ∧ next value = .ok last := by
  cases result with
  | error error => exact iff_of_false nofun fun ⟨_, found, _⟩ => nomatch found
  | ok value => exact ⟨fun found => ⟨value, rfl, found⟩, fun ⟨_, rfl, found⟩ => found⟩

theorem convert_ok_iff (raw : Raw) (settings : Settings) :
    raw.convert = .ok settings ↔ Converted raw settings ∧ 1 ≤ settings.tabWidth := by
  simp only [convert_eq, bind_ok_iff, bounded_ok_iff]
  constructor
  · rintro ⟨tabWidth, first, maxErrors, second, irrGuess, third, irrIterations, fourth, defaultZ, fifth, entries, pairs,
      zScores, scores, items, listed, texts, written, positive, natural, rfl⟩
    have currencies := bind_ok_iff.mpr ⟨items, listed, written⟩
    refine ⟨⟨?_, second, third, ?_, bind_ok_iff.mpr ⟨entries, pairs, scores⟩, fifth, rfl, texts, currencies, rfl⟩, ?_⟩
    · rw [Int.toNat_of_nonneg (by omega)]
      exact first
    · rw [Int.toNat_of_nonneg natural]
      exact fourth
    · exact (Int.le_toNat (by omega)).mpr positive
  · rintro ⟨converted, positive⟩
    obtain ⟨entries, pairs, scores⟩ := bind_ok_iff.mp converted.zScores
    obtain ⟨texts, both, currencies⟩ := converted.currencies
    obtain ⟨items, listed, written⟩ := bind_ok_iff.mp both
    refine ⟨_, converted.tabWidth, _, converted.maxErrors, _, converted.irrGuess, _, converted.irrIterations,
      _, converted.defaultZ, entries, pairs, _, scores, items, listed, texts, written, by omega, by omega, ?_⟩
    rw [← currencies, ← converted.resultsName]
    rfl

end Conversions

section Mapping

variable (entries : List (Setting × Setting))

def unknown : List Setting := (entries.map Prod.fst).filter fun key => !isKnown key

theorem unknown_eq_nil_iff :
    unknown entries = [] ↔ ∀ entry ∈ entries, ∃ field ∈ fields, entry.1 = .text field := by
  simp only [unknown, List.filter_eq_nil_iff, List.forall_mem_map, Bool.not_eq_true', Bool.not_eq_false, isKnown_iff]

theorem exists_unknown_iff :
    (∃ key ∈ unknown entries, ∀ name, key ≠ .text name) ↔ ∃ entry ∈ entries, ∀ name, entry.1 ≠ .text name := by
  constructor
  · rintro ⟨key, member, other⟩
    obtain ⟨entry, among, rfl⟩ := List.mem_map.mp (List.mem_filter.mp member).1
    exact ⟨entry, among, other⟩
  · rintro ⟨entry, among, other⟩
    refine ⟨entry.1, List.mem_filter.mpr ⟨List.mem_map_of_mem among, ?_⟩, other⟩
    rw [Bool.not_eq_true', ← Bool.not_eq_true, isKnown_iff]
    rintro ⟨field, _, same⟩
    exact other field same

theorem ofSetting_known (known : unknown entries = []) :
    ofSetting (.mapping entries) = (Raw.given entries).convert := by
  unfold ofSetting
  dsimp only
  rw [← foldl_put_given]
  exact if_pos (List.isEmpty_iff.mpr known)

theorem ofSetting_unknown (some : unknown entries ≠ []) :
    ofSetting (.mapping entries) = .error (unknownKeys (unknown entries)) :=
  if_neg (mt List.isEmpty_iff.mp some)

-- A mapping is accepted just if all its keys are names of settings, the values given for them can be converted and the
-- numbers are within their bounds. Each setting then is the converted value, but the name of the results is the value
-- that is given as it is, whether a text or not. A fault is let through just if some unknown key is no text, or if all
-- keys are known and the first conversion that fails is the one of an infinite number to a whole one or of a whole
-- number too large for a double.
theorem mapping_outcomes :
    (∀ settings, ofSetting (.mapping entries) = .ok settings ↔
      (∀ entry ∈ entries, ∃ field ∈ fields, entry.1 = .text field) ∧ Converted (Raw.given entries) settings ∧
        1 ≤ settings.tabWidth) ∧
    (∀ settings, ofSetting (.mapping entries) = .ok settings →
      ((∃ name, settings.resultsName = .text name) ↔
        ∀ value, given entries "simulation_results_name" = some value → ∃ name, value = .text name)) ∧
    ((∃ fault, ofSetting (.mapping entries) = .error (.fault fault)) ↔
      (∃ entry ∈ entries, ∀ name, entry.1 ≠ .text name) ∨
      (∀ entry ∈ entries, ∃ field ∈ fields, entry.1 = .text field) ∧
        ∃ before conversion after, (Raw.given entries).conversions = before ++ conversion :: after ∧
          (∀ earlier ∈ before, earlier.failure? = none) ∧ conversion.Overflows) := by
  have known_iff := unknown_eq_nil_iff entries
  have accepted settings : ofSetting (.mapping entries) = .ok settings ↔
      (∀ entry ∈ entries, ∃ field ∈ fields, entry.1 = .text field) ∧ Converted (Raw.given entries) settings ∧
        1 ≤ settings.tabWidth := by
    by_cases known : unknown entries = []
    · rw [ofSetting_known entries known, convert_ok_iff, and_iff_right (known_iff.mp known)]
    · rw [ofSetting_unknown entries known]
      exact iff_of_false nofun fun all => known (known_iff.mpr all.1)
  refine ⟨accepted, fun settings ran => ?_, ?_⟩
  · rw [((accepted settings).mp ran).2.1.resultsName]
    change (∃ name, (Settings.given entries "simulation_results_name").getD (.text "lastSimulation") = _) ↔ _
    cases Settings.given entries "simulation_results_name" <;> simp
  · by_cases known : unknown entries = []
    · have all := known_iff.mp known
      have textual : ¬ ∃ entry ∈ entries, ∀ name, entry.1 ≠ .text name := by
        rintro ⟨entry, member, other⟩
        obtain ⟨field, _, same⟩ := all entry member
        exact other field same
      rw [ofSetting_known entries known, or_iff_right textual, and_iff_right all]
      exact convert_escapes_iff _
    · have fault_iff := unknownKeys_fault_iff _ known
      rw [exists_unknown_iff] at fault_iff
      rw [ofSetting_unknown entries known, or_iff_left fun all => known (known_iff.mpr all.1), ← fault_iff]
      simp only [Except.error.injEq]

end Mapping

theorem huge_guess_escapes :
    (∃ fault, ofSetting (.mapping [(.text "irr_guess", .int (.ofNat (Nat.pow 10 309)))]) = .error (.fault fault)) ∧
      ∃ settings, ofSetting (.mapping [(.text "simulation_results_name", .int 5)]) = .ok settings ∧
        ∀ name, settings.resultsName ≠ .text name := by
  constructor
  · refine (mapping_outcomes _).2.2.mpr (.inr ⟨?_, ?_⟩)
    · exact List.forall_mem_singleton.mpr ⟨"irr_guess", by decide, rfl⟩
    · refine ⟨[.whole (.int 4), .whole (.int 20)], .number (.int (.ofNat (Nat.pow 10 309))), _, rfl, ?_, ?_⟩
      · simp [Conversion.failure?, failure?, Setting.toInt]
      · show Number.isFinite (Number.ofInt (.ofNat (Nat.pow 10 309))) = false
        decide +kernel
  · have runs : (failure? (ofSetting (.mapping [(.text "simulation_results_name", .int 5)]))).isNone = true := by
      decide +kernel
    cases ran : ofSetting (.mapping [(.text "simulation_results_name", .int 5)]) with
    | error error =>
        rw [ran] at runs
        cases runs
    | ok settings =>
        refine ⟨settings, rfl, fun name same => ?_⟩
        obtain ⟨_, number⟩ := ((mapping_outcomes _).2.1 settings ran).mp ⟨name, same⟩ (.int 5) rfl
        cases number

end Settings

end Fiscal
