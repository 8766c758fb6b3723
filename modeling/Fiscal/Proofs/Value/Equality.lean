import Fiscal.Library.Lists
import Fiscal.Machine.Operator
import Fiscal.Proofs.Number.Rank
import Fiscal.Proofs.Program.Equality
import Fiscal.Value.Coercion

set_option autoImplicit false

namespace Fiscal

open Number

def KnownSide (side : Option Float) : Prop := ∀ x, side = some x → isNaN x = false

def Entry.Regular (entry : Entry) : Prop := KnownSide entry.debit ∧ KnownSide entry.credit

namespace Value

inductive Regular (ledgers : Ledgers) : Value → Prop where
  | null : Regular ledgers .null
  | number (x : Float) (known : isNaN x = false) : Regular ledgers (.number x)
  | text (text : String) : Regular ledgers (.text text)
  | bool (value : Bool) : Regular ledgers (.bool value)
  | list (items : List Value) (each : ∀ item ∈ items, Regular ledgers item) : Regular ledgers (.list items)
  | table (grid : Table) (formed : grid.WellFormed)
      (cells : ∀ column ∈ grid.columns, ∀ x ∈ column.2, isNaN x = false) : Regular ledgers (.table grid)
  | portfolio (holdings : Portfolio) (assets : ∀ x ∈ holdings.assets, isNaN x = false)
      (weights : ∀ x ∈ holdings.weights, isNaN x = false) : Regular ledgers (.portfolio holdings)
  | cashflow (flows : List Float) (each : ∀ x ∈ flows, isNaN x = false) : Regular ledgers (.cashflow flows)
  | ledger (account : Nat) (each : ∀ entry ∈ ledgers.entries account, entry.Regular) :
      Regular ledgers (.ledger account)
  | entry (posted : Entry) (regular : posted.Regular) : Regular ledgers (.entry posted)
  | builtin (known : Builtin) : Regular ledgers (.builtin known)
  | function (declared : UserFunction) : Regular ledgers (.function declared)
  | lambda (made : Lambda) : Regular ledgers (.lambda made)
  | block (body : Block) (distinct : (Stmt.bodyOutline body).Distinct) : Regular ledgers (.block body)
  | object (fields : Named Value) (distinct : (Named.names fields).Nodup)
      (each : ∀ field ∈ fields, Regular ledgers field.2) : Regular ledgers (.object fields)

end Value

section Numbers

def EqualNumbers (x y : Float) : Prop := (x == y) = true

theorem lawful_number {x : Float} (known : isNaN x = false) :
    LawfulAt (fun y => isNaN y = false) EqualNumbers x where
  refl := (equal_iff_place known known).mpr rfl
  symm y number same := (equal_iff_place number known).mpr ((equal_iff_place known number).mp same).symm
  trans y z first second := by
    obtain ⟨before, number⟩ := numbers_of_equal second
    exact (equal_iff_place known number).mpr
      (((equal_iff_place known before).mp first).trans ((equal_iff_place before number).mp second))

theorem sameNumbers_iff (xs ys : List Float) :
    Value.sameNumbers xs ys = true ↔ List.Forall₂ EqualNumbers xs ys := by
  induction xs generalizing ys with
  | nil => cases ys <;> simp [Value.sameNumbers]
  | cons x xs ih => cases ys <;> simp [Value.sameNumbers, ih, EqualNumbers]

theorem lawful_numbers {xs : List Float} (known : ∀ x ∈ xs, isNaN x = false) :
    LawfulAt (fun ys => ∀ y ∈ ys, isNaN y = false) (List.Forall₂ EqualNumbers) xs :=
  lawful_places xs fun x member => lawful_number (known x member)

end Numbers

section Parts

theorem lawful_side {side : Option Float} (known : KnownSide side) :
    LawfulAt KnownSide (fun side other => Entry.sameSide side other = true) side := by
  cases side with
  | none =>
      refine ⟨rfl, fun y _ same => ?_, fun y z first second => ?_⟩
      · cases y with
        | none => rfl
        | some => cases same
      · cases y with
        | none => exact second
        | some => cases first
  | some x =>
      refine (lawful_number (known x rfl)).through some (fun x w => ?_) fun y known => known y rfl
      cases w <;> simp [Entry.sameSide, EqualNumbers]

theorem entry_same_iff (entry other : Entry) : entry.same other = true ↔
    ((entry.date = other.date ∧ entry.description = other.description) ∧
      Entry.sameSide entry.debit other.debit = true ∧ Entry.sameSide entry.credit other.credit = true) := by
  simp [Entry.same]
  tauto

theorem lawful_entry {entry : Entry} (regular : entry.Regular) :
    LawfulAt Entry.Regular (fun entry other => entry.same other = true) entry := by
  have words := (LawfulAt.on Entry.date entry (lawful_eq _)).and (LawfulAt.on Entry.description entry (lawful_eq _))
  have sides := (LawfulAt.on Entry.debit entry (lawful_side regular.1)).and
    (LawfulAt.on Entry.credit entry (lawful_side regular.2))
  refine (words.and sides).through id (fun x w => ?_) fun y known => ⟨⟨trivial, trivial⟩, known⟩
  simp [entry_same_iff]

theorem sameLedger_iff (entries others : Ledger) :
    Value.sameLedger entries others = true ↔
      List.Forall₂ (fun entry other : Entry => entry.same other = true) entries others := by
  induction entries generalizing others with
  | nil => cases others <;> simp [Value.sameLedger]
  | cons entry rest ih => cases others <;> simp [Value.sameLedger, ih]

theorem samePortfolio_iff (holdings others : Portfolio) : Value.samePortfolio holdings others = true ↔
    holdings.names = others.names ∧ List.Forall₂ EqualNumbers holdings.assets others.assets ∧
      List.Forall₂ EqualNumbers holdings.weights others.weights := by
  rw [Value.samePortfolio, Bool.and_eq_true, Bool.and_eq_true, sameNumbers_iff, sameNumbers_iff, beq_iff_eq]
  exact and_comm

theorem sameColumns_iff (columns others : Named (List Float)) : Value.sameColumns columns others = true ↔
    columns.length = others.length ∧ Named.Matched (List.Forall₂ EqualNumbers) columns others := by
  rw [Value.sameColumns, Bool.and_eq_true, beq_iff_eq, List.all_eq_true]
  refine and_congr_right fun _ => ?_
  constructor
  · intro each name column member
    obtain ⟨other, found, same⟩ := (Option.any_eq_true _ _).mp (each _ member)
    exact ⟨other, found, (sameNumbers_iff _ _).mp same⟩
  · intro matched column member
    obtain ⟨other, found, same⟩ := matched _ _ member
    exact (Option.any_eq_true _ _).mpr ⟨other, found, (sameNumbers_iff _ _).mpr same⟩

end Parts

namespace Value

variable {ledgers : Ledgers}

def Same (ledgers : Ledgers) (v w : Value) : Prop := v.same ledgers w = true

theorem sameItems_iff (items others : List Value) :
    sameItems ledgers items others = true ↔ List.Forall₂ (Same ledgers) items others := by
  induction items generalizing others with
  | nil => cases others <;> simp [sameItems]
  | cons item rest ih => cases others <;> simp [sameItems, ih, Same]

theorem sameFields_iff (fields others : Named Value) :
    sameFields ledgers fields others = true ↔ Named.Matched (Same ledgers) fields others := by
  induction fields with
  | nil => exact iff_of_true (by rw [sameFields]) (by rintro _ _ ⟨⟩)
  | cons field rest ih =>
      obtain ⟨name, value⟩ := field
      rw [sameFields, Bool.and_eq_true, ih, Named.matched_cons]
      cases Named.get? others name with
      | none => simp
      | some other => simp [Same]

-- By induction on the value: each kind is equal only to its own, and carries the laws of its parts.
theorem lawful_value {v : Value} (regular : v.Regular ledgers) : LawfulAt (Regular ledgers) (Same ledgers) v := by
  induction regular with
  | null =>
      refine (lawful_eq ()).through (fun _ => null) (fun x w => ?_) fun _ _ => trivial
      cases w <;> simp [Same, same]
  | number x known =>
      refine (lawful_number known).through number (fun x w => ?_) fun y known => ?_
      · cases w <;> simp [Same, same, EqualNumbers]
      · cases known
        assumption
  | text value =>
      refine (lawful_eq value).through text (fun x w => ?_) fun _ _ => trivial
      cases w <;> simp [Same, same, @eq_comm _ x]
  | bool value =>
      refine (lawful_eq value).through bool (fun x w => ?_) fun _ _ => trivial
      cases w <;> simp [Same, same, @eq_comm _ x]
  | list items known each =>
      refine (lawful_places items each).through list (fun x w => ?_) fun y known => ?_
      · cases w <;> simp [Same, same, ← sameItems_iff]
      · cases known
        assumption
  | table grid formed cells =>
      have columns := Named.lawful_matched formed.1 fun column member => lawful_numbers (cells column member)
      refine (LawfulAt.on Table.columns grid columns).through table (fun x w => ?_) fun y known => ?_
      · cases w <;> simp [Same, same, ← sameColumns_iff]
      · cases known with
        | table _ formed cells => exact ⟨formed.1, cells⟩
  | portfolio holdings assets weights =>
      have names := LawfulAt.on Portfolio.names holdings (lawful_eq _)
      have amounts := (LawfulAt.on Portfolio.assets holdings (lawful_numbers assets)).and
        (LawfulAt.on Portfolio.weights holdings (lawful_numbers weights))
      refine (names.and amounts).through portfolio (fun x w => ?_) fun y known => ?_
      · cases w <;> simp [Same, same, ← samePortfolio_iff]
      · cases known with
        | portfolio _ assets weights => exact ⟨trivial, assets, weights⟩
  | cashflow flows known =>
      refine (lawful_numbers known).through cashflow (fun x w => ?_) fun y known => ?_
      · cases w <;> simp [Same, same, ← sameNumbers_iff]
      · cases known
        assumption
  | ledger account known =>
      have entries := lawful_places (ledgers.entries account) fun entry member => lawful_entry (known entry member)
      refine (LawfulAt.on ledgers.entries account entries).through ledger (fun x w => ?_) fun y known => ?_
      · cases w <;> simp [Same, same, ← sameLedger_iff]
      · cases known
        assumption
  | entry posted known =>
      refine (lawful_entry known).through entry (fun x w => ?_) fun y known => ?_
      · cases w <;> simp [Same, same]
      · cases known
        assumption
  | builtin known =>
      refine (lawful_eq known).through builtin (fun x w => ?_) fun _ _ => trivial
      cases w <;> simp [Same, same, @eq_comm _ x]
  | function declared =>
      have identity := LawfulAt.on UserFunction.identity declared (lawful_eq _)
      refine identity.through function (fun x w => ?_) fun _ _ => trivial
      cases w <;> simp [Same, same]
  | lambda made =>
      have identity := LawfulAt.on Lambda.identity made (lawful_eq _)
      refine identity.through lambda (fun x w => ?_) fun _ _ => trivial
      cases w <;> simp [Same, same]
  | block body distinct =>
      refine (LawfulAt.on Stmt.bodyOutline body (Outline.lawful_outline distinct)).through block (fun x w => ?_)
        fun y known => ?_
      · cases w <;> simp [Same, same, Outline.Equal]
      · cases known
        assumption
  | object fields distinct known each =>
      refine (Named.lawful_matched distinct each).through object (fun x w => ?_) fun y known => ?_
      · cases w <;> simp [Same, same, ← sameFields_iff]
      · cases known with
        | object _ distinct each => exact ⟨distinct, each⟩

inductive Reordered : Value → Value → Prop where
  | refl (v : Value) : Reordered v v
  | list (items others : List Value) (count : items.length = others.length)
      (each : ∀ (index : Nat) (item other : Value), items[index]? = some item → others[index]? = some other →
        Reordered item other) :
      Reordered (.list items) (.list others)
  | table (grid other : Table) (perm : grid.columns.Perm other.columns) : Reordered (.table grid) (.table other)
  | object (fields others : Named Value) (perm : (Named.names fields).Perm (Named.names others))
      (each : ∀ name value other, Named.get? fields name = some value → Named.get? others name = some other →
        Reordered value other) : Reordered (.object fields) (.object others)

theorem reordered_table {grid other : Table} (perm : grid.columns.Perm other.columns)
    (regular : Regular ledgers (.table grid)) :
    Regular ledgers (.table other) ∧ Same ledgers (.table grid) (.table other) := by
  cases regular with
  | table _ formed cells =>
      have distinct : (Named.names other.columns).Nodup := (perm.map Prod.fst).nodup_iff.mp formed.1
      refine ⟨.table other ⟨distinct, fun first one second two => ?_⟩ fun column member => ?_, ?_⟩
      · exact formed.2 first (perm.mem_iff.mpr one) second (perm.mem_iff.mpr two)
      · exact cells column (perm.mem_iff.mpr member)
      · change sameColumns grid.columns other.columns = true
        rw [sameColumns_iff]
        refine ⟨perm.length_eq, fun name column member => ?_⟩
        exact ⟨column, Named.get?_of_mem distinct (perm.mem_iff.mp member), (lawful_numbers (cells _ member)).refl⟩

theorem reordered_list {items others : List Value} (count : items.length = others.length)
    (held : ∀ (index : Nat) (item other : Value), items[index]? = some item → others[index]? = some other →
      other.Regular ledgers ∧ Same ledgers item other) :
    Regular ledgers (.list others) ∧ Same ledgers (.list items) (.list others) := by
  refine ⟨.list others fun other member => ?_, ?_⟩
  · obtain ⟨index, inside, found⟩ := List.getElem_of_mem member
    have before : index < items.length := count ▸ inside
    exact (held index items[index] other (List.getElem?_eq_getElem before) (found ▸ List.getElem?_eq_getElem inside)).1
  · change sameItems ledgers items others = true
    rw [sameItems_iff, List.forall₂_iff_get]
    refine ⟨count, fun index one two => ?_⟩
    exact (held index _ _ (List.getElem?_eq_getElem one) (List.getElem?_eq_getElem two)).2

theorem reordered_object {fields others : Named Value} (perm : (Named.names fields).Perm (Named.names others))
    (distinct : (Named.names others).Nodup)
    (held : ∀ name value other, (name, value) ∈ fields → (name, other) ∈ others →
      other.Regular ledgers ∧ Same ledgers value other) :
    Regular ledgers (.object others) ∧ Same ledgers (.object fields) (.object others) := by
  refine ⟨.object others distinct fun entry member => ?_, ?_⟩
  · obtain ⟨value, before⟩ := Named.exists_of_perm perm.symm member
    exact (held _ value _ before member).1
  · have count : fields.length = others.length := by
      have names := perm.length_eq
      rwa [Named.names, Named.names, List.length_map, List.length_map] at names
    change (fields.length == others.length && sameFields ledgers fields others) = true
    rw [Bool.and_eq_true, beq_iff_eq, sameFields_iff]
    refine ⟨count, fun name value member => ?_⟩
    obtain ⟨other, behind⟩ := Named.exists_of_perm perm member
    exact ⟨other, Named.get?_of_mem distinct behind, (held name value other member behind).2⟩

-- By induction on how the one value comes from the other.
theorem reordered_same {v w : Value} (reordered : Reordered v w) (regular : v.Regular ledgers) :
    w.Regular ledgers ∧ Same ledgers v w := by
  induction reordered with
  | refl v => exact ⟨regular, (lawful_value regular).refl⟩
  | list items others count each ih =>
      cases regular with
      | list _ known =>
          exact reordered_list count fun index item other one two =>
            ih index item other one two (known item (List.mem_of_getElem? one))
  | table grid other perm => exact reordered_table perm regular
  | object fields others perm each ih =>
      cases regular with
      | object _ distinct known =>
          have apart : (Named.names others).Nodup := perm.nodup_iff.mp distinct
          exact reordered_object perm apart fun name value other one two =>
            ih name value other (Named.get?_of_mem distinct one) (Named.get?_of_mem apart two) (known _ one)

inductive Alike {α : Type} (related : α → α → Prop) : Except Failure α → Except Failure α → Prop where
  | ok (x y : α) (same : related x y) : Alike related (.ok x) (.ok y)
  | error (failure : Failure) : Alike related (.error failure) (.error failure)

theorem alike_self {α : Type} (result : Except Failure α) : Alike Eq result result := by
  cases result with
  | ok x => exact .ok x x rfl
  | error failure => exact .error failure

theorem Alike.bind {α β : Type} {related : α → α → Prop} {relation : β → β → Prop} {first second : Except Failure α}
    {f g : α → Except Failure β} (alike : Alike related first second)
    (next : ∀ x y, related x y → Alike relation (f x) (g y)) : Alike relation (first >>= f) (second >>= g) := by
  cases alike with
  | ok x y same => exact next x y same
  | error failure => exact .error failure

structure Agrees (ledgers : Ledgers) (v w : Value) : Prop where
  kind : v.kindName = w.kindName
  truth : v.isTruthy = w.isTruthy
  number : ∀ what, Alike EqualNumbers (v.asNumber what) (w.asNumber what)
  whole : ∀ what, Alike Eq (v.asInt what) (w.asInt what)
  text : ∀ what, Alike Eq (v.asText what) (w.asText what)
  numbers : ∀ what, Alike (List.Forall₂ EqualNumbers) (v.asNumbers what) (w.asNumbers what)
  length : Alike Eq (Library.length ledgers v) (Library.length ledgers w)

theorem same_kind {v w : Value} (same : Same ledgers v w) : v.kindName = w.kindName := by
  cases v <;> cases w <;> first | rfl | cases same

theorem equal_cases {x y : Float} (equal : EqualNumbers x y) : x = y ∨ (x = 0 ∨ x = -0) ∧ (y = 0 ∨ y = -0) := by
  obtain ⟨first, second⟩ := numbers_of_equal equal
  rcases same_of_equal equal with same | ⟨here, there⟩
  · exact .inl same
  · exact .inr ⟨zero_of_place first here, zero_of_place second there⟩

theorem zero_read {zero : Float} (known : zero = 0 ∨ zero = -0) (what : String) :
    (number zero).isTruthy = false ∧ (number zero).asInt what = .ok 0 := by
  have whole : isWhole zero = true ∧ truncate zero = 0 := by
    rcases known with rfl | rfl <;> decide +kernel
  constructor
  · change (zero != 0) = false
    rcases known with rfl | rfl <;> decide +kernel
  · change (if isWhole zero = true then Except.ok (truncate zero) else _) = _
    rw [if_pos whole.1, whole.2]

theorem agrees_number {x y : Float} (equal : EqualNumbers x y) : Agrees ledgers (.number x) (.number y) := by
  refine ⟨rfl, ?_, fun what => .ok x y equal, fun what => ?_, fun _ => .error _, fun _ => .error _, .error _⟩
  · rcases equal_cases equal with rfl | ⟨first, second⟩
    · rfl
    · rw [(zero_read first "").1, (zero_read second "").1]
  · rcases equal_cases equal with rfl | ⟨first, second⟩
    · exact alike_self _
    · rw [(zero_read first what).2, (zero_read second what).2]
      exact alike_self _

theorem itemNumbers_other (item : Value) (other : ∀ x, item ≠ .number x) (rest : List Value) (what : String)
    (index : Nat) : itemNumbers what index (item :: rest) =
      .error (.typeMismatch
        (what ++ " element at index " ++ toString index ++ " must be numeric, got " ++ item.kindName)) := by
  cases item with
  | number x => exact absurd rfl (other x)
  | _ => rfl

theorem same_number {v w : Value} (same : Same ledgers v w) : (∃ x, v = .number x) ↔ ∃ y, w = .number y := by
  cases v <;> cases w <;> first | (cases same; done) | simp

theorem agrees_items {items others : List Value} (same : List.Forall₂ (Same ledgers) items others) (what : String)
    (index : Nat) :
    Alike (List.Forall₂ EqualNumbers) (itemNumbers what index items) (itemNumbers what index others) := by
  induction same generalizing index with
  | nil => exact .ok _ _ .nil
  | @cons item other rest others first same ih =>
      by_cases numeric : ∃ x, item = .number x
      · obtain ⟨y, rfl⟩ := (same_number first).mp numeric
        obtain ⟨x, rfl⟩ := numeric
        exact (ih (index + 1)).bind fun xs ys alike => .ok _ _ (.cons first alike)
      · have neither : ¬ ∃ y, other = .number y := fun numbered => numeric ((same_number first).mpr numbered)
        rw [itemNumbers_other item (fun x known => numeric ⟨x, known⟩),
          itemNumbers_other other (fun y known => neither ⟨y, known⟩), same_kind first]
        exact .error _

theorem rowCount_column {grid : Table} (formed : grid.WellFormed) {column : String × List Float}
    (member : column ∈ grid.columns) : grid.rowCount = column.2.length := by
  unfold Table.rowCount
  cases known : grid.columns with
  | nil =>
      rw [known] at member
      cases member
  | cons first rest => exact formed.2 first (known ▸ List.mem_cons_self) column member

theorem rowCount_of_same {grid other : Table} (formed : grid.WellFormed) (also : other.WellFormed)
    (same : sameColumns grid.columns other.columns = true) : grid.rowCount = other.rowCount := by
  obtain ⟨count, matched⟩ := (sameColumns_iff _ _).mp same
  cases known : grid.columns with
  | nil =>
      rw [known] at count
      have none : other.columns = [] := List.eq_nil_of_length_eq_zero count.symm
      rw [Table.rowCount, Table.rowCount, known, none]
  | cons column rest =>
      have member : column ∈ grid.columns := known ▸ List.mem_cons_self
      obtain ⟨counterpart, found, alike⟩ := matched column.1 column.2 member
      rw [rowCount_column formed member, rowCount_column also (Named.mem_of_get? _ _ _ found)]
      exact alike.length_eq

theorem agrees_list {items others : List Value} (same : List.Forall₂ (Same ledgers) items others) :
    Agrees ledgers (.list items) (.list others) := by
  refine ⟨rfl, ?_, fun _ => .error _, fun _ => .error _, fun _ => .error _, fun what => agrees_items same what 0, ?_⟩
  · change (!items.isEmpty) = !others.isEmpty
    cases same <;> rfl
  · exact .ok _ _ same.length_eq

theorem agrees_of_same {v w : Value} (regular : v.Regular ledgers) (also : w.Regular ledgers)
    (same : Same ledgers v w) : Agrees ledgers v w := by
  cases v with
  | number x =>
      cases w with
      | number y => exact agrees_number same
      | _ => cases same
  | text value =>
      cases w with
      | text other =>
          cases beq_iff_eq.mp same
          exact ⟨rfl, rfl, fun _ => .error _, fun _ => .error _, fun _ => .ok _ _ rfl, fun _ => .error _, .ok _ _ rfl⟩
      | _ => cases same
  | bool value =>
      cases w with
      | bool other =>
          cases beq_iff_eq.mp same
          exact ⟨rfl, rfl, fun _ => .error _, fun _ => .error _, fun _ => .error _, fun _ => .error _, .error _⟩
      | _ => cases same
  | list items =>
      cases w with
      | list others => exact agrees_list ((sameItems_iff items others).mp same)
      | _ => cases same
  | cashflow flows =>
      cases w with
      | cashflow others =>
          have alike := (sameNumbers_iff flows others).mp same
          exact ⟨rfl, rfl, fun _ => .error _, fun _ => .error _, fun _ => .error _, fun _ => .ok _ _ alike,
            .ok _ _ alike.length_eq⟩
      | _ => cases same
  | table grid =>
      cases w with
      | table other =>
          cases regular with
          | table _ formed _ =>
              cases also with
              | table _ others _ =>
                  have rows := rowCount_of_same formed others same
                  exact ⟨rfl, rfl, fun _ => .error _, fun _ => .error _, fun _ => .error _, fun _ => .error _,
                    .ok _ _ rows⟩
      | _ => cases same
  | ledger account =>
      cases w with
      | ledger other =>
          have count := ((sameLedger_iff _ _).mp same).length_eq
          exact ⟨rfl, rfl, fun _ => .error _, fun _ => .error _, fun _ => .error _, fun _ => .error _, .ok _ _ count⟩
      | _ => cases same
  | _ =>
      cases w
      all_goals first
        | cases same; done
        | exact ⟨rfl, rfl, fun _ => .error _, fun _ => .error _, fun _ => .error _, fun _ => .error _, .error _⟩

end Value

-- On values without a number that is none, the equality of the language is an equivalence that does not ask in which
-- order the fields of objects and the columns of tables stand, and what else is read from equal values agrees.
theorem equality_lawful (ledgers : Ledgers) (span : Source.Span) :
    let equals (v w : Value) : Prop := v.operate ledgers span .equal w = .ok (.bool true)
    (∀ v : Value, v.Regular ledgers → equals v v) ∧
    (∀ v w : Value, v.Regular ledgers → w.Regular ledgers → (equals v w ↔ equals w v)) ∧
    (∀ u v w : Value, u.Regular ledgers → v.Regular ledgers → w.Regular ledgers →
      equals u v → equals v w → equals u w) ∧
    (∀ v w : Value, v.Reordered w → v.Regular ledgers → w.Regular ledgers ∧ equals v w ∧
      ∀ u : Value, u.Regular ledgers → (equals v u ↔ equals w u) ∧ (equals u v ↔ equals u w)) ∧
    ∀ v w : Value, v.Regular ledgers → w.Regular ledgers → equals v w → v.Agrees ledgers w := by
  intro equals
  have equals_iff (v w : Value) : equals v w ↔ v.Same ledgers w := by
    change Except.ok (Value.bool (v.same ledgers w)) = .ok (.bool true) ↔ v.same ledgers w = true
    simp
  simp only [equals_iff]
  have turned (v w : Value) (known : v.Regular ledgers) (also : w.Regular ledgers) (same : v.Same ledgers w) :
      w.Same ledgers v := (Value.lawful_value known).symm w also same
  have chained (u v w : Value) (known : u.Regular ledgers) (first : u.Same ledgers v) (second : v.Same ledgers w) :
      u.Same ledgers w := (Value.lawful_value known).trans v w first second
  refine ⟨fun v known => (Value.lawful_value known).refl,
    fun v w known also => ⟨turned v w known also, turned w v also known⟩,
    fun u v w known _ _ => chained u v w known, fun v w reordered known => ?_,
    fun v w known also same => Value.agrees_of_same known also same⟩
  obtain ⟨also, same⟩ := Value.reordered_same reordered known
  have back := turned v w known also same
  refine ⟨also, same, fun u other => ⟨⟨?_, ?_⟩, ⟨?_, ?_⟩⟩⟩
  · exact chained w v u also back
  · exact chained v w u known same
  · exact fun before => chained u v w other before same
  · exact fun before => chained u w v other before back

theorem turned_object_equal :
    let cells : Named (List Float) := [("price", [1, -0]), ("share", [0.5, 2])]
    let v : Value := .object [("name", .text "fund"), ("parts", .list [.number 0, .table ⟨cells⟩])]
    let w : Value := .object [("parts", .list [.number 0, .table ⟨cells.reverse⟩]), ("name", .text "fund")]
    v.Reordered w ∧ v.Regular #[] ∧ w.Regular #[] ∧
      v.operate #[] default .equal w = .ok (.bool true) ∧ w.operate #[] default .equal v = .ok (.bool true) ∧
      v.Agrees #[] w := by
  intro cells v w
  have numbers : ∀ column ∈ cells, ∀ x ∈ column.2, isNaN x = false := by decide +kernel
  have formed : Table.WellFormed ⟨cells⟩ := ⟨by decide, by decide +kernel⟩
  have grids : Value.Reordered (.table ⟨cells⟩) (.table ⟨cells.reverse⟩) := .table _ _ (List.reverse_perm cells).symm
  have parts : Value.Reordered (.list [.number 0, .table ⟨cells⟩]) (.list [.number 0, .table ⟨cells.reverse⟩]) := by
    refine .list _ _ rfl fun index item other one two => ?_
    match index with
    | 0 =>
        cases one
        cases two
        exact .refl _
    | 1 =>
        cases one
        cases two
        exact grids
    | index + 2 => cases one
  have reordered : v.Reordered w := by
    refine .object _ _ (.swap _ _ _) fun name value other one two => ?_
    by_cases first : "name" = name
    · subst first
      cases one
      cases two
      exact .refl _
    · by_cases second : "parts" = name
      · subst second
        cases one
        cases two
        exact parts
      · rw [Named.get?, if_neg first, Named.get?, if_neg second] at one
        cases one
  have regular : v.Regular #[] := by
    refine .object _ (by decide) (List.forall_mem_cons.mpr ⟨.text _, List.forall_mem_singleton.mpr (.list _ ?_)⟩)
    exact List.forall_mem_cons.mpr ⟨.number 0 rfl, List.forall_mem_singleton.mpr (.table _ formed numbers)⟩
  obtain ⟨_, turns, _, orders, agrees⟩ := equality_lawful #[] default
  obtain ⟨also, same, _⟩ := orders v w reordered regular
  exact ⟨reordered, regular, also, same, (turns v w regular also).mp same, agrees v w regular also same⟩

end Fiscal
