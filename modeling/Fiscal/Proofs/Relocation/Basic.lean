import Fiscal.Machine.Run
import Fiscal.Proofs.Session.Tree

set_option autoImplicit false

namespace Fiscal

-- Numbers from a start on are put higher by a gap.
structure Shift where
  start : Nat
  gap : Nat

namespace Shift

variable (shift : Shift)

def place (number : Nat) : Nat := if number < shift.start then number else number + shift.gap

theorem place_old {number : Nat} (old : number < shift.start) : shift.place number = number := if_pos old

theorem place_new {number : Nat} (new : shift.start ≤ number) : shift.place number = number + shift.gap :=
  if_neg (Nat.not_lt.mpr new)

theorem place_still (none : shift.gap = 0) (number : Nat) : shift.place number = number := by
  simp [place, none]

theorem place_lt {first second : Nat} (less : first < second) : shift.place first < shift.place second := by
  unfold place
  split <;> split <;> omega

theorem place_inj {first second : Nat} : shift.place first = shift.place second ↔ first = second := by
  unfold place
  split <;> split <;> omega

theorem apart {first second number : Nat} (new : first ≤ number) (known : number < second) (other : Nat) :
    (Shift.mk first (second - first)).place other ≠ number := by
  unfold place
  dsimp only
  split <;> omega

theorem place_le (number : Nat) : number ≤ shift.place number := by
  unfold place
  split <;> omega

end Shift

-- Two machines on which the same code is run, and the older scopes that the run on the first one can
-- come to.
structure Relocation where
  first : Machine
  second : Machine
  seen : Nat → Prop

namespace Relocation

variable (move : Relocation)

def scopes : Shift := ⟨move.first.scopes.size, move.second.scopes.size - move.first.scopes.size⟩

def ledgers : Shift := ⟨move.first.ledgers.size, move.second.ledgers.size - move.first.ledgers.size⟩

def functions : Shift := ⟨move.first.functions, move.second.functions - move.first.functions⟩

mutual

def value : Value → Value
  | .list items => .list (values items)
  | .object fields => .object (named fields)
  | .ledger account => .ledger (move.ledgers.place account)
  | .function declared =>
      .function { declared with
        identity := move.functions.place declared.identity, scope := move.scopes.place declared.scope }
  | .lambda made =>
      .lambda { made with
        identity := move.functions.place made.identity, scope := move.scopes.place made.scope }
  | other => other

def values : List Value → List Value
  | [] => []
  | item :: rest => value item :: values rest

def named : Named Value → Named Value
  | [] => []
  | (name, item) :: rest => (name, value item) :: named rest

end

theorem values_eq (items : List Value) : move.values items = items.map move.value := by
  induction items with
  | nil => rfl
  | cons item rest ih => rw [values, ih, List.map_cons]

theorem named_eq (fields : Named Value) :
    move.named fields = fields.map fun field => (field.1, move.value field.2) := by
  induction fields with
  | nil => rfl
  | cons field rest ih => rw [named, ih, List.map_cons]

@[simp] theorem value_list (items : List Value) : move.value (.list items) = .list (items.map move.value) := by
  rw [value, values_eq]

@[simp] theorem value_object (fields : Named Value) : move.value (.object fields) = .object (move.named fields) := rfl

theorem value_simple (value : Value) (simple : value.isSimple = true) : move.value value = value := by
  cases value with
  | null | number | text | bool | cashflow | entry | builtin => rfl
  | list | table | portfolio | ledger | function | lambda | block | object => cases simple

theorem put_named (fields : Named Value) (name : String) (value : Value) :
    (move.named fields).put name (move.value value) = move.named (fields.put name value) := by
  rw [named_eq, named_eq]
  exact Named.put_map move.value fields name value

end Relocation

end Fiscal
