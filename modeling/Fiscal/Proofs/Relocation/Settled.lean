import Fiscal.Proofs.Relocation.Basic
import Fiscal.Proofs.Session.Made

set_option autoImplicit false

namespace Fiscal

open Machine

namespace Machine

-- A machine with at least the numbers of another one.
structure Grown (before after : Machine) : Prop where
  scopes : before.scopes.size ≤ after.scopes.size
  ledgers : before.ledgers.size ≤ after.ledgers.size
  functions : before.functions ≤ after.functions

def Settles (machine : Machine) (value : Value) : Prop :=
  ∀ move : Relocation, machine.Grown move.first → move.value value = value

structure Settled (machine : Machine) : Prop where
  current : machine.current < machine.scopes.size
  bound : ∀ scope value, machine.scopes.Holds scope value → machine.Settles value

namespace Grown

variable {before middle after : Machine}

theorem trans (first : before.Grown middle) (second : middle.Grown after) : before.Grown after :=
  ⟨Nat.le_trans first.scopes second.scopes, Nat.le_trans first.ledgers second.ledgers,
    Nat.le_trans first.functions second.functions⟩

theorem settles (grown : before.Grown after) {value : Value} (settles : before.Settles value) :
    after.Settles value :=
  fun move further => settles move (grown.trans further)

end Grown

theorem grown_binding (machine : Machine) (scope : Nat) (name : String) (value : Value) :
    machine.Grown (machine.binding scope name value) :=
  ⟨Nat.le_of_eq (Scopes.size_define _ _ _ _).symm, Nat.le_refl _, Nat.le_refl _⟩

theorem grown_entering (machine : Machine) (outer : Nat) : machine.Grown (machine.entering outer) :=
  ⟨size_le_entering machine outer, Nat.le_refl _, Nat.le_refl _⟩

theorem moves_grown {holds : Machine → Value → Prop} (declares : Bool) (machine after : Machine)
    (moved : Moves holds declares machine after) : machine.Grown after :=
  ⟨moves_size declares machine after moved, moves_ledgers declares machine after moved,
    moves_functions declares machine after moved⟩

theorem settles_list (machine : Machine) (items : List Value) :
    machine.Settles (.list items) ↔ ∀ item ∈ items, machine.Settles item := by
  constructor
  · intro settles item member move grown
    have same := settles move grown
    rw [Relocation.value_list, Value.list.injEq] at same
    have each : ∀ item ∈ items, move.value item = id item :=
      List.map_eq_map_iff.mp (same.trans (List.map_id _).symm)
    exact each item member
  · intro settles move grown
    have each : items.map move.value = items.map id :=
      List.map_congr_left fun item member => settles item member move grown
    rw [Relocation.value_list, each, List.map_id]

theorem settles_object (machine : Machine) (fields : Named Value) :
    machine.Settles (.object fields) ↔ ∀ field ∈ fields, machine.Settles field.2 := by
  constructor
  · intro settles field member move grown
    have same := settles move grown
    rw [Relocation.value_object, Value.object.injEq, Relocation.named_eq] at same
    have each : ∀ field ∈ fields, (field.1, move.value field.2) = id field :=
      List.map_eq_map_iff.mp (same.trans (List.map_id _).symm)
    exact congrArg Prod.snd (each field member)
  · intro settles move grown
    have each : fields.map (fun field => (field.1, move.value field.2)) = fields.map id :=
      List.map_congr_left fun field member => congrArg (field.1, ·) (settles field member move grown)
    rw [Relocation.value_object, Relocation.named_eq, each, List.map_id]

theorem Settled.quiet {machine after : Machine} (settled : machine.Settled) (grown : machine.Grown after)
    (scopes : after.scopes = machine.scopes) (current : after.current < after.scopes.size) : after.Settled := by
  refine ⟨current, fun scope value holds => grown.settles ?_⟩
  rw [scopes] at holds
  exact settled.bound scope value holds

theorem settled_binding {machine : Machine} (settled : machine.Settled) (scope : Nat) (name : String)
    {value : Value} (settles : machine.Settles value) : (machine.binding scope name value).Settled := by
  have grown := grown_binding machine scope name value
  refine ⟨Nat.lt_of_lt_of_le settled.current grown.scopes, fun other held holds => grown.settles ?_⟩
  rcases Scopes.holds_define _ scope other name value held holds with old | fresh
  · exact settled.bound other held old
  · rw [fresh]
    exact settles

theorem settled_entering {machine : Machine} (settled : machine.Settled) (outer : Nat) :
    (machine.entering outer).Settled := by
  refine ⟨by simp [entering], fun scope held holds => (grown_entering machine outer).settles ?_⟩
  exact settled.bound scope held (Scopes.holds_enter _ outer scope held holds)

theorem moves_settled (declares : Bool) (machine after : Machine)
    (moved : Moves Settles declares machine after) (settled : machine.Settled) : after.Settled := by
  induction moved with
  | rest => exact settled
  | trans _ _ _ _ _ _ first second => exact second (first settled)
  | define machine name value settles => exact settled_binding settled _ name settles
  | assign _ machine owner name value _ settles => exact settled_binding settled owner name settles
  | write | count | ledger | post | store =>
      refine settled.quiet ⟨?_, ?_, ?_⟩ rfl settled.current <;> simp [Ledgers.post]
  | inside _ machine inner outer entrance body ih =>
      have within := ih (settled_entering settled outer)
      have moved := Moves.inside false machine inner outer entrance body
      have size := moves_size false machine (inner.returning machine.current) moved
      exact within.quiet ⟨Nat.le_refl _, Nat.le_refl _, Nat.le_refl _⟩ rfl (Nat.lt_of_lt_of_le settled.current size)

theorem settles_simple (machine : Machine) (value : Value) (simple : value.isSimple = true) :
    machine.Settles value :=
  fun move _ => move.value_simple value simple

theorem start_settled (settings : Settings) (files : Files) (today : String) :
    (start settings files today).Settled where
  current := Nat.zero_lt_one
  bound scope value holds := by
    obtain ⟨builtin, rfl⟩ := start_holds holds
    exact settles_simple _ _ rfl

end Machine

def Law.settled : Law :=
  { Law.anything with
    sound := Settled
    holds := Settles
    kept := fun declares machine after settled moved =>
      ⟨moves_settled declares machine after moved settled,
        fun _ => (moves_grown declares machine after moved).settles⟩
    entered := fun machine outer settled _ =>
      ⟨settled_entering settled outer, fun _ => (grown_entering machine outer).settles⟩
    anywhere := fun _ _ _ settles move grown => settles move ⟨grown.scopes, grown.ledgers, grown.functions⟩
    found := fun _ scope value settled _ holds => settled.bound scope value holds
    simple := settles_simple
    list := settles_list
    object := settles_object
    table := fun _ _ _ _ _ _ _ => rfl
    tableNames := fun _ _ _ => .inr trivial
    portfolio := fun _ _ _ _ _ _ _ _ => rfl
    ledger := fun _ account known move grown =>
      congrArg Value.ledger (move.ledgers.place_old (Nat.lt_of_lt_of_le known grown.ledgers))
    lambda := fun machine identity _ _ _ settled counted _ move grown => by
      have scope := move.scopes.place_old (Nat.lt_of_lt_of_le settled.current grown.scopes)
      have number := move.functions.place_old (Nat.lt_of_lt_of_le counted grown.functions)
      rw [Relocation.value, scope, number]
    function := fun machine identity _ _ _ _ settled counted _ move grown => by
      have scope := move.scopes.place_old (Nat.lt_of_lt_of_le settled.current grown.scopes)
      have number := move.functions.place_old (Nat.lt_of_lt_of_le counted grown.functions)
      rw [Relocation.value, scope, number]
    block := fun _ _ _ _ _ _ _ => rfl
    lambdaBody := fun _ _ _ => trivial
    functionBody := fun _ _ _ _ _ => trivial
    blockBody := fun _ _ _ _ _ => trivial }

theorem execute_settings (limits : Limits) (file : Option String) (source : String) (machine : Machine) :
    (Session.execute limits file source machine).2.settings = machine.settings := by
  cases found : Session.read machine.settings file source with
  | error fault => rw [Session.execute_failed limits file source machine fault found]
  | ok reading =>
      rw [Session.execute_run limits file source machine reading found]
      have kept := Session.runAll_keeps Law.anything (.ofLimits limits) (Law.Parts.ofLimits limits)
        reading.program.statements (fun _ _ => trivial) (Session.ready source machine) trivial
      exact (moves_given true _ _ kept.1).1

theorem settled_lasting : Session.Lasting Law.settled where
  taken _ _ stopped := stopped
  faults _ := trivial
  never _ stopped := stopped
  code _ _ _ _ _ _ _ := trivial
  start := start_settled
  ready _ _ settled := settled.quiet ⟨Nat.le_refl _, Nat.le_refl _, Nat.le_refl _⟩ rfl settled.current
  meanwhile _ _ _ settled := settled.quiet ⟨Nat.le_refl _, Nat.le_refl _, Nat.le_refl _⟩ rfl settled.current

end Fiscal
