import Fiscal.Proofs.Session.States

set_option autoImplicit false

namespace Fiscal

open Machine

namespace Value

-- A value that another one is or has inside its lists and objects.
inductive Part : Value → Value → Prop where
  | self (value : Value) : Part value value
  | item (items : List Value) (item part : Value) (member : item ∈ items) (inner : Part item part) :
      Part (.list items) part
  | field (fields : Named Value) (field : String × Value) (part : Value) (member : field ∈ fields)
      (inner : Part field.2 part) : Part (.object fields) part

def isSingle : Value → Bool
  | list _ | object _ => false
  | _ => true

def Throughout (sort : Value → Prop) (value : Value) : Prop := ∀ part, value.Part part → sort part

section Throughout

variable {sort : Value → Prop}

theorem throughout_list (items : List Value) (nested : sort (.list items)) :
    (list items).Throughout sort ↔ ∀ item ∈ items, item.Throughout sort := by
  constructor
  · intro all item member part inner
    exact all part (.item items item part member inner)
  · intro all part inner
    cases inner with
    | self => exact nested
    | item _ item _ member inner => exact all item member part inner

theorem throughout_object (fields : Named Value) (nested : sort (.object fields)) :
    (object fields).Throughout sort ↔ ∀ field ∈ fields, field.2.Throughout sort := by
  constructor
  · intro all field member part inner
    exact all part (.field fields field part member inner)
  · intro all part inner
    cases inner with
    | self => exact nested
    | field _ field _ member inner => exact all field member part inner

theorem throughout_single {value : Value} (single : value.isSingle = true) (proper : sort value) :
    value.Throughout sort := by
  intro part inner
  cases inner with
  | self => exact proper
  | item | field => cases single

theorem single_of_simple {value : Value} (simple : value.isSimple = true) : value.isSingle = true := by
  cases value with
  | null | number | text | bool | cashflow | entry | builtin => rfl
  | list | table | portfolio | ledger | function | lambda | block | object => cases simple

theorem throughout_mono {other : Value → Prop} {value : Value} (all : value.Throughout sort)
    (more : ∀ part, sort part → other part) : value.Throughout other :=
  fun part inner => more part (all part inner)

end Throughout

def Made (ledgers : Nat) : Value → Prop
  | ledger account => account < ledgers
  | table grid => ∃ columns, Table.build columns = .ok grid
  | portfolio built => ∃ assets weights names, Portfolio.build assets weights names = .ok built
  | _ => True

end Value

namespace Machine

def Makes (machine : Machine) (value : Value) : Prop :=
  ∀ part, value.Part part → part.Made machine.ledgers.size

-- All that is bound comes from its maker.
def Stocked (machine : Machine) : Prop :=
  ∀ scope value, machine.scopes.Holds scope value → machine.Makes value

theorem makes_list (machine : Machine) (items : List Value) :
    machine.Makes (.list items) ↔ ∀ item ∈ items, machine.Makes item :=
  Value.throughout_list items trivial

theorem makes_object (machine : Machine) (fields : Named Value) :
    machine.Makes (.object fields) ↔ ∀ field ∈ fields, machine.Makes field.2 :=
  Value.throughout_object fields trivial

theorem makes_leaf (machine : Machine) (value : Value) (single : value.isSingle = true)
    (made : value.Made machine.ledgers.size) : machine.Makes value :=
  Value.throughout_single single made

theorem makes_simple (machine : Machine) (value : Value) (simple : value.isSimple = true) :
    machine.Makes value := by
  cases value with
  | null | number | text | bool | cashflow | entry | builtin => exact makes_leaf machine _ rfl trivial
  | list | table | portfolio | ledger | function | lambda | block | object => cases simple

theorem made_grown (value : Value) (before after : Nat) (grown : before ≤ after)
    (made : value.Made before) : value.Made after := by
  cases value with
  | ledger account => exact Nat.lt_of_lt_of_le made grown
  | _ => exact made

theorem makes_grown (machine after : Machine) (value : Value)
    (grown : machine.ledgers.size ≤ after.ledgers.size) (makes : machine.Makes value) :
    after.Makes value :=
  fun part inner => made_grown part _ _ grown (makes part inner)

theorem stocked_binding (machine : Machine) (scope : Nat) (name : String) (value : Value)
    (stocked : machine.Stocked) (makes : machine.Makes value) :
    (machine.binding scope name value).Stocked := by
  intro other held holds
  rcases Scopes.holds_define _ scope other name value held holds with old | fresh
  · exact stocked other held old
  · rw [fresh]
    exact makes

theorem stocked_entering (machine : Machine) (outer : Nat) (stocked : machine.Stocked) :
    (machine.entering outer).Stocked := by
  intro scope held holds
  exact stocked scope held (Scopes.holds_enter _ outer scope held holds)

theorem moves_stocked (declares : Bool) (machine after : Machine)
    (moved : Moves Makes declares machine after) (stocked : machine.Stocked) : after.Stocked := by
  induction moved with
  | rest => exact stocked
  | trans _ _ _ _ _ _ first second => exact second (first stocked)
  | define machine name value makes => exact stocked_binding machine _ name value stocked makes
  | assign _ machine owner name value _ makes =>
      exact stocked_binding machine owner name value stocked makes
  | write | count | store => exact stocked
  | ledger | post =>
      intro scope value held
      refine makes_grown _ _ value ?_ (stocked scope value held)
      simp [Ledgers.post]
  | inside _ machine inner outer entrance body ih => exact ih (stocked_entering machine outer stocked)

end Machine

-- Machines are stocked, and values have parts from their makers only.
def Law.made : Law :=
  { Law.anything with
    sound := Stocked
    holds := Makes
    kept := fun declares machine after stocked moved =>
      ⟨moves_stocked declares machine after moved stocked,
        fun value => makes_grown machine after value (moves_ledgers declares machine after moved)⟩
    entered := fun machine outer stocked _ =>
      ⟨stocked_entering machine outer stocked, fun _ makes => makes⟩
    anywhere := fun _ _ _ makes => makes
    found := fun _ scope value stocked _ holds => stocked scope value holds
    simple := makes_simple
    list := makes_list
    object := makes_object
    table := fun machine columns grid _ built => makes_leaf machine (.table grid) rfl ⟨columns, built⟩
    tableNames := fun _ _ _ => .inr trivial
    portfolio := fun machine assets weights names built passed =>
      makes_leaf machine (.portfolio built) rfl ⟨assets, weights, names, passed⟩
    ledger := fun machine account known => makes_leaf machine (.ledger account) rfl known
    lambda := fun machine _ _ _ _ _ _ _ => makes_leaf machine _ rfl trivial
    function := fun machine _ _ _ _ _ _ _ _ => makes_leaf machine _ rfl trivial
    block := fun machine _ _ body _ => makes_leaf machine (.block body) rfl trivial
    lambdaBody := fun _ _ _ => trivial
    functionBody := fun _ _ _ _ _ => trivial
    blockBody := fun _ _ _ _ _ => trivial }

theorem start_stocked (settings : Settings) (files : Files) (today : String) :
    (start settings files today).Stocked := by
  intro scope value holds
  obtain ⟨builtin, rfl⟩ := start_holds holds
  exact makes_simple _ _ rfl

theorem made_lasting : Session.Lasting Law.made where
  taken _ _ stopped := stopped
  faults _ := trivial
  never _ stopped := stopped
  code _ _ _ _ _ _ _ := trivial
  start := start_stocked
  ready _ _ stocked := stocked
  meanwhile _ _ _ stocked := stocked

theorem yields_made (machine : Machine) (value : Value) (yields : Session.Yields machine value) :
    machine.Makes value := by
  cases yields with
  | bound _ scope _ visited holds => exact made_lasting.visited machine visited scope value holds
  | computed limits expr before _ _ visited evaluated =>
      have ends := ((made_lasting.parts limits).evaluate expr before trivial).ends
        (made_lasting.visited before visited)
      rw [evaluated] at ends
      exact ends.2
  | reported limits file source before report _ idle reported member =>
      have executed := made_lasting.executed limits file source before (made_lasting.idle before idle)
      exact executed.2 report reported value member

end Fiscal

namespace Fiscal.Machine

variable {sort : Value → Prop}

def Filled (sort : Value → Prop) (machine : Machine) : Prop :=
  ∀ scope value, machine.scopes.Holds scope value → value.Throughout sort

theorem filled_mono {other : Value → Prop} {machine : Machine} (filled : machine.Filled sort)
    (more : ∀ value, sort value → other value) : machine.Filled other :=
  fun scope value holds => Value.throughout_mono (filled scope value holds) more

theorem filled_binding (machine : Machine) (scope : Nat) (name : String) (value : Value)
    (filled : machine.Filled sort) (proper : value.Throughout sort) :
    (machine.binding scope name value).Filled sort := by
  intro other held holds
  rcases Scopes.holds_define _ scope other name value held holds with old | fresh
  · exact filled other held old
  · rw [fresh]
    exact proper

theorem filled_entering (machine : Machine) (outer : Nat) (filled : machine.Filled sort) :
    (machine.entering outer).Filled sort :=
  fun scope held holds => filled scope held (Scopes.holds_enter _ outer scope held holds)

theorem moves_filled (declares : Bool) (machine after : Machine)
    (moved : Moves (fun _ value => value.Throughout sort) declares machine after) (filled : machine.Filled sort) :
    after.Filled sort := by
  induction moved with
  | rest | write | count | store | ledger | post => exact filled
  | trans _ _ _ _ _ _ first second => exact second (first filled)
  | define machine name value proper => exact filled_binding machine _ name value filled proper
  | assign _ machine owner name value _ proper => exact filled_binding machine owner name value filled proper
  | inside _ machine inner outer _ _ ih => exact ih (filled_entering machine outer filled)

theorem start_filled (settings : Settings) (files : Files) (today : String)
    (builtins : ∀ builtin, sort (.builtin builtin)) : (start settings files today).Filled sort := by
  intro scope value holds
  obtain ⟨builtin, rfl⟩ := start_holds holds
  exact Value.throughout_single rfl (builtins builtin)

end Fiscal.Machine
