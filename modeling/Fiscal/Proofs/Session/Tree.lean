import Fiscal.Proofs.Scope.Tree
import Fiscal.Proofs.Session.States

set_option autoImplicit false

namespace Fiscal

open Machine

-- A scope captured by a callable value, be it inside lists or objects.
inductive Value.Captures : Value → Nat → Prop where
  | lambda (made : Lambda) : Captures (.lambda made) made.scope
  | function (declared : UserFunction) : Captures (.function declared) declared.scope
  | item (items : List Value) (item : Value) (scope : Nat) (member : item ∈ items)
      (captures : Captures item scope) : Captures (.list items) scope
  | field (fields : Named Value) (field : String × Value) (scope : Nat) (member : field ∈ fields)
      (captures : Captures field.2 scope) : Captures (.object fields) scope

namespace Value

variable {scopes : Nat → Prop}

theorem captures_list (items : List Value) :
    (∀ scope, (list items).Captures scope → scopes scope) ↔
      ∀ item ∈ items, ∀ scope, item.Captures scope → scopes scope := by
  constructor
  · intro all item member scope captures
    exact all scope (.item items item scope member captures)
  · intro all scope captures
    cases captures with
    | item _ item _ member captures => exact all item member scope captures

theorem captures_object (fields : Named Value) :
    (∀ scope, (object fields).Captures scope → scopes scope) ↔
      ∀ field ∈ fields, ∀ scope, field.2.Captures scope → scopes scope := by
  constructor
  · intro all field member scope captures
    exact all scope (.field fields field scope member captures)
  · intro all scope captures
    cases captures with
    | field _ field _ member captures => exact all field member scope captures

end Value

namespace Machine

-- The scopes that a value captured are scopes of the machine.
def Owns (machine : Machine) (value : Value) : Prop :=
  ∀ scope, value.Captures scope → scope < machine.scopes.size

structure Rooted (machine : Machine) : Prop where
  tree : machine.scopes.IsTree
  current : machine.current < machine.scopes.size
  bound : ∀ scope value, machine.scopes.Holds scope value → machine.Owns value

theorem owns_simple (machine : Machine) (value : Value) (simple : value.isSimple = true) :
    machine.Owns value := by
  intro scope captures
  cases captures <;> cases simple

theorem owns_table (machine : Machine) (grid : Table) : machine.Owns (.table grid) := by
  intro scope captures
  cases captures

theorem owns_portfolio (machine : Machine) (built : Portfolio) : machine.Owns (.portfolio built) := by
  intro scope captures
  cases captures

theorem owns_ledger (machine : Machine) (account : Nat) : machine.Owns (.ledger account) := by
  intro scope captures
  cases captures

theorem owns_block (machine : Machine) (body : Block) : machine.Owns (.block body) := by
  intro scope captures
  cases captures

theorem owns_list (machine : Machine) (items : List Value) :
    machine.Owns (.list items) ↔ ∀ item ∈ items, machine.Owns item :=
  Value.captures_list items

theorem owns_object (machine : Machine) (fields : Named Value) :
    machine.Owns (.object fields) ↔ ∀ field ∈ fields, machine.Owns field.2 :=
  Value.captures_object fields

theorem owns_grown (machine after : Machine) (value : Value)
    (grown : machine.scopes.size ≤ after.scopes.size) (owns : machine.Owns value) :
    after.Owns value :=
  fun scope captures => Nat.lt_of_lt_of_le (owns scope captures) grown

theorem rooted_binding (machine : Machine) (scope : Nat) (name : String) (value : Value)
    (rooted : machine.Rooted) (owns : machine.Owns value) :
    (machine.binding scope name value).Rooted := by
  have size : (machine.binding scope name value).scopes.size = machine.scopes.size := by
    simp [binding]
  refine ⟨Scopes.tree_define _ scope name value rooted.tree, ?_, fun other held holds => ?_⟩
  · rw [size]
    exact rooted.current
  · refine owns_grown machine _ held (Nat.le_of_eq size.symm) ?_
    rcases Scopes.holds_define _ scope other name value held holds with old | fresh
    · exact rooted.bound other held old
    · rw [fresh]
      exact owns

theorem rooted_entering (machine : Machine) (outer : Nat) (rooted : machine.Rooted)
    (entrance : MayEnter Owns machine outer) : (machine.entering outer).Rooted := by
  have known : outer < machine.scopes.size := by
    cases entrance with
    | current => exact rooted.current
    | captured callee outer owns made =>
        cases callee with
        | lambda callee =>
            cases made
            exact owns _ (.lambda callee)
        | function callee =>
            cases made
            exact owns _ (.function callee)
        | _ => cases made
  have size := size_entering machine outer
  refine ⟨Scopes.tree_enter _ outer known rooted.tree, ?_, fun scope held holds => ?_⟩
  · rw [size]
    exact Nat.lt_succ_self _
  · refine owns_grown machine _ held (by omega) ?_
    exact rooted.bound scope held (Scopes.holds_enter _ outer scope held holds)

theorem moves_rooted (declares : Bool) (machine after : Machine)
    (moved : Moves Owns declares machine after) (rooted : machine.Rooted) : after.Rooted := by
  induction moved with
  | rest => exact rooted
  | trans _ _ _ _ _ _ first second => exact second (first rooted)
  | define machine name value owns => exact rooted_binding machine _ name value rooted owns
  | assign _ machine owner name value _ owns => exact rooted_binding machine owner name value rooted owns
  | write | count | ledger | post | store => exact ⟨rooted.tree, rooted.current, rooted.bound⟩
  | inside _ machine inner outer entrance body ih =>
      have entered := ih (rooted_entering machine outer rooted entrance)
      have moved := Moves.inside false machine inner outer entrance body
      have grown := moves_size false machine _ moved
      exact ⟨entered.tree, Nat.lt_of_lt_of_le rooted.current grown, entered.bound⟩

end Machine

def Law.tree : Law where
  sound := Rooted
  holds := Owns
  expr _ := True
  stmt _ := True
  fails _ := True
  stops _ := False
  loose := True
  kept declares machine after rooted moved :=
    ⟨moves_rooted declares machine after moved rooted,
      fun value => owns_grown machine after value (moves_size declares machine after moved)⟩
  entered machine outer rooted entrance :=
    ⟨rooted_entering machine outer rooted entrance,
      fun value => owns_grown machine _ value (size_le_entering machine outer)⟩
  anywhere _ _ _ owns := owns
  found _ scope value rooted _ holds := rooted.bound scope value holds
  simple := owns_simple
  list := owns_list
  object := owns_object
  table machine _ grid _ _ := owns_table machine grid
  tableNames _ _ _ := .inr trivial
  literalNames := names_free
  portfolio machine _ _ _ built _ := owns_portfolio machine built
  ledger machine account _ := owns_ledger machine account
  lambda machine _ _ _ _ rooted _ _ := by
    intro scope captures
    cases captures
    exact rooted.current
  function machine _ _ _ _ _ rooted _ _ := by
    intro scope captures
    cases captures
    exact rooted.current
  block machine _ _ body _ := owns_block machine body
  lambdaBody _ _ _ := trivial
  functionBody _ _ _ _ _ := trivial
  blockBody _ _ _ _ _ := trivial
  children _ _ _ _ := trivial
  expressions _ _ _ _ := trivial
  statements _ _ _ _ := trivial
  unplaced _ := trivial
  atExpr _ _ _ := trivial
  atStmt _ _ _ := trivial
  atHolding _ _ _ _ _ _ _ := trivial
  tooDeep := trivial
  unfinished := trivial
  stopped _ _ stopped := stopped

theorem start_rooted (settings : Settings) (files : Files) (today : String) :
    (start settings files today).Rooted where
  tree := Scopes.tree_global _
  current := Nat.zero_lt_one
  bound scope value holds := by
    obtain ⟨builtin, rfl⟩ := start_holds holds
    exact owns_simple _ _ rfl

theorem tree_lasting : Session.Lasting Law.tree where
  taken _ _ stopped := stopped
  faults _ := trivial
  never _ stopped := stopped
  code _ _ _ _ _ _ _ := trivial
  start := start_rooted
  ready _ _ rooted := ⟨rooted.tree, rooted.current, rooted.bound⟩
  meanwhile _ _ _ rooted := ⟨rooted.tree, rooted.current, rooted.bound⟩

theorem execute_rooted (limits : Limits) (file : Option String) (source : String)
    (machine : Machine) (rooted : machine.Rooted) :
    (Session.execute limits file source machine).2.Rooted ∧
      ∀ report, (Session.execute limits file source machine).1 = .reported report →
        ∀ value ∈ report.results, (Session.execute limits file source machine).2.Owns value :=
  tree_lasting.executed limits file source machine rooted

theorem idle_rooted (machine : Machine) (idle : Session.Idle machine) : machine.Rooted :=
  tree_lasting.idle machine idle

theorem visited_rooted (place : Machine) (visited : Session.Visited place) : place.Rooted :=
  tree_lasting.visited place visited

-- The shape of the scopes as a whole. A search for a name goes outwards until it finds the name or
-- there is nothing outside; reading, assigning and asking for a name all search like this.
structure Machine.ScopeTree (machine : Machine) : Prop where
  current : machine.current < machine.scopes.size
  outermost : ∀ scope < machine.scopes.size,
    (∀ outer, ¬ machine.scopes.Inside scope outer) ↔ scope = 0
  ends : ∀ scope < machine.scopes.size, Relation.ReflTransGen machine.scopes.Inside scope 0
  acyclic : ∀ scope, ¬ Relation.TransGen machine.scopes.Inside scope scope
  searched : ∀ scope < machine.scopes.size, ∀ name,
    machine.scopes.Finds name scope (machine.scopes.owner? scope name)
  root : ∀ scope < machine.scopes.size, machine.scopes.root scope = 0
  global : ∀ scope < machine.scopes.size, ∀ name,
    machine.scopes.global? scope name = machine.scopes.local? 0 name
  captured : ∀ scope value, machine.scopes.Holds scope value →
    ∀ captured, value.Captures captured → captured < machine.scopes.size

theorem rooted_scopes (machine : Machine) (rooted : machine.Rooted) : machine.ScopeTree where
  current := rooted.current
  outermost scope known := by
    constructor
    · intro none
      refine Classical.byContradiction fun inner => ?_
      obtain ⟨outer, inside⟩ := rooted.tree.inside scope (Nat.pos_of_ne_zero inner) known
      exact none outer inside
    · rintro rfl outer
      exact Scopes.global_outermost rooted.tree outer
  ends scope known := Scopes.leads_to_global rooted.tree scope known
  acyclic scope within := Nat.lt_irrefl scope (Scopes.outside_older rooted.tree scope scope within)
  searched scope known name := Scopes.finds_owner rooted.tree name scope known
  root scope known := Scopes.root_global rooted.tree scope known
  global scope known name := by
    rw [Scopes.global?, Scopes.root_global rooted.tree scope known]
  captured scope value holds := rooted.bound scope value holds

theorem scopes_form_tree :
    (∀ machine, Session.Visited machine → machine.ScopeTree) ∧
      ∀ limits file source machine report, Session.Idle machine →
        (Session.execute limits file source machine).1 = .reported report →
        ∀ value ∈ report.results, ∀ captured, value.Captures captured →
          captured < (Session.execute limits file source machine).2.scopes.size := by
  constructor
  · intro machine visited
    exact rooted_scopes machine (visited_rooted machine visited)
  · intro limits file source machine report idle reported value member
    have rooted := idle_rooted machine idle
    exact (execute_rooted limits file source machine rooted).2 report reported value member

theorem closure_keeps_call_scope :
    let machine := start Settings.standard ⟨[]⟩ "2024-02-29"
    let source := "LET next = (f -> (x -> f(x)))(y -> y)"
    let after := (Session.execute ⟨50, 50⟩ none source machine).2
    (after.scopes.local? 0 "next").bind Value.scope? = some 1 ∧ after.scopes.size = 2 ∧
      after.ScopeTree := by
  intro machine source after
  have visited : Session.Visited after := .idle after (.executed _ _ _ machine (.start _ _ _))
  have grown : (after.scopes.local? 0 "next").bind Value.scope? = some 1 ∧ after.scopes.size = 2 := by
    decide +kernel
  exact ⟨grown.1, grown.2, scopes_form_tree.1 after visited⟩

end Fiscal
