import Fiscal.Machine.Run
import Fiscal.Proofs.Machine.Law

/-!
Translations of one machine into another. The second machine has the same values as the first one, but
for the numbers of scopes, ledgers and functions and for the bodies of functions and scenarios, which are
rewritten. What the language reads off a value does not depend on any of these.
-/

set_option autoImplicit false

namespace Fiscal

open Machine

namespace Stmt

def onBodies (rewrite : Block → Block) : Stmt → Stmt
  | block body => block (rewrite body)
  | choose span condition body branches otherwise =>
      choose span condition (rewrite body)
        (branches.map fun branch => ⟨branch.span, branch.condition, rewrite branch.body⟩)
        (otherwise.map rewrite)
  | repeatWhile span condition body => repeatWhile span condition (rewrite body)
  | forRange span counter first last step body => forRange span counter first last step (rewrite body)
  | forEach span item items body => forEach span item items (rewrite body)
  | function span name parameters body => function span name parameters (rewrite body)
  | scenario span name body => scenario span name (rewrite body)
  | other => other

inductive Rewritten (omits : Prop) (rewrite : Block → Block) : List Stmt → List Stmt → Prop where
  | nil : Rewritten omits rewrite [] []
  | keep (stmt : Stmt) (rest others : List Stmt) (later : Rewritten omits rewrite rest others) :
      Rewritten omits rewrite (stmt :: rest) (stmt.onBodies rewrite :: others)
  | leave (span : Source.Span) (message : String) (rest others : List Stmt) (allowed : omits)
      (later : Rewritten omits rewrite rest others) : Rewritten omits rewrite (invalid span message :: rest) others

theorem onBodies_span {rewrite : Block → Block} (spans : ∀ body, (rewrite body).span = body.span)
    (stmt : Stmt) : (stmt.onBodies rewrite).span = stmt.span := by
  cases stmt with
  | block body => exact spans body
  | _ => rfl

theorem onBodies_id (stmt : Stmt) : stmt.onBodies id = stmt := by
  cases stmt with
  | choose span condition body branches otherwise => simp [onBodies]
  | _ => rfl

theorem Rewritten.same (omits : Prop) (stmts : List Stmt) : Rewritten omits id stmts stmts := by
  induction stmts with
  | nil => exact .nil
  | cons stmt rest ih =>
      have kept := Rewritten.keep stmt rest rest ih
      rwa [onBodies_id] at kept

end Stmt

-- What a translation does to numbers, bodies and values, when two machines are translations of each
-- other, and the reasons why they stay so. The law tells what the run on the first machine knows.
structure Translation where
  law : Law
  scopes : Nat → Nat
  ledgers : Nat → Nat
  functions : Nat → Nat
  body : Block → Block
  value : Value → Value
  Pairs : Machine → Machine → Prop
  fails (failure : Failure) : law.fails failure
  code (expr : Expr) : law.expr expr
  loose : law.loose
  omits : Prop
  simple (plain : Value) : plain.isSimple = true → value plain = plain
  table (grid : Table) : value (.table grid) = .table grid
  portfolio (built : Portfolio) : value (.portfolio built) = .portfolio built
  list (items : List Value) : value (.list items) = .list (items.map value)
  object (fields : Named Value) :
    value (.object fields) = .object (fields.map fun field => (field.1, value field.2))
  ledger (account : Nat) : value (.ledger account) = .ledger (ledgers account)
  function (declared : UserFunction) : value (.function declared) =
    .function ⟨functions declared.identity, declared.name, declared.parameters, body declared.body,
      scopes declared.scope⟩
  lambda (made : Lambda) : value (.lambda made) =
    .lambda ⟨functions made.identity, made.parameters, made.body, scopes made.scope⟩
  block (kept : Block) : value (.block kept) = .block (body kept)
  apart : Function.Injective functions
  spans (whole : Block) : (body whole).span = whole.span
  rewritten (whole : Block) : Stmt.Rewritten omits body whole.statements (body whole).statements
  bodies (machine : Machine) (first second : Block) : law.holds machine (.block first) →
    law.holds machine (.block second) →
    (Stmt.bodyOutline (body first)).same (Stmt.bodyOutline (body second)) =
      (Stmt.bodyOutline first).same (Stmt.bodyOutline second)
  current (machine twin : Machine) : Pairs machine twin → twin.current = scopes machine.current
  entries (machine twin : Machine) : Pairs machine twin →
    ∀ account, twin.ledgers.entries (ledgers account) = machine.ledgers.entries account
  given (machine twin : Machine) : Pairs machine twin →
    twin.files = machine.files ∧ twin.settings = machine.settings ∧ twin.today = machine.today
  found (machine twin : Machine) (scope : Nat) : law.sound machine → Pairs machine twin →
    Relation.ReflTransGen machine.scopes.Inside machine.current scope →
    twin.scopes[scopes scope]? = machine.scopes[scope]?.map fun found =>
      ⟨found.bindings.map fun binding => (binding.1, value binding.2), found.parent.map scopes⟩
  chain (machine twin : Machine) (scope : Nat) : law.sound machine → Pairs machine twin →
    Relation.ReflTransGen machine.scopes.Inside machine.current scope →
    twin.scopes.chain (scopes scope) = (machine.scopes.chain scope).map scopes
  bound (machine twin : Machine) (owner : Nat) (name : String) (held : Value) : law.sound machine →
    Pairs machine twin → Relation.ReflTransGen machine.scopes.Inside machine.current owner →
    law.holds machine held →
    Pairs (machine.binding owner name held) (twin.binding (scopes owner) name (value held))
  entered (machine twin : Machine) (outer : Nat) : law.sound machine → Pairs machine twin →
    MayEnter law.holds machine outer → Pairs (machine.entering outer) (twin.entering (scopes outer))
  returned (machine twin inner other : Machine) : Pairs machine twin → Pairs inner other →
    Pairs (inner.returning machine.current) (other.returning twin.current)
  written (machine twin : Machine) (line : String) : Pairs machine twin →
    Pairs { machine with output := line :: machine.output } { twin with output := line :: twin.output }
  counted (machine twin : Machine) : Pairs machine twin →
    twin.functions = functions machine.functions ∧
      Pairs { machine with functions := machine.functions + 1 } { twin with functions := twin.functions + 1 }
  opened (machine twin : Machine) : Pairs machine twin →
    twin.ledgers.size = ledgers machine.ledgers.size ∧
      Pairs { machine with ledgers := machine.ledgers.push [] } { twin with ledgers := twin.ledgers.push [] }
  posted (machine twin : Machine) (account : Nat) (entry : Entry) : Pairs machine twin →
    Pairs { machine with ledgers := machine.ledgers.post account entry }
      { twin with ledgers := twin.ledgers.post (ledgers account) entry }
  stored (machine twin : Machine) (files : Files) : Pairs machine twin →
    Pairs { machine with files := files } { twin with files := files }

namespace Translation

variable (move : Translation)

def named (fields : Named Value) : Named Value := fields.map fun field => (field.1, move.value field.2)

@[simp] theorem value_list (items : List Value) : move.value (.list items) = .list (items.map move.value) :=
  move.list items

@[simp] theorem value_object (fields : Named Value) : move.value (.object fields) = .object (move.named fields) :=
  move.object fields

@[simp] theorem value_null : move.value .null = .null := move.simple _ rfl

@[simp] theorem value_number (x : Float) : move.value (.number x) = .number x := move.simple _ rfl

@[simp] theorem value_text (text : String) : move.value (.text text) = .text text := move.simple _ rfl

@[simp] theorem value_bool (truth : Bool) : move.value (.bool truth) = .bool truth := move.simple _ rfl

@[simp] theorem value_cashflow (flows : List Float) : move.value (.cashflow flows) = .cashflow flows :=
  move.simple _ rfl

@[simp] theorem value_entry (entry : Entry) : move.value (.entry entry) = .entry entry := move.simple _ rfl

@[simp] theorem value_builtin (builtin : Builtin) : move.value (.builtin builtin) = .builtin builtin :=
  move.simple _ rfl

attribute [simp] table portfolio ledger function lambda block

theorem map_value_simple {α : Type} (items : List α) (make : α → Value)
    (simple : ∀ item, (make item).isSimple = true) : (items.map make).map move.value = items.map make := by
  rw [List.map_map]
  exact List.map_congr_left fun item _ => move.simple _ (simple item)

theorem value_numbers (numbers : List Float) : move.value (.numbers numbers) = .numbers numbers := by
  rw [Value.numbers, value_list, map_value_simple _ _ _ fun _ => rfl]

@[simp] theorem kindName_value (value : Value) : (move.value value).kindName = value.kindName := by
  cases value <;> simp [Value.kindName]

@[simp] theorem isTruthy_value (value : Value) : (move.value value).isTruthy = value.isTruthy := by
  cases value <;> simp [Value.isTruthy]

@[simp] theorem isCallable_value (value : Value) : (move.value value).isCallable = value.isCallable := by
  cases value <;> simp [Value.isCallable]

@[simp] theorem mustBe_value {α : Type} (what wanted : String) (value : Value) :
    ((move.value value).mustBe what wanted : Except Failure α) = value.mustBe what wanted := by
  simp [Value.mustBe]

theorem asNumber_value (what : String) (value : Value) :
    (move.value value).asNumber what = value.asNumber what := by
  cases value <;> simp [Value.asNumber, Value.mustBe, Value.kindName]

theorem asInt_value (what : String) (value : Value) : (move.value value).asInt what = value.asInt what := by
  simp [Value.asInt, asNumber_value]

theorem asText_value (what : String) (value : Value) :
    (move.value value).asText what = value.asText what := by
  cases value <;> simp [Value.asText, Value.mustBe, Value.kindName]

theorem asTable_value (what : String) (value : Value) :
    (move.value value).asTable what = value.asTable what := by
  cases value <;> simp [Value.asTable, Value.mustBe, Value.kindName]

theorem itemNumbers_values (what : String) (index : Nat) (items : List Value) :
    Value.itemNumbers what index (items.map move.value) = Value.itemNumbers what index items := by
  induction items generalizing index with
  | nil => rfl
  | cons item rest ih =>
      cases item <;> simp [Value.itemNumbers, Value.kindName, ih]

theorem asNumbers_value (what : String) (value : Value) :
    (move.value value).asNumbers what = value.asNumbers what := by
  cases value with
  | list items =>
      rw [value_list]
      exact move.itemNumbers_values what 0 items
  | _ => simp [Value.asNumbers, Value.mustBe, Value.kindName]

theorem asList_value (what : String) (value : Value) :
    (move.value value).asList what = (value.asList what).map (List.map move.value) := by
  cases value <;> simp [Value.asList, Value.mustBe, Value.kindName, Except.map]

theorem asCallable_value (what : String) (value : Value) :
    (move.value value).asCallable what = (value.asCallable what).map move.value := by
  unfold Value.asCallable
  rw [isCallable_value, mustBe_value]
  by_cases callable : value.isCallable = true
  · rw [if_pos callable, if_pos callable]
    rfl
  · rw [if_neg callable, if_neg callable]
    rfl

theorem get?_named (fields : Named Value) (name : String) :
    (move.named fields).get? name = (fields.get? name).map move.value :=
  Named.get?_map move.value fields name

def SameEntries (ledgers others : Ledgers) : Prop :=
  ∀ account, others.entries (move.ledgers account) = ledgers.entries account

section Entries

variable {move} {ledgers others : Ledgers}

mutual

theorem shown_value (entries : move.SameEntries ledgers others) (value : Value) :
    (move.value value).shown others = value.shown ledgers := by
  cases value with
  | list items =>
      rw [value_list]
      exact congrArg (fun texts => "[" ++ String.intercalate ", " texts ++ "]") (shown_values entries items)
  | object fields =>
      have none : (move.named fields).isEmpty = fields.isEmpty := by cases fields <;> rfl
      rw [value_object]
      change (if (move.named fields).isEmpty then "\x7b\x7d"
        else "\x7b " ++ String.intercalate ", " (Value.shownFields others (move.named fields)) ++ " \x7d") = _
      rw [shown_named entries fields, none]
      rfl
  | ledger account =>
      rw [move.ledger]
      change "LEDGER(" ++ toString (others.entries (move.ledgers account)).length ++ " entries)" = _
      rw [entries account]
      rfl
  | function | lambda | block | table | portfolio =>
      simp only [move.function, move.lambda, move.block, move.table, move.portfolio]
      rfl
  | null | number | text | bool | cashflow | entry | builtin =>
      rw [move.simple _ rfl]
      rfl

theorem shown_values (entries : move.SameEntries ledgers others) (items : List Value) :
    Value.shownAll others (items.map move.value) = Value.shownAll ledgers items := by
  cases items with
  | nil => rfl
  | cons item rest =>
      rw [List.map_cons, Value.shownAll, Value.shownAll, shown_value entries item, shown_values entries rest]

theorem shown_named (entries : move.SameEntries ledgers others) (fields : Named Value) :
    Value.shownFields others (move.named fields) = Value.shownFields ledgers fields := by
  cases fields with
  | nil => rfl
  | cons field rest =>
      have others := shown_named entries rest
      unfold named at others ⊢
      rw [List.map_cons, Value.shownFields, Value.shownFields, shown_value entries field.2, others]

end

mutual

theorem same_value {machine : Machine} (entries : move.SameEntries ledgers others) (left right : Value)
    (first : move.law.holds machine left) (second : move.law.holds machine right) :
    (move.value left).same others (move.value right) = left.same ledgers right := by
  cases left with
  | list items =>
      cases right with
      | list rest =>
          rw [value_list, value_list, Value.same, Value.same]
          exact same_values entries items rest ((move.law.list _ _).mp first) ((move.law.list _ _).mp second)
      | _ => simp [Value.same]
  | object fields =>
      cases right with
      | object rest =>
          have each := same_named entries fields rest ((move.law.object _ _).mp first) ((move.law.object _ _).mp second)
          have count : ∀ fields : Named Value, (move.named fields).length = fields.length := fun fields =>
            List.length_map _
          rw [value_object, value_object, Value.same, Value.same, each, count, count]
      | _ => simp [Value.same]
  | ledger account =>
      cases right with
      | ledger other => rw [move.ledger, move.ledger, Value.same, Value.same, entries account, entries other]
      | _ => simp [Value.same]
  | function declared =>
      cases right with
      | function other =>
          rw [move.function, move.function]
          exact Bool.eq_iff_iff.mpr (by simp [Value.same, move.apart.eq_iff])
      | _ => simp [Value.same]
  | lambda made =>
      cases right with
      | lambda other =>
          rw [move.lambda, move.lambda]
          exact Bool.eq_iff_iff.mpr (by simp [Value.same, move.apart.eq_iff])
      | _ => simp [Value.same]
  | block kept =>
      cases right with
      | block other =>
          rw [move.block, move.block, Value.same, Value.same]
          exact move.bodies machine kept other first second
      | _ => simp [Value.same]
  | _ => cases right <;> simp [Value.same]

theorem same_values {machine : Machine} (entries : move.SameEntries ledgers others) (items rest : List Value)
    (first : ∀ item ∈ items, move.law.holds machine item) (second : ∀ item ∈ rest, move.law.holds machine item) :
    Value.sameItems others (items.map move.value) (rest.map move.value) = Value.sameItems ledgers items rest := by
  cases items with
  | nil => cases rest <;> rfl
  | cons item items =>
      cases rest with
      | nil => rfl
      | cons other rest =>
          obtain ⟨knownItem, knownItems⟩ := List.forall_mem_cons.mp first
          obtain ⟨knownOther, knownRest⟩ := List.forall_mem_cons.mp second
          rw [List.map_cons, List.map_cons, Value.sameItems, Value.sameItems,
            same_value entries item other knownItem knownOther, same_values entries items rest knownItems knownRest]

theorem same_named {machine : Machine} (entries : move.SameEntries ledgers others) (fields rest : Named Value)
    (first : ∀ field ∈ fields, move.law.holds machine field.2)
    (second : ∀ field ∈ rest, move.law.holds machine field.2) :
    Value.sameFields others (move.named fields) (move.named rest) = Value.sameFields ledgers fields rest := by
  cases fields with
  | nil => rfl
  | cons field fields =>
      obtain ⟨name, item⟩ := field
      obtain ⟨knownItem, knownFields⟩ := List.forall_mem_cons.mp first
      have later := same_named entries fields rest knownFields second
      change ((match Named.get? (move.named rest) name with
        | some other => (move.value item).same others other
        | none => false) && Value.sameFields others (move.named fields) (move.named rest)) = _
      rw [get?_named, Value.sameFields, later]
      cases found : Named.get? rest name with
      | none => rfl
      | some other =>
          have known : move.law.holds machine other := second _ (Named.mem_of_get? rest name other found)
          rw [Option.map_some]
          dsimp only
          rw [same_value entries item other knownItem known]

end

end Entries

end Translation

end Fiscal

namespace Fiscal.Translation

open Machine

variable {move : Translation} {machine twin : Machine} {scope : Nat} (sound : move.law.sound machine)
  (pairs : move.Pairs machine twin)
  (around : Relation.ReflTransGen machine.scopes.Inside machine.current scope)

include sound pairs around

theorem local_place (name : String) :
    twin.scopes.local? (move.scopes scope) name = (machine.scopes.local? scope name).map move.value := by
  unfold Scopes.local?
  rw [move.found machine twin scope sound pairs around]
  cases machine.scopes[scope]? with
  | none => rfl
  | some found => exact move.get?_named found.bindings name

theorem binds_place (name : String) :
    twin.scopes.binds name (move.scopes scope) = machine.scopes.binds name scope := by
  rw [Scopes.binds, local_place sound pairs around name, Option.isSome_map, Scopes.binds]

theorem owner_place (name : String) :
    twin.scopes.owner? (move.scopes scope) name = (machine.scopes.owner? scope name).map move.scopes := by
  unfold Scopes.owner?
  rw [move.chain machine twin scope sound pairs around]
  have reached : ∀ other ∈ machine.scopes.chain scope,
      Relation.ReflTransGen machine.scopes.Inside machine.current other :=
    fun other member => around.trans (Scopes.chainFrom_outward _ _ _ other member)
  generalize machine.scopes.chain scope = chain at reached
  induction chain with
  | nil => rfl
  | cons inner rest ih =>
      obtain ⟨first, later⟩ := List.forall_mem_cons.mp reached
      rw [List.map_cons, List.find?_cons, List.find?_cons, binds_place sound pairs first name, ih later]
      cases machine.scopes.binds name inner <;> rfl

theorem get_place (name : String) :
    twin.scopes.get? (move.scopes scope) name = (machine.scopes.get? scope name).map move.value := by
  unfold Scopes.get?
  rw [owner_place sound pairs around name]
  cases owned : machine.scopes.owner? scope name with
  | none => rfl
  | some owner =>
      exact local_place sound pairs (around.trans (Scopes.owner_outward _ _ owner name owned)) name

theorem contains_place (name : String) :
    twin.scopes.contains (move.scopes scope) name = machine.scopes.contains scope name := by
  rw [Scopes.contains, owner_place sound pairs around name, Option.isSome_map, Scopes.contains]

theorem global_place (name : String) :
    twin.scopes.global? (move.scopes scope) name = (machine.scopes.global? scope name).map move.value := by
  have root : twin.scopes.root (move.scopes scope) = move.scopes (machine.scopes.root scope) := by
    unfold Scopes.root
    rw [move.chain machine twin scope sound pairs around, List.getLast?_map]
    cases (machine.scopes.chain scope).getLast? <;> rfl
  unfold Scopes.global?
  rw [root]
  exact local_place sound pairs (around.trans (Scopes.root_outward _ scope)) name

theorem outer_place (name : String) :
    twin.scopes.outer? (move.scopes scope) name = (machine.scopes.outer? scope name).map move.value := by
  unfold Scopes.outer?
  rw [move.found machine twin scope sound pairs around]
  cases access : machine.scopes[scope]? with
  | none => rfl
  | some found =>
      obtain ⟨bindings, parent⟩ := found
      cases parent with
      | none => rfl
      | some outer =>
          have inside : machine.scopes.Inside scope outer := by
            rw [Scopes.Inside, access]
            rfl
          exact get_place sound pairs (around.tail inside) name

end Fiscal.Translation
