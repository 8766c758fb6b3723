import Fiscal.Proofs.Session.Made
import Fiscal.Proofs.Value.Table
import Fiscal.Proofs.Grammar.OriginStatement
import Fiscal.Proofs.Session.Composition

set_option autoImplicit false

namespace Fiscal

open Machine

structure Code where
  expr : Expr → Prop
  stmt : Stmt → Prop
  children (whole : Expr) : expr whole → ∀ child ∈ whole.children, expr child
  expressions (whole : Stmt) : stmt whole → ∀ child ∈ whole.expressions, expr child
  statements (whole : Stmt) : stmt whole → ∀ inner ∈ whole.statements, stmt inner
  names (span : Source.Span) (columns : Named Expr) : expr (.table span columns) → columns.names.Nodup

namespace Code

variable (code : Code)

inductive Marks : Source.Span → Prop where
  | expr (whole : Expr) (member : code.expr whole) : Marks whole.span
  | stmt (whole : Stmt) (member : code.stmt whole) : Marks whole.span
  | holding (span : Source.Span) (name : String) (holdings : List Posting) (holding : Posting)
      (member : code.stmt (.portfolio span name holdings)) (among : holding ∈ holdings) : Marks holding.span

def Admits : Value → Prop
  | .table grid => grid.WellFormed
  | .lambda made => code.expr made.body
  | .function declared => ∀ inner ∈ declared.body.statements, code.stmt inner
  | .block body => ∀ inner ∈ body.statements, code.stmt inner
  | _ => True

variable {code}

theorem admits_simple {value : Value} (simple : value.isSimple = true) : code.Admits value := by
  cases value with
  | null | number | text | bool | cashflow | entry | builtin => exact trivial
  | list | table | portfolio | ledger | function | lambda | block | object => cases simple

end Code

-- Machines hold values that carry the code, and issues are placed at its nodes.
def Law.authored (code : Code) : Law :=
  { Law.anything with
    sound := Filled code.Admits
    holds := fun _ value => value.Throughout code.Admits
    expr := code.expr
    stmt := code.stmt
    fails := fun failure => ∀ issue span, failure = .issue issue (some span) → code.Marks span
    loose := False
    kept := fun declares machine after filled moved =>
      ⟨moves_filled declares machine after moved filled, fun _ holds => holds⟩
    entered := fun machine outer filled _ => ⟨filled_entering machine outer filled, fun _ holds => holds⟩
    anywhere := fun _ _ _ holds => holds
    found := fun _ scope value filled _ holds => filled scope value holds
    simple := fun _ _ simple =>
      Value.throughout_single (Value.single_of_simple simple) (Code.admits_simple simple)
    list := fun _ items => Value.throughout_list items trivial
    object := fun _ fields => Value.throughout_object fields trivial
    table := fun _ _ _ distinct built =>
      Value.throughout_single rfl (Table.build_wellFormed (distinct.resolve_right id) built)
    tableNames := fun _ grid holds => .inl (holds (.table grid) (.self _)).1
    literalNames := fun span columns member => .inl (code.names span columns member)
    portfolio := fun _ _ _ _ _ _ => Value.throughout_single rfl trivial
    ledger := fun _ _ _ => Value.throughout_single rfl trivial
    lambda := fun _ _ _ _ body _ _ member =>
      Value.throughout_single rfl (code.children _ member body List.mem_cons_self)
    function := fun _ _ _ _ _ _ _ _ member => Value.throughout_single rfl (code.statements _ member)
    block := fun _ _ _ _ member => Value.throughout_single rfl (code.statements _ member)
    lambdaBody := fun _ made holds => holds (.lambda made) (.self _)
    functionBody := fun _ declared holds => holds (.function declared) (.self _)
    blockBody := fun _ body holds => holds (.block body) (.self _)
    children := code.children
    expressions := code.expressions
    statements := code.statements
    unplaced := fun _ _ _ same => by cases same
    atExpr := fun whole _ member _ _ same => by
      cases same
      exact .expr whole member
    atStmt := fun whole _ member _ _ same => by
      cases same
      exact .stmt whole member
    atHolding := fun span name holdings _ member holding among _ _ same => by
      cases same
      exact .holding span name holdings holding member among
    tooDeep := fun _ _ same => by cases same
    unfinished := fun _ _ same => by cases same }

theorem Law.authored_faults (code : Code) : (Law.authored code).AllowsFaults :=
  fun _ _ _ same => by cases same

theorem Law.authored_parts (code : Code) (limits : Limits) :
    (Law.authored code).Parts (.ofLimits limits) (.ofLimits limits) :=
  .ofDepth limits.rounds limits.depth (fun _ _ stopped => stopped) (Law.authored_faults code)

def Task.given : Task → List Value
  | call callee arguments _ => callee :: arguments
  | evaluate _ | execute _ => []

def Code.tabled : Code where
  expr := Expr.Tabled
  stmt := Stmt.Tabled
  children _ tabled := tabled.children
  expressions _ tabled := tabled.parts
  statements _ tabled := tabled.within
  names span columns tabled := tabled.once span columns rfl

namespace Session

theorem read_tabled {settings : Settings} {file : Option String} {source : String} {reading : Reading}
    (found : read settings file source = .ok reading) : ∀ stmt ∈ reading.program.statements, stmt.Tabled := by
  obtain ⟨stream, scanned, rfl⟩ := read_cases.mp found
  exact (Grammar.parse_faithful settings.maxErrors _ (Grammar.scanned_ends scanned)).2

-- The values that are held at some time: bound in a scope, given to a task or its answer, or among the
-- results of an execution.
inductive Held : Value → Prop where
  | bound (machine : Machine) (scope : Nat) (value : Value) (visited : Visited machine)
      (holds : machine.scopes.Holds scope value) : Held value
  | given (limits : Limits) (task : Task) (place : Machine) (value : Value)
      (performed : Performed limits task place) (member : value ∈ task.given) : Held value
  | answered (limits : Limits) (depth : Nat) (task : Task) (place after : Machine) (outcome : Outcome)
      (performed : Performed limits task place)
      (answered : (Evaluator.ofDepth limits.rounds depth).answer task place = .ok outcome after) :
      Held outcome.value
  | reported (limits : Limits) (file : Option String) (source : String) (machine : Machine)
      (report : Report) (value : Value) (idle : Idle machine)
      (reported : (execute limits file source machine).1 = .reported report)
      (member : value ∈ report.results) : Held value

end Session

theorem tabled_lasting : Session.Lasting (Law.authored .tabled) where
  taken _ _ stopped := stopped
  faults := Law.authored_faults .tabled
  never _ stopped := stopped
  code _ _ _ _ found := Session.read_tabled found
  start settings files today := start_filled settings files today fun _ => trivial
  ready _ _ filled := filled
  meanwhile _ _ _ filled := filled

theorem held_admitted {value : Value} (held : Session.Held value) : value.Throughout Code.tabled.Admits := by
  cases held with
  | bound machine scope _ visited holds => exact tabled_lasting.visited machine visited scope value holds
  | given limits task place _ performed member =>
      have asked := (tabled_lasting.performed performed).2
      cases task with
      | call callee arguments name => exact (List.forall_mem_cons.mpr asked) value member
      | evaluate | execute => cases member
  | answered limits depth task place after outcome performed answered =>
      have ⟨sound, asked⟩ := tabled_lasting.performed performed
      have keeps := Law.Parts.ofDepth limits.rounds depth tabled_lasting.taken tabled_lasting.faults
      have ends := (keeps.answer task asked).ends sound
      rw [answered] at ends
      exact ends.2
  | reported limits file source machine report _ idle reported member =>
      have executed := tabled_lasting.executed limits file source machine (tabled_lasting.idle machine idle)
      exact executed.2 report reported value member

-- Wherever a table is held, be it inside lists or objects, its columns have distinct names and one length,
-- and every row up to the number of rows has a cell in each of them.
theorem tables_well_formed (value : Value) (grid : Table) (held : Session.Held value)
    (part : value.Part (.table grid)) : grid.WellFormed ∧ grid.Full := by
  have wellFormed : grid.WellFormed := held_admitted held (.table grid) part
  exact ⟨wellFormed, wellFormed.full⟩

theorem Value.listed_table {holds : Table → Prop} (found : Option Value) (names : List String) (rows : Nat)
    (same : (found.any fun value => match value with
      | .list [.table grid] => grid.columns.names == names && grid.rowCount == rows
      | _ => false) = true) (all : ∀ grid, found = some (.list [.table grid]) → holds grid) :
    ∃ grid, found = some (.list [.table grid]) ∧ grid.columns.names = names ∧ grid.rowCount = rows ∧ holds grid := by
  cases found with
  | none => cases same
  | some value =>
      dsimp only [Option.any] at same
      split at same
      · rename_i grid
        obtain ⟨one, other⟩ := Bool.and_eq_true_iff.mp same
        exact ⟨grid, rfl, eq_of_beq one, eq_of_beq other, all grid rfl⟩
      · cases same

theorem table_through_builtins_well_formed :
    let machine := start .standard ⟨[]⟩ "2024-02-29"
    let source := "LET t = TABLE(a: [0, 8, 9], b: [4, 5, 6])\n" ++
      "LET u = table_join(table_filter(t, 'a', x -> x > 1), TABLE(c: [7, 8], b: [1, 2]))\n" ++
      "LET kept = [column_apply(u, 'b', x -> x * 2)]"
    let after := (Session.execute ⟨50, 50⟩ none source machine).2
    ∃ grid, after.scopes.local? 0 "kept" = some (.list [.table grid]) ∧
      grid.columns.names = ["a", "b", "c"] ∧ grid.rowCount = 2 ∧ grid.WellFormed ∧ grid.Full := by
  refine Value.listed_table _ ["a", "b", "c"] 2 (by decide +kernel) fun grid found => ?_
  have held : Session.Held (.list [.table grid]) :=
    .bound _ 0 _ (.idle _ (.executed _ _ _ _ (.start _ _ _))) (Scopes.holds_of_local _ _ _ _ found)
  have part : (Value.list [.table grid]).Part (.table grid) :=
    .item _ (.table grid) _ List.mem_cons_self (.self _)
  exact tables_well_formed _ grid held part

end Fiscal
