import Fiscal.Machine.Call
import Fiscal.Proofs.Machine.Moves
import Fiscal.Proofs.Program.Parts
import Fiscal.Proofs.Scope.Binding
import Fiscal.Proofs.Scope.Tree

/-!
Laws of runs, and the computations that follow them. A computation follows a law if, from every
sound machine, it only moves as it may, its results have what the law asks of values, and it fails
only as it may. Two computations follow a law together if they also end alike.
-/

set_option autoImplicit false

namespace Fiscal

open Machine

namespace Value

def isSimple : Value → Bool
  | null | number _ | text _ | bool _ | cashflow _ | entry _ | builtin _ => true
  | list _ | table _ | portfolio _ | ledger _ | function _ | lambda _ | block _ | object _ => false

end Value

-- What a law asks of machines, values, code and failures, with the reasons why runs can keep it.
-- After a failure in `stops` two computations that follow it together may end differently. A law that
-- is not loose asks for distinct names of the columns of tables.
structure Law where
  sound : Machine → Prop
  holds : Machine → Value → Prop
  expr : Expr → Prop
  stmt : Stmt → Prop
  fails : Failure → Prop
  stops : Failure → Prop
  loose : Prop
  kept (declares : Bool) (machine after : Machine) : sound machine →
    Moves holds declares machine after → sound after ∧ ∀ value, holds machine value → holds after value
  entered (machine : Machine) (outer : Nat) : sound machine → MayEnter holds machine outer →
    sound (machine.entering outer) ∧
      ∀ value, holds machine value → holds (machine.entering outer) value
  anywhere (machine : Machine) (scope : Nat) (value : Value) :
    holds machine value → holds (machine.returning scope) value
  found (machine : Machine) (scope : Nat) (value : Value) :
    sound machine → Relation.ReflTransGen machine.scopes.Inside machine.current scope →
      machine.scopes.Holds scope value → holds machine value
  simple (machine : Machine) (value : Value) : value.isSimple = true → holds machine value
  list (machine : Machine) (items : List Value) :
    holds machine (.list items) ↔ ∀ item ∈ items, holds machine item
  object (machine : Machine) (fields : Named Value) :
    holds machine (.object fields) ↔ ∀ field ∈ fields, holds machine field.2
  table (machine : Machine) (columns : Named (List Float)) (grid : Table) :
    columns.names.Nodup ∨ loose → Table.build columns = .ok grid → holds machine (.table grid)
  tableNames (machine : Machine) (grid : Table) :
    holds machine (.table grid) → grid.columns.names.Nodup ∨ loose
  literalNames (span : Source.Span) (columns : Named Expr) :
    expr (.table span columns) → columns.names.Nodup ∨ loose
  portfolio (machine : Machine) (assets weights : List Float) (names : Option (List String))
    (built : Portfolio) : Portfolio.build assets weights names = .ok built →
      holds machine (.portfolio built)
  ledger (machine : Machine) (account : Nat) : account < machine.ledgers.size →
    holds machine (.ledger account)
  lambda (machine : Machine) (identity : Nat) (span : Source.Span) (parameters : List String)
    (body : Expr) : sound machine → identity < machine.functions →
      expr (.lambda span parameters body) →
      holds machine (.lambda ⟨identity, parameters, body, machine.current⟩)
  function (machine : Machine) (identity : Nat) (span : Source.Span) (name : String)
    (parameters : List String) (body : Block) : sound machine → identity < machine.functions →
      stmt (.function span name parameters body) →
      holds machine (.function ⟨identity, name, parameters, body, machine.current⟩)
  block (machine : Machine) (span : Source.Span) (name : String) (body : Block) :
    stmt (.scenario span name body) → holds machine (.block body)
  lambdaBody (machine : Machine) (made : Lambda) : holds machine (.lambda made) → expr made.body
  functionBody (machine : Machine) (declared : UserFunction) :
    holds machine (.function declared) → ∀ inner ∈ declared.body.statements, stmt inner
  blockBody (machine : Machine) (body : Block) :
    holds machine (.block body) → ∀ inner ∈ body.statements, stmt inner
  children (whole : Expr) : expr whole → ∀ child ∈ whole.children, expr child
  expressions (whole : Stmt) : stmt whole → ∀ child ∈ whole.expressions, expr child
  statements (whole : Stmt) : stmt whole → ∀ inner ∈ whole.statements, stmt inner
  unplaced (issue : Source.Issue) : fails (.issue issue none)
  atExpr (whole : Expr) (issue : Source.Issue) : expr whole → fails (.issue issue (some whole.span))
  atStmt (whole : Stmt) (issue : Source.Issue) : stmt whole → fails (.issue issue (some whole.span))
  atHolding (span : Source.Span) (name : String) (holdings : List Posting) (issue : Source.Issue) :
    stmt (.portfolio span name holdings) → ∀ holding ∈ holdings,
      fails (.issue issue (some holding.span))
  tooDeep : fails .tooDeep
  unfinished : fails .unfinished
  stopped (span : Source.Span) (failure : Failure) : stops failure → stops (failure.located span)

namespace Law

variable {α : Type} (law : Law)

def Ends (declares : Bool) (good : Machine → α → Prop) (machine : Machine) :
    EStateM.Result Failure Machine α → Prop
  | .ok value after => Moves law.holds declares machine after ∧ good after value
  | .error failure after => Moves law.holds declares machine after ∧ law.fails failure

def Stops : EStateM.Result Failure Machine α → Prop
  | .ok _ _ => False
  | .error failure _ => law.stops failure

structure Follows (declares : Bool) (good : Machine → α → Prop) (machine : Machine)
    (action other : Eval α) : Prop where
  agrees : law.sound machine → action machine = other machine ∨ law.Stops (action machine)
  ends : law.sound machine → law.Ends declares good machine (action machine)

def Any (_ : Machine) (_ : α) : Prop := True

def HoldsAll (machine : Machine) (values : List Value) : Prop :=
  ∀ value ∈ values, law.holds machine value

def HoldsOutcome (machine : Machine) (outcome : Outcome) : Prop :=
  law.holds machine outcome.value

def Distinct (names : List String) : Prop := names.Nodup ∨ law.loose

section Distinct

variable {law} {Cells : Type} {columns : Named Cells}

theorem Distinct.put (distinct : law.Distinct columns.names) (name : String) (cells : Cells) :
    law.Distinct (columns.put name cells).names :=
  distinct.imp_left (Named.nodup_put columns name cells)

theorem Distinct.putAll (distinct : law.Distinct columns.names) (additions : Named Cells) :
    law.Distinct (columns.putAll additions).names :=
  distinct.imp_left (Named.nodup_putAll columns additions)

theorem distinct_columns {machine : Machine} {value : Value} {grid : Table} (held : law.holds machine value)
    (same : value = .table grid) : law.Distinct grid.columns.names :=
  law.tableNames machine grid (same ▸ held)

end Distinct

theorem failed_at (span : Source.Span) (failure : Failure)
    (placed : ∀ issue, law.fails (.issue issue (some span))) (fails : law.fails failure) :
    law.fails (failure.located span) := by
  cases failure with
  | issue issue known =>
      cases known with
      | none => exact placed issue
      | some _ => exact fails
  | fault | tooDeep | unfinished => exact fails

end Law

namespace Law.Follows

variable {α β : Type} {law : Law} {declares : Bool} {good : Machine → α → Prop}
  {result : Machine → β → Prop} {machine : Machine}

theorem pure (value : α) (proper : law.sound machine → good machine value) :
    law.Follows declares good machine (pure value) (pure value) where
  agrees _ := .inl rfl
  ends sound := ⟨.rest _ _, proper sound⟩

theorem throw (failure : Failure) (fails : law.fails failure) :
    law.Follows declares good machine (throw failure) (throw failure) where
  agrees _ := .inl rfl
  ends _ := ⟨.rest _ _, fails⟩

theorem bindRan {action other : Eval α} {next nextOther : α → Eval β}
    (first : law.Follows declares good machine action other)
    (rest : ∀ value after, action machine = .ok value after →
      (∀ held, law.holds machine held → law.holds after held) →
      good after value → law.Follows declares result after (next value) (nextOther value)) :
    law.Follows declares result machine (action >>= next) (other >>= nextOther) := by
  constructor
  · intro sound
    have ends := first.ends sound
    have agrees := first.agrees sound
    change EStateM.bind action next machine = EStateM.bind other nextOther machine ∨
      law.Stops (EStateM.bind action next machine)
    unfold EStateM.bind
    cases ran : action machine with
    | ok value after =>
        rw [ran] at ends agrees
        have later := law.kept declares machine after sound ends.1
        rcases agrees with same | stopped
        · rw [← same]
          exact (rest value after ran later.2 ends.2).agrees later.1
        · exact False.elim stopped
    | error failure after =>
        rw [ran] at agrees
        rcases agrees with same | stopped
        · rw [← same]
          exact .inl rfl
        · exact .inr stopped
  · intro sound
    have ends := first.ends sound
    change law.Ends declares result machine (EStateM.bind action next machine)
    unfold EStateM.bind
    cases ran : action machine with
    | ok value after =>
        rw [ran] at ends
        have later := law.kept declares machine after sound ends.1
        have final := (rest value after ran later.2 ends.2).ends later.1
        dsimp only
        cases finished : next value after with
        | ok _ last =>
            rw [finished] at final
            exact ⟨.trans _ _ _ _ ends.1 final.1, final.2⟩
        | error _ last =>
            rw [finished] at final
            exact ⟨.trans _ _ _ _ ends.1 final.1, final.2⟩
    | error failure after =>
        rw [ran] at ends
        exact ends

theorem bind {action other : Eval α} {next nextOther : α → Eval β}
    (first : law.Follows declares good machine action other)
    (rest : ∀ value after, (∀ held, law.holds machine held → law.holds after held) →
      good after value → law.Follows declares result after (next value) (nextOther value)) :
    law.Follows declares result machine (action >>= next) (other >>= nextOther) :=
  bindRan first fun value after _ => rest value after

theorem get {next nextOther : Machine → Eval α}
    (rest : law.Follows declares good machine (next machine) (nextOther machine)) :
    law.Follows declares good machine (get >>= next) (get >>= nextOther) :=
  ⟨rest.agrees, rest.ends⟩

theorem assuming {action other : Eval α}
    (follows : law.sound machine → law.Follows declares good machine action other) :
    law.Follows declares good machine action other where
  agrees sound := (follows sound).agrees sound
  ends sound := (follows sound).ends sound

theorem declaring {action other : Eval α} (follows : law.Follows false good machine action other) :
    law.Follows declares good machine action other where
  agrees := follows.agrees
  ends sound := by
    have ends := follows.ends sound
    cases ran : action machine with
    | ok _ after =>
        rw [ran] at ends
        exact ⟨ends.1.declaring declares, ends.2⟩
    | error _ after =>
        rw [ran] at ends
        exact ⟨ends.1.declaring declares, ends.2⟩

theorem declared {action other : Eval α} (follows : law.Follows declares good machine action other) :
    law.Follows true good machine action other := by
  cases declares with
  | true => exact follows
  | false => exact follows.declaring

end Law.Follows

end Fiscal
