import Fiscal.Proofs.Machine.Depth
import Fiscal.Session

/-!
The machines of a session: those between executions, and those on which tasks are performed within
an execution. What a law asks holds along the statements of a program.
-/

set_option autoImplicit false

namespace Fiscal

open Machine

theorem Machine.start_holds {settings : Settings} {files : Files} {today : String} {scope : Nat} {value : Value}
    (holds : (start settings files today).scopes.Holds scope value) : ∃ builtin, value = .builtin builtin := by
  obtain ⟨found, name, access, member⟩ := holds
  cases scope with
  | succ scope => cases access
  | zero =>
      cases access
      obtain ⟨builtin, _, same⟩ := List.mem_map.mp member
      cases same
      exact ⟨builtin, rfl⟩

namespace Session

def ready (source : String) (machine : Machine) : Machine :=
  { machine with output := [], lines := Text.lines source }

-- The machines between executions. Files and the date may change in the meantime.
inductive Idle : Machine → Prop where
  | start (settings : Settings) (files : Files) (today : String) :
      Idle (.start settings files today)
  | executed (limits : Limits) (file : Option String) (source : String) (machine : Machine)
      (idle : Idle machine) : Idle (execute limits file source machine).2
  | meanwhile (files : Files) (today : String) (machine : Machine) (idle : Idle machine) :
      Idle { machine with files := files, today := today }

-- A statement of a program with the machine on which it is executed.
inductive Reaches (evaluator : Evaluator) : List Stmt → Machine → Stmt → Machine → Prop where
  | here (stmt : Stmt) (rest : List Stmt) (machine : Machine) :
      Reaches evaluator (stmt :: rest) machine stmt machine
  | later (first : Stmt) (rest : List Stmt) (machine after : Machine) (value : Value) (stmt : Stmt)
      (before : Machine) (ran : evaluator.execute first machine = .ok (.done value) after)
      (reaches : Reaches evaluator rest after stmt before) :
      Reaches evaluator (first :: rest) machine stmt before

-- The machines between executions and within them.
inductive Visited : Machine → Prop where
  | idle (machine : Machine) (idle : Idle machine) : Visited machine
  | within (limits : Limits) (file : Option String) (source : String) (machine : Machine)
      (reading : Reading) (stmt : Stmt) (before : Machine) (task : Task) (place : Machine)
      (idle : Idle machine) (found : read machine.settings file source = .ok reading)
      (reaches : Reaches (.ofLimits limits) reading.program.statements (ready source machine) stmt
        before)
      (performs : Performs limits.rounds limits.depth (.execute stmt) before task place) :
      Visited place

inductive Performed (limits : Limits) : Task → Machine → Prop where
  | within (file : Option String) (source : String) (machine : Machine) (reading : Reading) (stmt : Stmt)
      (before : Machine) (task : Task) (place : Machine) (idle : Idle machine)
      (found : read machine.settings file source = .ok reading)
      (reaches : Reaches (.ofLimits limits) reading.program.statements (ready source machine) stmt before)
      (performs : Performs limits.rounds limits.depth (.execute stmt) before task place) :
      Performed limits task place

-- The values that a session comes by: bound in a scope, just computed, or a result of an execution.
inductive Yields : Machine → Value → Prop where
  | bound (machine : Machine) (scope : Nat) (value : Value) (visited : Visited machine)
      (holds : machine.scopes.Holds scope value) : Yields machine value
  | computed (limits : Limits) (expr : Expr) (machine after : Machine) (value : Value)
      (visited : Visited machine)
      (evaluated : (Evaluator.ofLimits limits).evaluate expr machine = .ok value after) :
      Yields after value
  | reported (limits : Limits) (file : Option String) (source : String) (machine : Machine)
      (report : Report) (value : Value) (idle : Idle machine)
      (reported : (execute limits file source machine).1 = .reported report)
      (member : value ∈ report.results) : Yields (execute limits file source machine).2 value

theorem execute_failed (limits : Limits) (file : Option String) (source : String)
    (machine : Machine) (fault : Fault) (failed : read machine.settings file source = .error fault) :
    execute limits file source machine = (.escaped fault, machine) := by
  rw [execute, failed]

theorem execute_run (limits : Limits) (file : Option String) (source : String) (machine : Machine)
    (reading : Reading) (found : read machine.settings file source = .ok reading) :
    execute limits file source machine =
      let run := runAll (.ofLimits limits) reading.program.statements (ready source machine)
      (conclude reading run.1 run.2.2 run.2.1, run.2.2) := by
  rw [execute, found]
  rfl

theorem conclude_results (reading : Reading) (results : List Value) (machine : Machine)
    (failure : Option Failure) (report : Report)
    (reported : conclude reading results machine failure = .reported report) :
    report.results = results := by
  cases failure with
  | none =>
      cases reported
      rfl
  | some failure =>
      cases failure <;> cases reported <;> rfl

theorem runAll_cons (evaluator : Evaluator) (stmt : Stmt) (rest : List Stmt) (machine : Machine) :
    runAll evaluator (stmt :: rest) machine =
      match evaluator.execute stmt machine with
      | .error failure after => ([], some failure, after)
      | .ok (.returned value) after => ([value], none, after)
      | .ok (.done value) after =>
          let run := runAll evaluator rest after
          (value :: run.1, run.2.1, run.2.2) := rfl

theorem runAll_keeps (law : Law) (evaluator : Evaluator) (keeps : law.Parts evaluator evaluator)
    (stmts : List Stmt) (code : ∀ stmt ∈ stmts, law.stmt stmt) (machine : Machine)
    (sound : law.sound machine) :
    let run := runAll evaluator stmts machine
    Moves law.holds true machine run.2.2 ∧ law.HoldsAll run.2.2 run.1 := by
  induction stmts generalizing machine with
  | nil => exact ⟨.rest _ _, fun value member => by cases member⟩
  | cons stmt rest ih =>
      obtain ⟨first, others⟩ := List.forall_mem_cons.mp code
      have ends := (keeps.execute stmt machine first).declared.ends sound
      rw [runAll_cons]
      cases ran : evaluator.execute stmt machine with
      | error failure after =>
          rw [ran] at ends
          exact ⟨ends.1, fun value member => by cases member⟩
      | ok outcome after =>
          rw [ran] at ends
          obtain ⟨moved, held⟩ := ends
          cases outcome with
          | returned value =>
              refine ⟨moved, fun other member => ?_⟩
              cases List.mem_singleton.mp member
              exact held
          | done value =>
              have later := law.kept true machine after sound moved
              obtain ⟨movedOn, heldAll⟩ := ih others after later.1
              refine ⟨.trans _ _ _ _ moved movedOn, List.forall_mem_cons.mpr ⟨?_, heldAll⟩⟩
              exact (law.kept true after _ later.1 movedOn).2 value held

theorem reaches_keeps (law : Law) (evaluator : Evaluator) (keeps : law.Parts evaluator evaluator)
    (stmts : List Stmt) (machine : Machine) (stmt : Stmt) (before : Machine)
    (reaches : Reaches evaluator stmts machine stmt before)
    (code : ∀ stmt ∈ stmts, law.stmt stmt) (sound : law.sound machine) :
    law.sound before ∧ law.stmt stmt := by
  induction reaches with
  | here stmt rest machine => exact ⟨sound, code stmt List.mem_cons_self⟩
  | later first rest machine after value stmt before ran _ ih =>
      obtain ⟨head, others⟩ := List.forall_mem_cons.mp code
      have ends := (keeps.execute first machine head).declared.ends sound
      rw [ran] at ends
      exact ih others (law.kept true machine after sound ends.1).1

structure Lasting (law : Law) : Prop where
  taken : law.TakesFaults
  faults : law.AllowsFaults
  never : ∀ failure, ¬ law.stops failure
  code : ∀ settings file source reading, read settings file source = .ok reading →
    ∀ stmt ∈ reading.program.statements, law.stmt stmt
  start : ∀ settings files today, law.sound (.start settings files today)
  ready : ∀ source machine, law.sound machine → law.sound (ready source machine)
  meanwhile : ∀ files today machine, law.sound machine →
    law.sound { machine with files := files, today := today }

namespace Lasting

variable {law : Law}

theorem parts (lasting : Lasting law) (limits : Limits) :
    law.Parts (.ofLimits limits) (.ofLimits limits) :=
  .ofDepth limits.rounds limits.depth lasting.taken lasting.faults

theorem executed (lasting : Lasting law) (limits : Limits) (file : Option String) (source : String)
    (machine : Machine) (sound : law.sound machine) :
    law.sound (execute limits file source machine).2 ∧
      ∀ report, (execute limits file source machine).1 = .reported report →
        law.HoldsAll (execute limits file source machine).2 report.results := by
  cases found : read machine.settings file source with
  | error fault =>
      rw [execute_failed limits file source machine fault found]
      refine ⟨sound, fun report reported => ?_⟩
      cases reported
  | ok reading =>
      rw [execute_run limits file source machine reading found]
      have begun := lasting.ready source machine sound
      obtain ⟨moved, held⟩ := runAll_keeps law _ (lasting.parts limits) reading.program.statements
        (lasting.code _ file source reading found) _ begun
      refine ⟨(law.kept true _ _ begun moved).1, fun report reported => ?_⟩
      rw [conclude_results _ _ _ _ report reported]
      exact held

theorem idle (lasting : Lasting law) (machine : Machine) (idle : Idle machine) : law.sound machine := by
  induction idle with
  | start settings files today => exact lasting.start settings files today
  | executed limits file source machine _ sound =>
      exact (lasting.executed limits file source machine sound).1
  | meanwhile files today machine _ sound => exact lasting.meanwhile files today machine sound

theorem performed (lasting : Lasting law) {limits : Limits} {task : Task} {place : Machine}
    (performed : Performed limits task place) : law.sound place ∧ law.Asks place task := by
  obtain ⟨file, source, machine, reading, stmt, before, _, _, idle, found, reaches, performs⟩ := performed
  have begun := lasting.ready source machine (lasting.idle machine idle)
  have reached := reaches_keeps law _ (lasting.parts limits) _ _ stmt before reaches
    (lasting.code _ file source reading found) begun
  exact Law.performs_sound lasting.taken lasting.faults lasting.never _ _
    (.execute stmt) before task place performs reached.1 reached.2

theorem visited (lasting : Lasting law) (place : Machine) (visited : Visited place) :
    law.sound place := by
  cases visited with
  | idle _ idle => exact lasting.idle place idle
  | within limits file source machine reading stmt before task _ idle found reaches performs =>
      exact (lasting.performed (.within file source machine reading stmt before task place idle found
        reaches performs)).1

end Lasting

end Session

theorem runAll_current (limits : Limits) (stmts : List Stmt) (machine : Machine) :
    (Session.runAll (.ofLimits limits) stmts machine).2.2.current = machine.current := by
  have keeps := Law.Parts.ofLimits limits
  have run := Session.runAll_keeps _ _ keeps stmts (fun _ _ => trivial) machine trivial
  exact moves_current true machine _ run.1

theorem idle_current (machine : Machine) (idle : Session.Idle machine) : machine.current = 0 := by
  induction idle with
  | start => rfl
  | meanwhile _ _ _ _ same => exact same
  | executed limits file source machine _ same =>
      cases found : Session.read machine.settings file source with
      | error fault =>
          rw [Session.execute_failed limits file source machine fault found]
          exact same
      | ok reading =>
          rw [Session.execute_run limits file source machine reading found]
          exact (runAll_current limits reading.program.statements _).trans same

-- Statements, expressions and calls leave the current scope as it was however they end, so that it
-- is the global one between executions.
theorem current_scope_restored (limits : Limits) :
    (∀ task machine,
      (final ((Evaluator.ofLimits limits).answer task machine)).current = machine.current) ∧
      ∀ machine, Session.Idle machine → machine.current = 0 := by
  constructor
  · intro task machine
    exact moves_current _ _ _ (answer_moves limits task machine)
  · exact idle_current

theorem failed_call_leaves_global_scope :
    let machine := start Settings.standard ⟨[]⟩ "2024-02-29"
    let after := (Session.execute ⟨50, 50⟩ none "MAP([1, 0], x -> 1 / x)" machine).2
    after.scopes.size = 3 ∧ after.current = 0 := by
  intro machine after
  have idle : Session.Idle after := .executed _ _ _ machine (.start _ _ _)
  exact ⟨by decide +kernel, (current_scope_restored ⟨50, 50⟩).2 after idle⟩

-- No name gets lost, and only declarations bind new ones, which is in the current scope.
theorem bound_names_framed (limits : Limits) (task : Task) (machine : Machine) (scope : Nat)
    (old : scope < machine.scopes.size) :
    let after := final ((Evaluator.ofLimits limits).answer task machine)
    machine.scopes.namesAt scope <+: after.scopes.namesAt scope ∧
      (scope ≠ machine.current ∨ task.declares = false →
        after.scopes.namesAt scope = machine.scopes.namesAt scope) := by
  have moved := answer_moves limits task machine
  constructor
  · exact moves_names_kept _ _ _ moved scope old
  · intro quiet
    exact moves_names_quiet _ _ _ moved scope old quiet.symm

theorem loop_leaves_global_names :
    let machine := start Settings.standard ⟨[]⟩ "2024-02-29"
    let loop : Stmt := .forEach default "item" (.list default [.literal default .null])
      ⟨default, [.define default "copy" (.name default "item")]⟩
    let after := final ((Evaluator.ofLimits ⟨50, 50⟩).answer (.execute loop) machine)
    0 < machine.scopes.size ∧ after.scopes.namesAt 1 = ["item", "copy"] ∧
      after.scopes.namesAt 0 = machine.scopes.namesAt 0 := by
  intro machine loop after
  have old : 0 < machine.scopes.size := Nat.zero_lt_one
  refine ⟨old, by decide +kernel, ?_⟩
  exact (bound_names_framed ⟨50, 50⟩ (.execute loop) machine 0 old).2 (.inr rfl)

end Fiscal
