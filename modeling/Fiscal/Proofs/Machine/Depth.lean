import Fiscal.Proofs.Machine.Statement

set_option autoImplicit false

namespace Fiscal

open Machine

namespace Law

variable {law : Law} {machine : Machine}

namespace Parts

theorem exhausted (law : Law) : law.Parts .exhausted .exhausted where
  evaluate _ _ _ := .throw _ law.tooDeep
  execute _ _ _ := .throw _ law.tooDeep
  call _ _ _ _ _ _ := .throw _ law.tooDeep

theorem deepen {parts other : Evaluator} (keeps : law.Parts parts other) (rounds : Nat)
    (taken : law.TakesFaults) (faults : law.AllowsFaults) :
    law.Parts (parts.deepen rounds) (other.deepen rounds) where
  evaluate expr _ code := Follows.expression keeps expr code fun fault _ => faults fault
  execute stmt _ code := Follows.statement keeps rounds stmt code fun fault _ => faults fault
  call callee arguments name _ heldCallee held :=
    Follows.call keeps callee arguments name (fun _ => taken) heldCallee held

theorem ofDepth (rounds depth : Nat) (taken : law.TakesFaults) (faults : law.AllowsFaults) :
    law.Parts (.ofDepth rounds depth) (.ofDepth rounds depth) := by
  induction depth with
  | zero => exact exhausted law
  | succ depth ih => exact ih.deepen rounds taken faults

theorem answer {parts other : Evaluator} (keeps : law.Parts parts other) (task : Task)
    (asked : law.Asks machine task) :
    law.Follows task.declares law.HoldsOutcome machine (parts.answer task) (other.answer task) := by
  cases task with
  | evaluate expr =>
      exact (keeps.evaluate expr machine asked).bind fun _ _ _ held => .pure _ fun _ => held
  | execute stmt => exact keeps.execute stmt machine asked
  | call callee arguments name =>
      exact (keeps.call callee arguments name machine asked.1 asked.2).bind fun _ _ _ held =>
        .pure _ fun _ => held

end Parts

-- One level of the recursion, for laws that let only some faults pass.
theorem Follows.performed {parts other : Evaluator} (keeps : law.Parts parts other) (rounds : Nat)
    (task : Task) (asked : law.Asks machine task)
    (taken : (∃ builtin arguments name, task = .call (.builtin builtin) arguments name) →
      law.TakesFaults)
    (allowed : law.Allows parts task machine) :
    law.Follows task.declares law.HoldsOutcome machine ((parts.deepen rounds).answer task)
      ((other.deepen rounds).answer task) := by
  cases task with
  | evaluate expr =>
      exact (expression keeps expr asked allowed).bind fun _ _ _ held => .pure _ fun _ => held
  | execute stmt => exact statement keeps rounds stmt asked allowed
  | call callee arguments name =>
      have builtin : (∃ builtin, callee = .builtin builtin) → law.TakesFaults := by
        rintro ⟨builtin, rfl⟩
        exact taken ⟨builtin, arguments, name, rfl⟩
      exact (call keeps callee arguments name builtin asked.1 asked.2).bind fun _ _ _ held =>
        .pure _ fun _ => held

theorem names_free (_span : Source.Span) (columns : Named Expr) (_asked : True) : columns.names.Nodup ∨ True :=
  .inr trivial

def free (fails stops : Failure → Prop) (issues : ∀ issue span, fails (.issue issue span))
    (tooDeep : fails .tooDeep) (unfinished : fails .unfinished)
    (stopped : ∀ span failure, stops failure → stops (failure.located span)) : Law where
  sound _ := True
  holds _ _ := True
  expr _ := True
  stmt _ := True
  fails := fails
  stops := stops
  loose := True
  kept _ _ _ _ _ := ⟨trivial, fun _ _ => trivial⟩
  entered _ _ _ _ := ⟨trivial, fun _ _ => trivial⟩
  anywhere _ _ _ _ := trivial
  found _ _ _ _ _ _ := trivial
  simple _ _ _ := trivial
  list _ _ := ⟨fun _ _ _ => trivial, fun _ => trivial⟩
  object _ _ := ⟨fun _ _ _ => trivial, fun _ => trivial⟩
  table _ _ _ _ _ := trivial
  tableNames _ _ _ := .inr trivial
  literalNames := names_free
  portfolio _ _ _ _ _ _ := trivial
  ledger _ _ _ := trivial
  lambda _ _ _ _ _ _ _ _ := trivial
  function _ _ _ _ _ _ _ _ _ := trivial
  block _ _ _ _ _ := trivial
  lambdaBody _ _ _ := trivial
  functionBody _ _ _ _ _ := trivial
  blockBody _ _ _ _ _ := trivial
  children _ _ _ _ := trivial
  expressions _ _ _ _ := trivial
  statements _ _ _ _ := trivial
  unplaced issue := issues issue none
  atExpr _ issue _ := issues issue _
  atStmt _ issue _ := issues issue _
  atHolding _ _ _ issue _ _ _ := issues issue _
  tooDeep := tooDeep
  unfinished := unfinished
  stopped := stopped

theorem free_asks {fails stops : Failure → Prop} {issues : ∀ issue span, fails (.issue issue span)}
    {tooDeep : fails .tooDeep} {unfinished : fails .unfinished}
    {stopped : ∀ span failure, stops failure → stops (failure.located span)}
    (machine : Machine) (task : Task) :
    (free fails stops issues tooDeep unfinished stopped).Asks machine task := by
  cases task with
  | evaluate | execute => exact trivial
  | call => exact ⟨trivial, fun _ _ => trivial⟩

theorem ends_moves {α : Type} {declares : Bool} {good : Machine → α → Prop}
    (result : EStateM.Result Failure Machine α) (ends : law.Ends declares good machine result) :
    Moves law.holds declares machine (final result) := by
  cases result with
  | ok _ _ => exact ends.1
  | error _ _ => exact ends.1

end Law

def Law.anything : Law :=
  .free (fun _ => True) (fun _ => False) (fun _ _ => trivial) trivial trivial
    fun _ _ stopped => stopped

theorem Law.Parts.ofLimits (limits : Limits) :
    Law.anything.Parts (.ofLimits limits) (.ofLimits limits) :=
  .ofDepth limits.rounds limits.depth (fun _ _ stopped => stopped) fun _ => trivial

theorem answer_moves (limits : Limits) (task : Task) (machine : Machine) :
    Moves (fun _ _ => True) task.declares machine
      (final ((Evaluator.ofLimits limits).answer task machine)) := by
  have follows := (Law.Parts.ofLimits limits).answer task (Law.free_asks machine task)
  exact Law.ends_moves _ (follows.ends trivial)

theorem keeps_anything (rounds depth : Nat) :
    Law.anything.Parts (.ofDepth rounds depth) (.ofDepth rounds depth) :=
  Law.Parts.ofLimits ⟨depth, rounds⟩

theorem follows_current {α : Type} {declares : Bool} {good : Machine → α → Prop} {machine after : Machine}
    {action : Eval α} {value : α}
    (follows : Law.anything.Follows declares good machine action action)
    (ran : action machine = .ok value after) : after.current = machine.current := by
  have ends := follows.ends trivial
  rw [ran] at ends
  exact moves_current declares machine after ends.1

def Law.deepening : Law :=
  .free (fun _ => True) (fun failure => failure = .tooDeep) (fun _ _ => trivial) trivial trivial fun _ _ stopped => by
    rw [stopped]
    rfl

theorem deepening_throws {α : Type} {declares : Bool} {good : Machine → α → Prop} {machine : Machine}
    {other : Eval α} : Law.deepening.Follows declares good machine (throw .tooDeep) other :=
  ⟨fun _ => .inr rfl, fun _ => ⟨.rest _ _, trivial⟩⟩

theorem deepening_exhausted (other : Evaluator) : Law.deepening.Parts .exhausted other where
  evaluate _ _ _ := deepening_throws
  execute _ _ _ := deepening_throws
  call _ _ _ _ _ _ := deepening_throws

theorem deepening_deepen {parts other : Evaluator} (keeps : Law.deepening.Parts parts other) (rounds : Nat) :
    Law.deepening.Parts (parts.deepen rounds) (other.deepen rounds) :=
  keeps.deepen rounds (fun _ _ stopped => by cases stopped) fun _ => trivial

theorem deepening_parts (rounds depth : Nat) :
    Law.deepening.Parts (.ofDepth rounds depth) (.ofDepth rounds (depth + 1)) := by
  induction depth with
  | zero => exact deepening_exhausted _
  | succ depth ih => exact deepening_deepen ih rounds

theorem evaluate_deeper {rounds depth more : Nat} (deeper : depth ≤ more) {expr : Expr} {machine after : Machine}
    {value : Value} (ran : (Evaluator.ofDepth rounds depth).evaluate expr machine = .ok value after) :
    (Evaluator.ofDepth rounds more).evaluate expr machine = .ok value after := by
  induction deeper with
  | refl => exact ran
  | @step more _ ih =>
      have agrees := ((deepening_parts rounds more).evaluate expr machine trivial).agrees trivial
      rw [ih] at agrees
      rcases agrees with same | stopped
      · exact same.symm
      · exact stopped.elim

def Evaluator.AlikeOff (parts other : Evaluator) (asked : Task → Machine → Prop) : Prop :=
  ∀ task machine, ¬ asked task machine → other.answer task machine = parts.answer task machine

-- With other answers of its parts in place of some, the task would end differently.
def Needs (rounds : Nat) (parts : Evaluator) (asked : Task → Machine → Prop) (task : Task)
    (machine : Machine) : Prop :=
  ∃ other, parts.AlikeOff other asked ∧
    (other.deepen rounds).answer task machine ≠ (parts.deepen rounds).answer task machine

-- A task performed at some depth performs itself, and what the parts it needs perform one depth
-- below.
inductive Performs (rounds : Nat) : Nat → Task → Machine → Task → Machine → Prop where
  | self (depth : Nat) (task : Task) (machine : Machine) :
      Performs rounds depth task machine task machine
  | part (depth : Nat) (task : Task) (machine : Machine) (part : Task) (middle : Machine)
      (inner : Task) (place : Machine)
      (needed : Needs rounds (.ofDepth rounds depth)
        (fun asked other => asked = part ∧ other = middle) task machine)
      (within : Performs rounds depth part middle inner place) :
      Performs rounds (depth + 1) task machine inner place

theorem done_same_iff (action other : Eval Value) (machine : Machine) :
    (do return Outcome.done (← action) : Eval Outcome) machine =
      (do return Outcome.done (← other) : Eval Outcome) machine ↔ action machine = other machine := by
  change EStateM.bind action _ machine = EStateM.bind other _ machine ↔ _
  unfold EStateM.bind
  constructor
  · intro same
    cases first : action machine with
    | ok value after =>
        cases second : other machine with
        | ok _ _ =>
            rw [first, second] at same
            cases same
            rfl
        | error _ _ =>
            rw [first, second] at same
            cases same
    | error failure after =>
        cases second : other machine with
        | ok _ _ =>
            rw [first, second] at same
            cases same
        | error _ _ =>
            rw [first, second] at same
            cases same
            rfl
  · intro same
    rw [same]

namespace Law

variable {law : Law}

theorem stops_done (action : Eval Value) (machine : Machine)
    (stopped : law.Stops ((do return Outcome.done (← action) : Eval Outcome) machine)) :
    law.Stops (action machine) := by
  change law.Stops (EStateM.bind action _ machine) at stopped
  unfold EStateM.bind at stopped
  cases ran : action machine with
  | ok value after =>
      rw [ran] at stopped
      exact stopped
  | error failure after =>
      rw [ran] at stopped
      exact stopped

theorem Parts.alike {parts other : Evaluator} {asked : Task → Machine → Prop}
    (keeps : law.Parts parts parts) (alike : parts.AlikeOff other asked)
    (stops : ∀ task machine, law.sound machine → law.Asks machine task → asked task machine →
      law.Stops (parts.answer task machine)) : law.Parts parts other where
  evaluate expr machine code := by
    refine ⟨fun sound => ?_, (keeps.evaluate expr machine code).ends⟩
    by_cases replaced : asked (.evaluate expr) machine
    · exact .inr (stops_done _ _ (stops (.evaluate expr) machine sound code replaced))
    · exact .inl ((done_same_iff _ _ machine).mp (alike _ machine replaced).symm)
  execute stmt machine code := by
    refine ⟨fun sound => ?_, (keeps.execute stmt machine code).ends⟩
    by_cases replaced : asked (.execute stmt) machine
    · exact .inr (stops (.execute stmt) machine sound code replaced)
    · exact .inl (alike _ machine replaced).symm
  call callee arguments name machine heldCallee held := by
    refine ⟨fun sound => ?_, (keeps.call callee arguments name machine heldCallee held).ends⟩
    by_cases replaced : asked (.call callee arguments name) machine
    · have asks : law.Asks machine (.call callee arguments name) := ⟨heldCallee, held⟩
      exact .inr (stops_done _ _ (stops _ machine sound asks replaced))
    · exact .inl ((done_same_iff _ _ machine).mp (alike _ machine replaced).symm)

theorem needs_sound (taken : law.TakesFaults) (faults : law.AllowsFaults) (rounds : Nat)
    (parts : Evaluator) (keeps : law.Parts parts parts) (task : Task) (machine : Machine)
    (part : Task) (middle : Machine) (sound : law.sound machine) (asked : law.Asks machine task)
    (never : ∀ failure, ¬ law.stops failure)
    (needed : Needs rounds parts (fun asked other => asked = part ∧ other = middle) task machine) :
    law.sound middle ∧ law.Asks middle part := by
  obtain ⟨other, alike, differs⟩ := needed
  refine Classical.byContradiction fun unasked => ?_
  -- Where the law does not ask for the part, another answer keeps the law, and so the outcome.
  have replaced : law.Parts parts other := by
    refine keeps.alike alike fun inner place soundPlace askedInner same => ?_
    rw [same.1, same.2] at askedInner
    rw [same.2] at soundPlace
    exact absurd ⟨soundPlace, askedInner⟩ unasked
  have performed := Follows.performed replaced rounds task asked (fun _ => taken)
    (fun fault _ => faults fault)
  rcases performed.agrees sound with same | stopped
  · exact differs same.symm
  · cases ended : (parts.deepen rounds).answer task machine with
    | ok value after =>
        rw [ended] at stopped
        exact stopped
    | error failure after =>
        rw [ended] at stopped
        exact never failure stopped

theorem performs_sound (taken : law.TakesFaults) (faults : law.AllowsFaults)
    (never : ∀ failure, ¬ law.stops failure) (rounds depth : Nat) (task : Task) (machine : Machine)
    (inner : Task) (place : Machine)
    (performs : Performs rounds depth task machine inner place) (sound : law.sound machine)
    (asked : law.Asks machine task) : law.sound place ∧ law.Asks place inner := by
  induction performs with
  | self => exact ⟨sound, asked⟩
  | part depth task machine part middle inner place needed _ ih =>
      have keeps : law.Parts (.ofDepth rounds depth) (.ofDepth rounds depth) :=
        .ofDepth rounds depth taken faults
      obtain ⟨soundMiddle, askedPart⟩ := needs_sound taken faults rounds _ keeps task machine part
        middle sound asked never needed
      exact ih soundMiddle askedPart

end Law

end Fiscal
