import Fiscal.Proofs.Machine.Breaks
import Fiscal.Proofs.Machine.Faults

set_option autoImplicit false

namespace Fiscal

open Machine

def Task.span? : Task → Option Source.Span
  | evaluate expr => some expr.span
  | execute stmt => some stmt.span
  | call _ _ _ => none

namespace Evaluator

def rule (rounds : Nat) (parts : Evaluator) : Task → Eval Outcome
  | .evaluate expr => return .done (← expressionForm parts expr)
  | .execute stmt => statementForm parts rounds stmt
  | .call callee arguments name => return .done (← Machine.call parts callee arguments name)

noncomputable def masking (failure : Failure) (parts : Evaluator) : Evaluator :=
  parts.broken ⟨fun _ _ _ => False, fun _ task machine => ∃ after, parts.answer task machine = .error failure after⟩ 0

end Evaluator

inductive Raises (rounds : Nat) (parts : Evaluator) (issue : Source.Issue) (span : Source.Span) (task : Task)
    (machine : Machine) : Prop where
  | placed (after : Machine)
      (raised : (parts.masking (.issue issue (some span))).rule rounds task machine =
        .error (.issue issue (some span)) after) : Raises rounds parts issue span task machine
  | unplaced (after : Machine)
      (raised : (parts.masking (.issue issue (some span))).rule rounds task machine =
        .error (.issue issue none) after)
      (around : task.span? = some span) : Raises rounds parts issue span task machine

-- The issue comes up in the task, or in one of the parts that it needs.
def Arises (rounds : Nat) (issue : Source.Issue) (span : Source.Span) : Nat → Task → Machine → Prop
  | 0, _, _ => False
  | depth + 1, task, machine =>
      Raises rounds (.ofDepth rounds depth) issue span task machine ∨
        Needs rounds (.ofDepth rounds depth) (Arises rounds issue span depth) task machine

section Rules

variable {rounds : Nat} {parts : Evaluator} {task : Task} {machine after : Machine} {issue : Source.Issue}
  {span : Source.Span}

theorem done_failed_iff (action : Eval Value) (failure : Failure) :
    (do return Outcome.done (← action) : Eval Outcome) machine = .error failure after ↔
      action machine = .error failure after := by
  change EStateM.bind action _ machine = _ ↔ _
  unfold EStateM.bind
  cases action machine with
  | ok value last =>
      constructor <;> intro failed <;> cases failed
  | error other last =>
      constructor
      · intro failed
        cases failed
        rfl
      · intro failed
        cases failed
        rfl

theorem located_failed_iff {α : Type} (around : Source.Span) (action : Eval α) :
    Eval.located around action machine = .error (.issue issue (some span)) after ↔
      action machine = .error (.issue issue (some span)) after ∨
        action machine = .error (.issue issue none) after ∧ around = span := by
  unfold Eval.located
  cases action machine with
  | ok value last =>
      constructor
      · intro failed
        cases failed
      · rintro (failed | ⟨failed, _⟩) <;> cases failed
  | error failure last =>
      cases failure with
      | issue own known =>
          cases known with
          | none =>
              constructor
              · intro failed
                cases failed
                exact .inr ⟨rfl, rfl⟩
              · rintro (failed | ⟨failed, rfl⟩)
                · cases failed
                · cases failed
                  rfl
          | some known =>
              constructor
              · intro failed
                cases failed
                exact .inl rfl
              · rintro (failed | ⟨failed, _⟩)
                · cases failed
                  rfl
                · cases failed
      | fault | tooDeep | unfinished =>
          constructor
          · intro failed
            cases failed
          · rintro (failed | ⟨failed, _⟩) <;> cases failed

theorem issue_of_rule (parts : Evaluator) :
    (parts.deepen rounds).answer task machine = .error (.issue issue (some span)) after ↔
      parts.rule rounds task machine = .error (.issue issue (some span)) after ∨
        parts.rule rounds task machine = .error (.issue issue none) after ∧ task.span? = some span := by
  cases task with
  | evaluate expr =>
      refine (done_failed_iff _ _).trans ((located_failed_iff expr.span (expressionForm parts expr)).trans ?_)
      rw [Evaluator.rule, done_failed_iff, done_failed_iff, Task.span?, Option.some_inj]
  | execute stmt =>
      refine (located_failed_iff stmt.span (statementForm parts rounds stmt)).trans ?_
      rw [Evaluator.rule, Task.span?, Option.some_inj]
  | call callee arguments name =>
      refine ⟨.inl, ?_⟩
      rintro (failed | ⟨_, impossible⟩)
      · exact failed
      · cases impossible

theorem unplaced_of_call (depth : Nat)
    (failed : (Evaluator.ofDepth rounds depth).answer task machine = .error (.issue issue none) after) :
    task.span? = none := by
  have placed {α : Type} (around : Source.Span) (action : Eval α) :
      Eval.located around action machine ≠ .error (.issue issue none) after := by
    unfold Eval.located
    cases action machine with
    | ok => exact fun failed => by cases failed
    | error failure last =>
        cases failure with
        | issue own known => cases known <;> exact fun failed => by cases failed
        | fault | tooDeep | unfinished => exact fun failed => by cases failed
  cases task with
  | call => rfl
  | evaluate expr =>
      have raised := (done_failed_iff ((Evaluator.ofDepth rounds depth).evaluate expr) _).mp failed
      cases depth with
      | zero => cases raised
      | succ depth => exact absurd raised (placed expr.span _)
  | execute stmt =>
      cases depth with
      | zero => cases stmt <;> cases failed
      | succ depth => exact absurd failed (placed stmt.span (statementForm (.ofDepth rounds depth) rounds stmt))

end Rules

theorem unless_takes {failure : Failure} {settled : ∀ span, failure.located span = failure}
    (apart : ∀ fault, Failure.fault fault ≠ failure) : (Law.unless failure settled).TakesFaults :=
  fun _ fault stopped => absurd stopped (apart fault)

section Masking

variable (rounds : Nat) (parts : Evaluator) (keeps : Law.anything.Parts parts parts) (failure : Failure)

theorem masking_answer (task : Task) (machine : Machine)
    (other : ∀ after, parts.answer task machine ≠ .error failure after) :
    (parts.masking failure).answer task machine = parts.answer task machine := by
  rw [Evaluator.masking, Evaluator.answer_broken, Eval.broken, if_neg id,
    if_neg (not_exists.mpr other)]

include keeps

theorem masking_parts : (Law.unless .tooDeep fun _ => rfl).Parts (parts.masking failure) parts := by
  have hides {α : Type} {declares : Bool} {good : Machine → α → Prop} {machine : Machine} {action : Eval α}
      (after : Machine → Prop) (follows : Law.anything.Follows declares good machine action action) :
      (Law.unless .tooDeep fun _ => rfl).Follows declares good machine
        (action.broken (fun _ => False) after) action := by
    have ends := (follows.broken (fun _ => False) after).ends trivial
    refine ⟨fun _ => ?_, fun _ => ?_⟩
    · rcases broken_cases (fun _ => False) after action machine with ⟨_, stopped⟩ | ⟨same, _⟩ | ⟨same, _⟩
      · exact stopped.elim
      · rw [same]
        exact .inr rfl
      · exact .inl same
    · cases ran : action.broken (fun _ => False) after machine with
      | ok | error =>
          rw [ran] at ends
          exact ends
  exact {
    evaluate := fun expr machine code => hides _ (keeps.evaluate expr machine code)
    execute := fun stmt machine code => hides _ (keeps.execute stmt machine code)
    call := fun callee arguments name machine heldCallee held =>
      hides _ (keeps.call callee arguments name machine heldCallee held) }

theorem masking_performed (task : Task) (machine after : Machine) (ended : Failure) (deep : ended ≠ .tooDeep)
    (failed : ((parts.masking failure).deepen rounds).answer task machine = .error ended after) :
    (parts.deepen rounds).answer task machine = .error ended after := by
  have performed := Law.Follows.performed (masking_parts parts keeps failure) rounds task
    (Law.free_asks machine task) (fun _ => unless_takes fun _ same => by cases same) fun _ _ => trivial
  rcases performed.agrees trivial with same | stopped
  · rw [← same]
    exact failed
  · rw [failed] at stopped
    exact absurd stopped deep

end Masking

section Issues

variable (rounds : Nat) (issue : Source.Issue) (span : Source.Span)

theorem raises_or_needs (parts : Evaluator) (task : Task) (machine after : Machine)
    (failed : (parts.deepen rounds).answer task machine = .error (.issue issue (some span)) after) :
    Raises rounds parts issue span task machine ∨
      Needs rounds parts (fun inner place => ∃ after, parts.answer inner place =
        .error (.issue issue (some span)) after) task machine := by
  by_cases same : ((parts.masking (.issue issue (some span))).deepen rounds).answer task machine =
      (parts.deepen rounds).answer task machine
  · rw [failed] at same
    rcases (issue_of_rule _).mp same with placed | ⟨unplaced, around⟩
    · exact .inl (.placed after placed)
    · exact .inl (.unplaced after unplaced around)
  · refine .inr ⟨parts.masking (.issue issue (some span)), fun inner place quiet => ?_, same⟩
    exact masking_answer parts _ inner place fun after failed => quiet ⟨after, failed⟩

theorem raises_fails (parts : Evaluator) (keeps : Law.anything.Parts parts parts) (task : Task)
    (machine : Machine) (raises : Raises rounds parts issue span task machine) :
    ∃ after, (parts.deepen rounds).answer task machine = .error (.issue issue (some span)) after := by
  cases raises with
  | placed after raised =>
      exact ⟨after, masking_performed rounds parts keeps _ task machine after _ (by simp)
        ((issue_of_rule _).mpr (.inl raised))⟩
  | unplaced after raised around =>
      exact ⟨after, masking_performed rounds parts keeps _ task machine after _ (by simp)
        ((issue_of_rule _).mpr (.inr ⟨raised, around⟩))⟩

theorem needs_fails (parts : Evaluator) (keeps : Law.anything.Parts parts parts)
    (asked : Task → Machine → Prop) (task : Task) (machine : Machine)
    (fails : ∀ inner place, asked inner place →
      ∃ after, parts.answer inner place = .error (.issue issue (some span)) after)
    (needed : Needs rounds parts asked task machine) :
    ∃ after, (parts.deepen rounds).answer task machine = .error (.issue issue (some span)) after := by
  obtain ⟨other, alike, differs⟩ := needed
  have replaced : (Law.unless (.issue issue (some span)) fun _ => rfl).Parts parts other := by
    refine (unless_parts (.issue issue (some span)) _ parts keeps).alike alike fun inner place _ _ within => ?_
    obtain ⟨after, failed⟩ := fails inner place within
    rw [failed]
    exact rfl
  have performed := Law.Follows.performed replaced rounds task (Law.free_asks machine task)
    (fun _ => unless_takes fun _ same => by cases same) fun _ _ => trivial
  rcases performed.agrees trivial with same | stopped
  · exact absurd same.symm differs
  · cases ended : (parts.deepen rounds).answer task machine with
    | ok value after =>
        rw [ended] at stopped
        exact stopped.elim
    | error failure after =>
        rw [ended] at stopped
        exact ⟨after, congrArg (EStateM.Result.error · after) stopped⟩

theorem arises_iff (depth : Nat) (task : Task) (machine : Machine) :
    Arises rounds issue span depth task machine ↔
      ∃ after, (Evaluator.ofDepth rounds depth).answer task machine = .error (.issue issue (some span)) after := by
  induction depth generalizing task machine with
  | zero =>
      constructor
      · exact False.elim
      · rintro ⟨after, failed⟩
        cases task with
        | execute stmt => cases stmt <;> cases failed
        | evaluate | call => cases failed
  | succ depth ih =>
      have keeps := Law.Parts.ofLimits ⟨depth, rounds⟩
      have same : Arises rounds issue span depth = fun inner place => ∃ after,
          (Evaluator.ofDepth rounds depth).answer inner place = .error (.issue issue (some span)) after :=
        funext fun inner => funext fun place => propext (ih inner place)
      constructor
      · rintro (raises | needed)
        · exact raises_fails rounds issue span _ keeps task machine raises
        · exact needs_fails rounds issue span _ keeps _ task machine (fun inner place => (ih inner place).mp) needed
      · rintro ⟨after, failed⟩
        rw [Arises, same]
        exact raises_or_needs rounds issue span (.ofDepth rounds depth) task machine after failed

end Issues

end Fiscal
