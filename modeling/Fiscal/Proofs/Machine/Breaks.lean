import Fiscal.Proofs.Machine.AdvanceRules
import Fiscal.Proofs.Machine.Depth

set_option autoImplicit false

namespace Fiscal

open Machine

-- Before and after which tasks, with so much depth left and on which machines, a run is broken off.
structure Breaks where
  before : Nat → Task → Machine → Prop
  after : Nat → Task → Machine → Prop

namespace Breaks

def none : Breaks := ⟨fun _ _ _ => False, fun _ _ _ => False⟩

structure Within (fewer more : Breaks) : Prop where
  before (depth : Nat) (task : Task) (machine : Machine) :
    fewer.before depth task machine → more.before depth task machine
  after (depth : Nat) (task : Task) (machine : Machine) :
    fewer.after depth task machine → more.after depth task machine

end Breaks

open Classical in
noncomputable def Eval.broken {α : Type} (before after : Machine → Prop) (action : Eval α) : Eval α :=
  fun machine =>
    if before machine then .error .tooDeep machine
    else if after machine then .error .tooDeep (final (action machine))
    else action machine

namespace Evaluator

noncomputable def broken (breaks : Breaks) (depth : Nat) (parts : Evaluator) : Evaluator where
  evaluate expr :=
    (parts.evaluate expr).broken (breaks.before depth (.evaluate expr)) (breaks.after depth (.evaluate expr))
  execute stmt :=
    (parts.execute stmt).broken (breaks.before depth (.execute stmt)) (breaks.after depth (.execute stmt))
  call callee arguments name :=
    (parts.call callee arguments name).broken (breaks.before depth (.call callee arguments name))
      (breaks.after depth (.call callee arguments name))

noncomputable def breaking (breaks : Breaks) (rounds : Nat) : Nat → Evaluator
  | 0 => exhausted.broken breaks 0
  | depth + 1 => ((breaking breaks rounds depth).deepen rounds).broken breaks (depth + 1)

end Evaluator

section Broken

variable {α : Type} (before after : Machine → Prop) (action : Eval α) (machine : Machine)

theorem broken_cases :
    action.broken before after machine = .error .tooDeep machine ∧ before machine ∨
      action.broken before after machine = .error .tooDeep (final (action machine)) ∧ ¬ before machine ∧
        after machine ∨
      action.broken before after machine = action machine ∧ ¬ before machine ∧ ¬ after machine := by
  unfold Eval.broken
  by_cases stopped : before machine
  · exact .inl ⟨if_pos stopped, stopped⟩
  · rw [if_neg stopped]
    by_cases late : after machine
    · exact .inr (.inl ⟨if_pos late, stopped, late⟩)
    · exact .inr (.inr ⟨if_neg late, stopped, late⟩)

theorem final_broken (unbroken : ¬ before machine) :
    final (action.broken before after machine) = final (action machine) := by
  rcases broken_cases before after action machine with ⟨_, stopped⟩ | ⟨same, _⟩ | ⟨same, _⟩
  · exact absurd stopped unbroken
  · rw [same]
    rfl
  · rw [same]

theorem done_broken (action : Eval Value) :
    (do return Outcome.done (← action.broken before after) : Eval Outcome) =
      Eval.broken before after (do return Outcome.done (← action)) := by
  funext machine
  let whole : Eval Outcome := EStateM.bind action fun value => Pure.pure (Outcome.done value)
  have left : final (whole machine) = final (action machine) := by
    change final (EStateM.bind action _ machine) = _
    unfold EStateM.bind
    cases action machine with
    | ok | error => rfl
  change EStateM.bind (action.broken before after) _ machine = whole.broken before after machine
  unfold EStateM.bind
  rcases broken_cases before after action machine with ⟨same, stopped⟩ | ⟨same, goes, late⟩ | ⟨same, goes, on⟩
  · rw [same, Eval.broken, if_pos stopped]
  · rw [same, Eval.broken, if_neg goes, if_pos late, left]
  · rw [same, Eval.broken, if_neg goes, if_neg on]
    rfl

end Broken

namespace Evaluator

theorem answer_broken (breaks : Breaks) (depth : Nat) (parts : Evaluator) (task : Task) :
    (parts.broken breaks depth).answer task =
      (parts.answer task).broken (breaks.before depth task) (breaks.after depth task) := by
  cases task with
  | execute stmt => rfl
  | evaluate expr => exact done_broken _ _ (parts.evaluate expr)
  | call callee arguments name => exact done_broken _ _ (parts.call callee arguments name)

end Evaluator

namespace Advances

variable {α : Type} {step : Ledgers → Ledgers → Prop} {action other : Eval α} {fewer more : Breaks}
  {before after earlier later : Machine → Prop}

theorem leads_broken (advances : Advances step action other) (machine : Machine) :
    Relation.ReflTransGen step machine.ledgers (final (action.broken before after machine)).ledgers := by
  rcases broken_cases before after action machine with ⟨same, _⟩ | ⟨_, unbroken, _⟩ | ⟨_, unbroken, _⟩
  · rw [same]
    exact .refl
  all_goals
    rw [final_broken before after action machine unbroken]
    exact advances.leads machine

theorem broken (advances : Advances step action other) (first : ∀ machine, before machine → earlier machine)
    (last : ∀ machine, after machine → later machine) :
    Advances step (action.broken before after) (other.broken earlier later) where
  leads := leads_broken advances
  meets machine := by
    rcases broken_cases earlier later other machine with ⟨same, _⟩ | ⟨same, early, _⟩ | ⟨same, early, late⟩
    · rw [same]
      exact .inr ⟨machine, rfl, leads_broken advances machine⟩
    · have unbroken : ¬ before machine := fun holds => early (first machine holds)
      rw [same, final_broken before after action machine unbroken]
      refine .inr ⟨_, rfl, ?_⟩
      rcases advances.meets machine with equal | ⟨place, broken, led⟩
      · rw [equal]
      · rw [broken]
        exact led
    · have unbroken : ¬ before machine := fun holds => early (first machine holds)
      have whole : action.broken before after machine = action machine := by
        unfold Eval.broken
        rw [if_neg unbroken, if_neg fun holds => late (last machine holds)]
      rw [same, whole]
      exact advances.meets machine

theorem broken_parts {parts broken : Evaluator} (advances : parts.Advances step broken) (depth : Nat)
    (within : fewer.Within more) : (parts.broken fewer depth).Advances step (broken.broken more depth) := by
  intro task
  rw [Evaluator.answer_broken, Evaluator.answer_broken]
  exact Advances.broken (advances task) (within.before depth task) (within.after depth task)

theorem exhausted (step : Ledgers → Ledgers → Prop) : Evaluator.exhausted.Advances step .exhausted := by
  intro task
  cases task with
  | evaluate | execute | call => exact calm (.throw _)

-- If ledgers are opened and entries made by steps, then steps lead from a run that is broken off in more
-- places to the one that goes on.
theorem breaking (opened : ∀ ledgers, step ledgers (ledgers.push []))
    (entered : ∀ ledgers account entry, step ledgers (Ledgers.post ledgers account entry))
    (within : fewer.Within more) (rounds depth : Nat) :
    (Evaluator.breaking fewer rounds depth).Advances step (.breaking more rounds depth) := by
  induction depth with
  | zero => exact broken_parts (exhausted step) 0 within
  | succ depth ih =>
      refine broken_parts (fun task => ?_) (depth + 1) within
      exact performed_always ih opened entered rounds task

end Advances

section Laws

variable {law : Law} {α : Type} {declares : Bool} {good : Machine → α → Prop} {machine : Machine}

theorem Law.Follows.broken {action : Eval α} (follows : law.Follows declares good machine action action)
    (before after : Machine → Prop) :
    law.Follows declares good machine (action.broken before after) (action.broken before after) := by
  refine ⟨fun _ => .inl rfl, fun sound => ?_⟩
  have ends := follows.ends sound
  rcases broken_cases before after action machine with ⟨same, _⟩ | ⟨same, _⟩ | ⟨same, _⟩
  · rw [same]
    exact ⟨.rest _ _, law.tooDeep⟩
  · rw [same]
    exact ⟨Law.ends_moves _ ends, law.tooDeep⟩
  · rw [same]
    exact ends

theorem Law.Parts.breaking (breaks : Breaks) (rounds depth : Nat) (taken : law.TakesFaults)
    (faults : law.AllowsFaults) : law.Parts (.breaking breaks rounds depth) (.breaking breaks rounds depth) := by
  have broken (depth : Nat) (parts : Evaluator) (keeps : law.Parts parts parts) :
      law.Parts (parts.broken breaks depth) (parts.broken breaks depth) :=
    { evaluate := fun expr machine code => (keeps.evaluate expr machine code).broken _ _
      execute := fun stmt machine code => (keeps.execute stmt machine code).broken _ _
      call := fun callee arguments name machine heldCallee held =>
        (keeps.call callee arguments name machine heldCallee held).broken _ _ }
  induction depth with
  | zero => exact broken 0 _ (.exhausted law)
  | succ depth ih => exact broken (depth + 1) _ (ih.deepen rounds taken faults)

end Laws

end Fiscal
