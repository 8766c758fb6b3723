import Fiscal.Proofs.Machine.Depth
import Fiscal.Proofs.Machine.Moves
import Fiscal.Proofs.Number.Addition
import Mathlib.Order.Bounds.Basic

set_option autoImplicit false

namespace Fiscal

open Machine

def counterAt (first step : Float) : Nat → Float
  | 0 => first
  | k + 1 => counterAt first step k + step

structure Counting where
  parts : Evaluator
  counter : String
  first : Float
  last : Float
  step : Float
  body : List Stmt
  opened : Machine

namespace Counting

variable (loop : Counting)

def value (k : Nat) : Float := counterAt loop.first loop.step k

def Inside (k : Nat) : Prop := inRange loop.step loop.last (loop.value k) = true

def binds (k : Nat) (machine : Machine) : Machine :=
  machine.binding loop.opened.current loop.counter (.number (loop.value k))

def before : Nat → Machine
  | 0 => loop.opened
  | k + 1 => final (loop.parts.executeAll loop.body (loop.binds k (before k)))

def begun (k : Nat) : Machine := loop.binds k (loop.before k)

def round (k : Nat) : EStateM.Result Failure Machine Outcome := loop.parts.executeAll loop.body (loop.begun k)

def Completes (count : Nat) : Prop :=
  ∀ k < count, loop.Inside k ∧ ∃ value, loop.round k = .ok (.done value) (loop.before (k + 1))

inductive Ends (rounds : Nat) : Nat → EStateM.Result Failure Machine Outcome → Prop where
  | passed (count : Nat) (first : IsLeast {k | ¬ loop.Inside k} count) :
      Ends rounds count (.ok .nothing (loop.before count))
  | returned (count : Nat) (value : Value) (after : Machine) (inside : loop.Inside count)
      (ended : loop.round count = .ok (.returned value) after) : Ends rounds count (.ok (.returned value) after)
  | failed (count : Nat) (failure : Failure) (after : Machine) (inside : loop.Inside count)
      (ended : loop.round count = .error failure after) : Ends rounds count (.error failure after)
  | spent : Ends rounds rounds (.error .unfinished (loop.before rounds))

variable {loop}

theorem Completes.next {count : Nat} (complete : loop.Completes count) (inside : loop.Inside count) {value : Value}
    (ended : loop.round count = .ok (.done value) (loop.before (count + 1))) : loop.Completes (count + 1) := by
  intro k early
  rcases Nat.lt_or_eq_of_le (Nat.le_of_lt_succ early) with before | rfl
  · exact complete k before
  · exact ⟨inside, value, ended⟩

end Counting

section Rounds

variable {parts : Evaluator} {counter : String} {step last current : Float} {body : List Stmt} {machine : Machine}

theorem rangeRounds_outside (outside : ¬ inRange step last current = true) (left : Nat) :
    rangeRounds parts counter step last body (left + 1) current machine = .ok .nothing machine := by
  rw [rangeRounds, if_neg outside]
  rfl

theorem rangeRounds_inside (inside : inRange step last current = true) (left : Nat) :
    rangeRounds parts counter step last body (left + 1) current machine =
      match parts.executeAll body (machine.binding machine.current counter (.number current)) with
      | .ok (.done _) after => rangeRounds parts counter step last body left (current + step) after
      | .ok (.returned value) after => .ok (.returned value) after
      | .error failure after => .error failure after := by
  rw [rangeRounds, if_pos inside, Eval.define_bind]
  change EStateM.bind (parts.executeAll body) _ _ = _
  unfold EStateM.bind
  cases parts.executeAll body (machine.binding machine.current counter (.number current)) with
  | error failure after => rfl
  | ok outcome after => cases outcome <;> rfl

end Rounds

namespace Counting

variable {loop : Counting}

-- By induction on the rounds that are left, from any number of complete ones.
theorem rounds_end (steady : ∀ k, (loop.before k).current = loop.opened.current) (left count : Nat)
    (complete : loop.Completes count) :
    ∃ total, loop.Completes total ∧
      loop.Ends (count + left) total
        (rangeRounds loop.parts loop.counter loop.step loop.last loop.body left (loop.value count)
          (loop.before count)) := by
  induction left generalizing count with
  | zero => exact ⟨count, complete, .spent⟩
  | succ left ih =>
      by_cases inside : inRange loop.step loop.last (loop.value count) = true
      · have begins : loop.parts.executeAll loop.body ((loop.before count).binding loop.opened.current loop.counter
            (.number (loop.value count))) = loop.round count := rfl
        rw [rangeRounds_inside inside, steady, begins]
        cases ended : loop.round count with
        | error failure after => exact ⟨count, complete, .failed count failure after inside ended⟩
        | ok outcome after =>
            cases outcome with
            | returned value => exact ⟨count, complete, .returned count value after inside ended⟩
            | done value =>
                have reached : loop.before (count + 1) = after := congrArg final ended
                rw [← reached] at ended ⊢
                have more := ih (count + 1) (complete.next inside ended)
                rwa [Nat.add_right_comm] at more
      · rw [rangeRounds_outside inside]
        refine ⟨count, complete, .passed count ⟨inside, fun k outside => ?_⟩⟩
        exact Nat.le_of_not_lt fun early => outside (complete k early).1

section Depth

variable {rounds depth : Nat} {loop : Counting} (same : loop.parts = .ofDepth rounds depth)

include same

theorem round_moves (k : Nat) : Moves (fun _ _ => True) true (loop.begun k) (loop.before (k + 1)) := by
  change Moves _ true _ (final (loop.parts.executeAll loop.body (loop.begun k)))
  rw [same]
  have follows : Law.anything.Follows true Law.anything.HoldsOutcome (loop.begun k)
      ((Evaluator.ofDepth rounds depth).executeAll loop.body)
      ((Evaluator.ofDepth rounds depth).executeAll loop.body) :=
    .executeAll (keeps_anything rounds depth) loop.body fun _ _ => trivial
  exact Law.ends_moves _ (follows.ends trivial)

theorem before_current (k : Nat) : (loop.before k).current = loop.opened.current := by
  induction k with
  | zero => rfl
  | succ k ih => exact (moves_current true _ _ (round_moves same k)).trans ih

end Depth

end Counting

def leaving {α : Type} (span : Source.Span) (scope : Nat) :
    EStateM.Result Failure Machine α → EStateM.Result Failure Machine α
  | .ok outcome after => .ok outcome (after.returning scope)
  | .error failure after => .error (failure.located span) (after.returning scope)

section Statements

variable {parts : Evaluator} {rounds : Nat} {machine ready : Machine}

theorem loopStep_run {given : Option Expr} {step : Float}
    (steps : parts.numberOr "FOR step" 1 given machine = .ok step ready) (moving : (step == 0) = false) :
    loopStep parts given machine = .ok step ready := by
  cases given with
  | none => exact steps
  | some expr =>
      refine (Eval.bind_run steps).trans ?_
      rw [moving]
      rfl

theorem located_inNewScope {α : Type} (span : Source.Span) (action : Eval α) (machine : Machine) :
    Eval.located span (Eval.inNewScope action) machine =
      leaving span machine.current (action (machine.entering machine.current)) := by
  have entered : Eval.inNewScope action machine = _ := Law.Follows.opened_run machine.current machine action
  rw [Eval.located, entered]
  cases action (machine.entering machine.current) <;> rfl

theorem statement_forRange {span : Source.Span} {counter : String} {low high : Expr} {given : Option Expr}
    {body : Block} {first last step : Float} {started bounded : Machine}
    (starts : parts.number "FOR start" low machine = .ok first started)
    (ends : parts.number "FOR end" high started = .ok last bounded)
    (steps : loopStep parts given bounded = .ok step ready) :
    statement parts rounds (.forRange span counter low high given body) machine =
      leaving span ready.current
        (rangeRounds parts counter step last body.statements rounds first
          ((ready.entering ready.current).binding ready.scopes.size counter (.number first))) := by
  have reached : forRange parts rounds counter low high given body machine =
      Eval.inNewScope (Eval.define counter (.number first) >>= fun _ =>
        rangeRounds parts counter step last body.statements rounds first) ready :=
    (Eval.bind_run starts).trans ((Eval.bind_run ends).trans (Eval.bind_run steps))
  change Eval.located span (forRange parts rounds counter low high given body) machine = _
  rw [Eval.located, reached]
  exact located_inNewScope span _ ready

end Statements

open Number

namespace Counting

variable {loop : Counting}

structure Moving (loop : Counting) : Prop where
  first : isFinite loop.first = true
  last : isFinite loop.last = true
  step : isFinite loop.step = true
  apart : (loop.step == 0) = false

def Stalls (loop : Counting) : Prop := ∃ k, (∀ j ≤ k, loop.Inside j) ∧ loop.value (k + 1) = loop.value k

theorem inside_iff (moving : loop.Moving) {k : Nat} (number : isNaN (loop.value k) = false) :
    loop.Inside k ↔ along loop.step (loop.value k) ≤ along loop.step loop.last := by
  have known := (regular_of_finite moving.last).1
  unfold Inside inRange along
  by_cases upward : loop.step > 0
  · rw [if_pos upward, if_pos upward, if_pos upward, decide_eq_true_iff, le_iff_place number known]
  · rw [if_neg upward, if_neg upward, if_neg upward, decide_eq_true_iff, ge_iff_le, le_iff_place known number]
    omega

theorem value_finite (moving : loop.Moving) {k : Nat} (number : isNaN (loop.value k) = false)
    (begun : along loop.step loop.first ≤ along loop.step (loop.value k)) (inside : loop.Inside k) :
    isFinite (loop.value k) = true := by
  have first := (finite_iff_place (regular_of_finite moving.first).1).mp moving.first
  have last := (finite_iff_place (regular_of_finite moving.last).1).mp moving.last
  have before := (inside_iff moving number).mp inside
  rw [finite_iff_place number]
  unfold along at begun before
  by_cases upward : loop.step > 0
  · rw [if_pos upward, if_pos upward] at begun before
    omega
  · rw [if_neg upward, if_neg upward] at begun before
    omega

-- By induction on the rounds: each one takes the counter at least a unit further.
theorem value_advances (moving : loop.Moving) (k : Nat) (inside : ∀ j < k, loop.Inside j)
    (onward : ∀ j < k, loop.value (j + 1) ≠ loop.value j) :
    isNaN (loop.value k) = false ∧ along loop.step loop.first + k ≤ along loop.step (loop.value k) := by
  induction k with
  | zero => exact ⟨(regular_of_finite moving.first).1, Int.le_of_eq (Int.add_zero _)⟩
  | succ k ih =>
      obtain ⟨number, further⟩ :=
        ih (fun j early => inside j (Nat.lt_succ_of_lt early)) fun j early => onward j (Nat.lt_succ_of_lt early)
      have finite := value_finite moving number (by omega) (inside k (Nat.lt_succ_self k))
      have next := (add_sameSide _ _ finite moving.step).1
      rcases add_goes finite moving.step moving.apart with lost | gone
      · exact absurd lost (onward k (Nat.lt_succ_self k))
      · refine ⟨next, ?_⟩
        change _ ≤ along loop.step (loop.value k + loop.step)
        omega

theorem passes_of_onward (moving : loop.Moving) (onward : ¬ loop.Stalls) :
    ∃ count, IsLeast {k | ¬ loop.Inside k} count := by
  have passed : ∃ k, ¬ loop.Inside k := by
    by_contra none
    have inside (k : Nat) : loop.Inside k := Classical.not_not.mp fun outside => none ⟨k, outside⟩
    have distinct (k : Nat) : loop.value (k + 1) ≠ loop.value k := fun same =>
      onward ⟨k, fun j _ => inside j, same⟩
    obtain ⟨rounds, many⟩ : ∃ rounds : Nat, along loop.step loop.last < along loop.step loop.first + rounds :=
      ⟨(along loop.step loop.last - along loop.step loop.first + 1).toNat, by omega⟩
    obtain ⟨number, further⟩ := value_advances moving rounds (fun j _ => inside j) fun j _ => distinct j
    have before := (inside_iff moving number).mp (inside rounds)
    omega
  classical
  exact ⟨Nat.find passed, Nat.find_spec passed, fun k outside => Nat.find_min' passed outside⟩

theorem inside_of_stalls (stalls : loop.Stalls) (k : Nat) : loop.Inside k := by
  obtain ⟨still, inside, same⟩ := stalls
  have later (more : Nat) : loop.value (still + more) = loop.value still := by
    induction more with
    | zero => rfl
    | succ more ih =>
        have next : loop.value (still + (more + 1)) = loop.value (still + more) + loop.step := rfl
        rw [next, ih]
        exact same
  rcases Nat.le_total k still with early | late
  · exact inside k early
  · obtain ⟨more, rfl⟩ := Nat.exists_eq_add_of_le late
    unfold Inside
    rw [later]
    exact inside still (Nat.le_refl _)

theorem passed_or_spent {rounds total : Nat} {ended : EStateM.Result Failure Machine Outcome}
    (completes : ∀ k, loop.Inside k → ∃ value, loop.round k = .ok (.done value) (loop.before (k + 1)))
    (ends : loop.Ends rounds total ended) :
    (IsLeast {k | ¬ loop.Inside k} total ∧ ended = .ok .nothing (loop.before total)) ∨
      (total = rounds ∧ ended = .error .unfinished (loop.before rounds)) := by
  cases ends with
  | passed _ least => exact .inl ⟨least, rfl⟩
  | spent => exact .inr ⟨rfl, rfl⟩
  | returned _ value after inside ended =>
      obtain ⟨_, done⟩ := completes total inside
      rw [done] at ended
      cases ended
  | failed _ failure after inside ended =>
      obtain ⟨_, done⟩ := completes total inside
      rw [done] at ended
      cases ended

end Counting

-- A loop over numbers whose body always completes ends after the rounds that its counter needs to pass the last
-- value, and it ends unless the step is lost. If the step is lost inside of the range, no number of rounds is enough.
theorem loop_ends_unless_stalled (rounds depth : Nat) (span : Source.Span) (counter : String) (low high : Expr)
    (given : Option Expr) (body : Block) (machine started bounded ready : Machine) (first last step : Float)
    (starts : (Evaluator.ofDepth rounds depth).number "FOR start" low machine = .ok first started)
    (ends : (Evaluator.ofDepth rounds depth).number "FOR end" high started = .ok last bounded)
    (steps : (Evaluator.ofDepth rounds depth).numberOr "FOR step" 1 given bounded = .ok step ready)
    (bounds : isFinite first = true ∧ isFinite last = true ∧ isFinite step = true) (moving : (step == 0) = false) :
    let opened := (ready.entering ready.current).binding ready.scopes.size counter (.number first)
    let loop : Counting := ⟨.ofDepth rounds depth, counter, first, last, step, body.statements, opened⟩
    let ran := (Evaluator.ofDepth rounds (depth + 1)).execute (.forRange span counter low high given body) machine
    (∀ k, loop.Inside k → ∃ value, loop.round k = .ok (.done value) (loop.before (k + 1))) →
    (¬ loop.Stalls → ∃ count, IsLeast {k | ¬ inRange step last (counterAt first step k) = true} count ∧
      (count < rounds → loop.Completes count ∧
        ran = .ok .nothing ((loop.before count).returning machine.current))) ∧
    (loop.Stalls → loop.Completes rounds ∧
      ran = .error .unfinished ((loop.before rounds).returning machine.current)) := by
  intro opened loop ran completes
  have finite : loop.Moving := ⟨bounds.1, bounds.2.1, bounds.2.2, moving⟩
  have keeps := keeps_anything rounds depth
  have steady : ready.current = machine.current := by
    rw [follows_current (Law.Follows.numberOr keeps "FOR step" 1 given fun _ _ => trivial) steps,
      follows_current (Law.Follows.number keeps _ high trivial) ends,
      follows_current (Law.Follows.number keeps _ low trivial) starts]
  obtain ⟨total, complete, ended⟩ := @Counting.rounds_end loop (Counting.before_current rfl) rounds 0
    fun k early => absurd early (Nat.not_lt_zero k)
  have reached : ran = leaving span machine.current
      (rangeRounds loop.parts counter step last body.statements rounds first opened) := by
    rw [← steady]
    exact statement_forRange starts ends (loopStep_run steps moving)
  rw [Nat.zero_add] at ended
  change loop.Ends rounds total (rangeRounds loop.parts counter step last body.statements rounds first opened) at ended
  have ways := Counting.passed_or_spent completes ended
  refine ⟨fun onward => ?_, fun stalls => ?_⟩
  · obtain ⟨count, least⟩ := Counting.passes_of_onward finite onward
    refine ⟨count, least, fun enough => ?_⟩
    rcases ways with ⟨lowest, passed⟩ | ⟨rfl, _⟩
    · cases least.unique lowest
      exact ⟨complete, by rw [reached, passed]; rfl⟩
    · exact absurd (complete count enough).1 least.1
  · rcases ways with ⟨lowest, _⟩ | ⟨rfl, spent⟩
    · exact absurd (Counting.inside_of_stalls stalls total) lowest.1
    · exact ⟨complete, by rw [reached, spent]; rfl⟩

-- From ten to the sixteenth to the same number: the next number is not a double, so adding one is lost.
theorem loop_over_one_number_stalls :
    let machine := start .standard ⟨[]⟩ "2024-02-29"
    let number (x : Float) : Expr := .literal default (.number x)
    let body : Block := ⟨default, [.define default "n" (number 0)]⟩
    let opened := (machine.entering machine.current).binding machine.scopes.size "i" (.number 1e16)
    let loop : Counting := ⟨.ofDepth 9 9, "i", 1e16, 1e16, 1, body.statements, opened⟩
    ((Evaluator.ofDepth 9 9).number "FOR start" (number 1e16) machine = .ok 1e16 machine ∧
      (Evaluator.ofDepth 9 9).number "FOR end" (number 1e16) machine = .ok 1e16 machine ∧
      (Evaluator.ofDepth 9 9).numberOr "FOR step" 1 none machine = .ok 1 machine ∧
      (isFinite 1e16 = true ∧ isFinite 1e16 = true ∧ isFinite 1 = true) ∧ ((1 : Float) == 0) = false ∧
      ∀ k, loop.Inside k → ∃ value, loop.round k = .ok (.done value) (loop.before (k + 1))) ∧
    loop.Stalls ∧ loop.Completes 9 ∧
    (Evaluator.ofDepth 9 10).execute (.forRange default "i" (number 1e16) (number 1e16) none body) machine =
      .error .unfinished ((loop.before 9).returning machine.current) := by
  intro machine number body opened loop
  have starts : (Evaluator.ofDepth 9 9).number "FOR start" (number 1e16) machine = .ok 1e16 machine := rfl
  have ends : (Evaluator.ofDepth 9 9).number "FOR end" (number 1e16) machine = .ok 1e16 machine := rfl
  have steps : (Evaluator.ofDepth 9 9).numberOr "FOR step" 1 none machine = .ok 1 machine := rfl
  have bounds : isFinite 1e16 = true ∧ isFinite 1e16 = true ∧ isFinite 1 = true := by decide +kernel
  have moving : ((1 : Float) == 0) = false := by decide +kernel
  have completes (k : Nat) (_ : loop.Inside k) :
      ∃ value, loop.round k = .ok (.done value) (loop.before (k + 1)) := ⟨.null, rfl⟩
  have stalls : loop.Stalls := by
    refine ⟨0, fun j only => ?_, ?_⟩
    · cases Nat.le_zero.mp only
      change inRange 1 1e16 1e16 = true
      decide +kernel
    · change (1e16 + 1 : Float) = 1e16
      exact eq_of_pattern (by decide +kernel)
  have whole := (loop_ends_unless_stalled 9 9 default "i" (number 1e16) (number 1e16) none body machine machine machine
    machine 1e16 1e16 1 starts ends steps bounds moving completes).2 stalls
  exact ⟨⟨starts, ends, steps, bounds, moving, completes⟩, stalls, whole⟩

end Fiscal
