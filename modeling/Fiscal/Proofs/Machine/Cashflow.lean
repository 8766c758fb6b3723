import Fiscal.Proofs.Machine.Depth
import Fiscal.Proofs.Machine.Moves

set_option autoImplicit false

namespace Fiscal

open Machine

section Numbers

theorem itemNumbers_numbers (what : String) (index : Nat) (series : List Float) :
    Value.itemNumbers what index (series.map .number) = .ok series := by
  induction series generalizing index with
  | nil => rfl
  | cons x rest ih =>
      rw [List.map_cons, Value.itemNumbers, ih]
      rfl

theorem asNumbers_numbers (what : String) (series : List Float) :
    (Value.numbers series).asNumbers what = .ok series :=
  itemNumbers_numbers what 0 series

variable (span : Source.Span) (first second : List Float)

theorem combineItems_numbers (op : BinaryOperator) (compute : Float → Float → Float)
    (computes : ∀ x y, Value.compute span op x y = .ok (.number (compute x y))) :
    Value.combineItems span op (first.map .number) (second.map .number) =
      .ok ((List.zipWith compute first second).map .number) := by
  induction first generalizing second with
  | nil => rfl
  | cons x xs ih =>
      cases second with
      | nil => rfl
      | cons y ys =>
          rw [List.map_cons, List.map_cons, Value.combineItems, Value.combine, computes, ih]
          rfl

end Numbers

section Evaluation

variable {parts : Evaluator} {expr left right : Expr} {span : Source.Span} {op : BinaryOperator} {what : String}
  {machine middle after : Machine} {series first second : List Float}

theorem numbers_run (ran : parts.evaluate expr machine = .ok (.numbers series) after) :
    parts.numbers what expr machine = .ok series after := by
  refine (Eval.bind_run ran).trans ?_
  rw [asNumbers_numbers]
  rfl

def joined (op : BinaryOperator) : Float → Float → Float :=
  if op = .subtract then fun x y => x - y else fun x y => x + y

theorem compute_joined (elementwise : Value.isElementwise op = true) (x y : Float) :
    Value.compute span op x y = .ok (.number (joined op x y)) := by
  cases op with
  | add | subtract => rfl
  | _ => cases elementwise

variable (span first second) in
theorem operate_numbers (ledgers : Ledgers) (elementwise : Value.isElementwise op = true) :
    (Value.numbers first).operate ledgers span op (.numbers second) =
      .ok (.numbers (List.zipWith (joined op) first second)) := by
  have items := combineItems_numbers span first second op _ fun x y => compute_joined elementwise x y
  have whole : Value.combine span op (.numbers first) (.numbers second) =
      .ok (.numbers (List.zipWith (joined op) first second)) := by
    rw [Value.numbers, Value.numbers, Value.combine, if_pos elementwise, items]
    rfl
  cases op with
  | add | subtract => exact whole
  | _ => cases elementwise

theorem binary_run (elementwise : Value.isElementwise op = true)
    (before : parts.evaluate left machine = .ok (.numbers first) middle)
    (behind : parts.evaluate right middle = .ok (.numbers second) after) :
    expression parts (.binary span left op right) machine =
      .ok (.numbers (List.zipWith (joined op) first second)) after := by
  rw [expression, Eval.located_ok_iff]
  refine (Eval.bind_run before).trans ?_
  have operated := operate_numbers span first second after.ledgers elementwise
  cases op with
  | add | subtract =>
      refine (Eval.bind_run behind).trans ?_
      change Eval.lift _ after = _
      rw [operated]
      rfl
  | _ => cases elementwise

theorem cashflow_run (elementwise : Value.isElementwise op = true)
    (before : cashflow parts left machine = .ok first middle)
    (behind : cashflow parts right middle = .ok second after) :
    cashflow parts (.binary span left op right) machine = .ok (List.zipWith (joined op) first second) after := by
  cases op with
  | add | subtract =>
      rw [cashflow]
      refine (Eval.bind_run before).trans ?_
      exact Eval.bind_run behind
  | _ => cases elementwise

end Evaluation

namespace Expr

def isJoined : Expr → Bool
  | binary _ _ op _ => Value.isElementwise op
  | _ => false

-- The parts that are no sums or differences themselves come to lists of numbers one after the other, each on the
-- machine that those before it have left.
inductive Resolves (rounds : Nat) : Expr → Machine → Machine → Prop where
  | single (expr : Expr) (machine after : Machine) (depth : Nat) (series : List Float) (single : expr.isJoined = false)
      (evaluated : (Evaluator.ofDepth rounds depth).evaluate expr machine = .ok (.numbers series) after) :
      Resolves rounds expr machine after
  | joined (span : Source.Span) (left right : Expr) (op : BinaryOperator) (machine middle after : Machine)
      (elementwise : Value.isElementwise op = true) (first : Resolves rounds left machine middle)
      (second : Resolves rounds right middle after) : Resolves rounds (binary span left op right) machine after

end Expr

theorem cashflow_single (parts : Evaluator) (expr : Expr) (single : expr.isJoined = false) :
    cashflow parts expr = parts.numbers "cashflow" expr := by
  unfold cashflow
  split
  · cases single
  · cases single
  · rfl

-- Where the parts of a sum come to lists of numbers, resolving it as a cash flow and coercing what it evaluates to
-- give the same numbers on the same machine, at every depth that is enough for the evaluation.
theorem cashflow_evaluates (rounds : Nat) (expr : Expr) (machine after : Machine)
    (resolves : expr.Resolves rounds machine after) :
    ∃ series depth, ∀ more ≥ depth,
      cashflow (.ofDepth rounds more) expr machine = .ok series after ∧
      (Evaluator.ofDepth rounds more).numbers "cashflow" expr machine = .ok series after := by
  -- The evaluation itself gives the list of the numbers, which the next sum outside needs.
  suffices ∃ series depth, ∀ more ≥ depth,
      cashflow (.ofDepth rounds more) expr machine = .ok series after ∧
      (Evaluator.ofDepth rounds more).evaluate expr machine = .ok (.numbers series) after by
    obtain ⟨series, depth, agree⟩ := this
    exact ⟨series, depth, fun more deep => ⟨(agree more deep).1, numbers_run (agree more deep).2⟩⟩
  induction resolves with
  | single expr machine after depth series single evaluated =>
      refine ⟨series, depth, fun more deep => ?_⟩
      have deeper := evaluate_deeper deep evaluated
      exact ⟨(cashflow_single _ expr single ▸ numbers_run deeper), deeper⟩
  | joined span left right op machine middle after elementwise _ _ before behind =>
      obtain ⟨first, depth, agree⟩ := before
      obtain ⟨second, other, agreed⟩ := behind
      refine ⟨List.zipWith (joined op) first second, max depth other + 1, fun more deep => ?_⟩
      obtain ⟨below, rfl⟩ := Nat.exists_eq_add_of_le' (Nat.le_trans (Nat.le_add_left 1 _) deep)
      have enough : max depth other ≤ below := Nat.le_of_succ_le_succ deep
      have one := agree below (Nat.le_trans (Nat.le_max_left _ _) enough)
      have two := agreed below (Nat.le_trans (Nat.le_max_right _ _) enough)
      have above := agree (below + 1) (Nat.le_trans (Nat.le_max_left _ _) (Nat.le_succ_of_le enough))
      have beyond := agreed (below + 1) (Nat.le_trans (Nat.le_max_right _ _) (Nat.le_succ_of_le enough))
      exact ⟨cashflow_run elementwise above.1 beyond.1, binary_run elementwise one.2 two.2⟩

theorem nested_sum_evaluates :
    let machine := (start .standard ⟨[]⟩ "2024-02-29").binding 0 "b" .null
    let list (series : List Float) : Expr := .list default (series.map fun x => .literal default (.number x))
    let difference : Expr := .binary default (list [100, 100, 100]) .subtract (.assign default "b" (list [10, 20]))
    let sum : Expr := .binary default difference .add (.name default "b")
    let after := machine.binding 0 "b" (.numbers [10, 20])
    sum.Resolves 9 machine after ∧ ∃ depth, ∀ more ≥ depth,
      cashflow (.ofDepth 9 more) sum machine = .ok [100, 100] after ∧
      (Evaluator.ofDepth 9 more).numbers "cashflow" sum machine = .ok [100, 100] after := by
  intro machine list difference sum after
  have resolves : sum.Resolves 9 machine after := by
    refine .joined _ _ _ _ machine after after rfl (.joined _ _ _ _ machine machine after rfl ?_ ?_) ?_
    · exact .single _ _ _ 9 [100, 100, 100] rfl rfl
    · exact .single _ _ _ 9 [10, 20] rfl rfl
    · exact .single _ _ _ 9 [10, 20] rfl rfl
  have subtracted : List.zipWith (joined .subtract) [100, 100, 100] [10, 20] = [90, 80] := by decide +kernel
  have added : List.zipWith (joined .add) [90, 80] [10, 20] = [100, 100] := by decide +kernel
  have inner : expression (.ofDepth 9 7) difference machine = .ok (.numbers [90, 80]) after := by
    rw [← subtracted]
    exact binary_run rfl rfl rfl
  have known : expression (.ofDepth 9 8) sum machine = .ok (.numbers [100, 100]) after := by
    rw [← added]
    exact binary_run rfl inner rfl
  obtain ⟨series, depth, agree⟩ := cashflow_evaluates 9 sum machine after resolves
  have deep : (Evaluator.ofDepth 9 (max depth 9)).evaluate sum machine = .ok (.numbers [100, 100]) after :=
    evaluate_deeper (Nat.le_max_right depth 9) (show (Evaluator.ofDepth 9 9).evaluate sum machine = _ from known)
  have both : (Evaluator.ofDepth 9 (max depth 9)).numbers "cashflow" sum machine = _ := numbers_run deep
  rw [(agree _ (Nat.le_max_left depth 9)).2] at both
  cases both
  exact ⟨resolves, depth, agree⟩

end Fiscal
