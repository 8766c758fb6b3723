import Fiscal.Proofs.Finance.Discount

set_option autoImplicit false

namespace Fiscal

-- A rational number, or what a division by zero leaves.
inductive Ratio where
  | finite (value : ℚ)
  | undefined
  deriving DecidableEq

namespace Ratio

def combine (operation : ℚ → ℚ → Ratio) : Ratio → Ratio → Ratio
  | finite x, finite y => operation x y
  | _, _ => undefined

def quotient (x y : ℚ) : Ratio := if y = 0 then undefined else finite (x / y)

def negated : Ratio → Ratio
  | finite x => finite (-x)
  | undefined => undefined

def raised (exponent : ℤ) : Ratio → Ratio
  | finite base => if base = 0 ∧ exponent < 0 then undefined else finite (base ^ exponent)
  | undefined => undefined

instance : Zero Ratio := ⟨finite 0⟩

instance : Add Ratio := ⟨combine fun x y => finite (x + y)⟩

instance : Sub Ratio := ⟨combine fun x y => finite (x - y)⟩

instance : Mul Ratio := ⟨combine fun x y => finite (x * y)⟩

instance : Div Ratio := ⟨combine quotient⟩

instance : Neg Ratio := ⟨negated⟩

instance : Scalar Ratio where
  ofInt n := finite n
  power base exponent := base.raised exponent
  checkedPower
    | finite base, finite exponent => (Scalar.checkedPower base exponent).map finite
    | _, _ => .ok undefined
  isFinite
    | finite _ => true
    | undefined => false
  isWhole
    | finite x => x.isInt
    | undefined => false
  toFloat
    | finite x => Scalar.toFloat x
    | undefined => Number.notANumber

@[simp] theorem finite_add (x y : ℚ) : finite x + finite y = finite (x + y) := rfl

@[simp] theorem finite_sub (x y : ℚ) : finite x - finite y = finite (x - y) := rfl

@[simp] theorem finite_mul (x y : ℚ) : finite x * finite y = finite (x * y) := rfl

@[simp] theorem finite_neg (x : ℚ) : -finite x = finite (-x) := rfl

@[simp] theorem undefined_add (x : Ratio) : undefined + x = undefined := rfl

@[simp] theorem ofNat_finite (n : ℕ) : (Scalar.ofNat n : Ratio) = finite n := rfl

@[simp] theorem zero_finite : (Scalar.zero : Ratio) = finite 0 := rfl

@[simp] theorem one_finite : (Scalar.one : Ratio) = finite 1 := rfl

theorem finite_div (x : ℚ) {y : ℚ} (nonzero : y ≠ 0) : finite x / finite y = finite (x / y) := if_neg nonzero

theorem finite_div_zero (x : ℚ) : finite x / finite 0 = undefined := by
  change quotient x 0 = undefined
  exact if_pos rfl

theorem power_finite {base : ℚ} (nonzero : base ≠ 0) (exponent : ℤ) :
    Scalar.power (finite base) exponent = finite (base ^ exponent) := if_neg fun zero => nonzero zero.1

theorem power_zero (exponent : ℕ) : Scalar.power (finite 0) (exponent + 1 : ℤ) = finite 0 := by
  have positive : ¬ ((0 : ℚ) = 0 ∧ (exponent + 1 : ℤ) < 0) := by omega
  have zeroed : (0 : ℚ) ^ (exponent + 1 : ℤ) = 0 := zero_zpow _ (by omega)
  change raised (exponent + 1 : ℤ) (finite 0) = finite 0
  rw [raised, if_neg positive, zeroed]

instance : AddCommMonoid Ratio where
  add_assoc x y z := match x, y, z with
    | finite x, finite y, finite z => congrArg finite (add_assoc x y z)
    | undefined, _, _ | finite _, undefined, _ | finite _, finite _, undefined => rfl
  zero_add x := match x with
    | finite x => congrArg finite (zero_add x)
    | undefined => rfl
  add_zero x := match x with
    | finite x => congrArg finite (add_zero x)
    | undefined => rfl
  add_comm x y := match x, y with
    | finite x, finite y => congrArg finite (add_comm x y)
    | undefined, undefined | undefined, finite _ | finite _, undefined => rfl
  nsmul := nsmulRec

theorem sum_finite (terms : List ℚ) : (terms.map finite).sum = finite terms.sum := by
  induction terms with
  | nil => rfl
  | cons term rest ih => rw [List.map_cons, List.sum_cons, ih, List.sum_cons, finite_add]

end Ratio

namespace Finance

open Scalar Ratio

section Steps

variable {rate : ℚ}

theorem sensitivities_finite (base : 1 + rate ≠ 0) (period : ℕ) (flows : List ℚ) :
    sensitivities (finite rate) period (flows.map finite) = (sensitivities rate period flows).map finite := by
  induction flows generalizing period with
  | nil => rfl
  | cons flow rest ih =>
      rw [List.map_cons, sensitivities, ih, sensitivities, List.map_cons, one_finite, finite_add, power_finite base,
        ofNat_finite, finite_neg, finite_mul, finite_div _ (zpow_ne_zero _ base)]
      rfl

theorem discounted_finite (base : 1 + rate ≠ 0) (period : ℕ) (flows : List ℚ) :
    discounted (finite rate) period (flows.map finite) = (discounted rate period flows).map finite := by
  induction flows generalizing period with
  | nil => rfl
  | cons flow rest ih =>
      rw [List.map_cons, discounted, ih, discounted, List.map_cons, one_finite, finite_add, power_finite base,
        finite_mul]
      rfl

theorem npvDerivative_finite (base : 1 + rate ≠ 0) (flows : List ℚ) :
    npvDerivative (finite rate) (flows.map finite) = finite (npvDerivative rate flows) := by
  change Number.pairwiseSum 0 _ = finite (Number.pairwiseSum 0 _)
  rw [sensitivities_finite base, Number.pairwiseSum_sum, sum_finite, Number.pairwiseSum_sum]

theorem npvDerivative_nil {α : Type} [Add α] [Mul α] [Div α] [Neg α] [Scalar α] (rate : α) :
    npvDerivative rate [] = zero := by
  rw [npvDerivative, sensitivities, Number.pairwiseSum]
  rfl

theorem npvDerivative_undefined (rate flow : ℚ) (base : 1 + rate = 0) (rest : List ℚ) :
    npvDerivative (finite rate) ((flow :: rest).map finite) = undefined := by
  change Number.pairwiseSum 0 _ = _
  rw [Number.pairwiseSum_sum, List.map_cons, sensitivities, List.sum_cons, one_finite, finite_add, base,
    power_zero, ofNat_finite, finite_neg, finite_mul, finite_div_zero, undefined_add]

theorem npv_finite (base : 1 + rate ≠ 0) (flows : List ℚ) :
    npv (finite rate) (flows.map finite) = .ok (finite (discounted rate 1 flows).sum) := by
  cases flows with
  | nil => rfl
  | cons flow rest =>
      have distinct : (finite rate == -one) = false := by
        rw [one_finite, finite_neg, beq_eq_false_iff_ne, Ne, finite.injEq]
        exact fun same => base (by rw [same, add_neg_cancel])
      rw [npv, distinct]
      change Except.ok (Number.pairwiseSum 0 _) = _
      rw [discounted_finite base, Number.pairwiseSum_sum, sum_finite]

end Steps

def newton (flows : List ℚ) : ℕ → ℚ → ℚ
  | 0, rate => rate
  | steps + 1, rate =>
      if 1 + rate = 0 ∨ npvDerivative rate flows = 0 then rate
      else newton flows steps (rate - (discounted rate 1 flows).sum / npvDerivative rate flows)

theorem newton_ends {flows : List ℚ} {rate : ℚ} (ended : 1 + rate = 0 ∨ npvDerivative rate flows = 0)
    (steps : ℕ) : newton flows steps rate = rate := by
  cases steps with
  | zero => rfl
  | succ steps => exact if_pos ended

theorem irr_newton (flows : List ℚ) (steps : ℕ) (rate : ℚ) :
    irr (flows.map finite) steps (finite rate) = .ok (finite (newton flows steps rate)) := by
  induction steps generalizing rate with
  | zero => rfl
  | succ steps ih =>
      by_cases base : 1 + rate = 0
      · rw [newton_ends (.inl base), irr]
        cases flows with
        | nil =>
            rw [List.map_nil, npvDerivative_nil]
            rfl
        | cons flow rest =>
            rw [npvDerivative_undefined rate flow base]
            rfl
      · by_cases level : npvDerivative rate flows = 0
        · rw [newton_ends (.inr level), irr, npvDerivative_finite base, level]
          rfl
        · have slope : (finite (npvDerivative rate flows) == zero) = false := by
            rw [zero_finite, beq_eq_false_iff_ne, Ne, finite.injEq]
            exact level
          rw [newton, if_neg (not_or.mpr ⟨base, level⟩), ← ih, irr, npvDerivative_finite base, npv_finite base]
          dsimp only
          rw [slope, finite_div _ level, finite_sub]
          rfl

section Scaling

variable (factor rate : ℚ)

theorem sensitivities_scaled (period : ℕ) (flows : List ℚ) :
    (sensitivities rate period (flows.map (factor * ·))).sum = factor * (sensitivities rate period flows).sum := by
  induction flows generalizing period with
  | nil => exact (mul_zero factor).symm
  | cons flow rest ih =>
      rw [List.map_cons, sensitivities, List.sum_cons, ih, sensitivities, List.sum_cons]
      ring

theorem discounted_scaled (period : ℕ) (flows : List ℚ) :
    (discounted rate period (flows.map (factor * ·))).sum = factor * (discounted rate period flows).sum := by
  induction flows generalizing period with
  | nil => exact (mul_zero factor).symm
  | cons flow rest ih => rw [List.map_cons, discounted_cons, ih, discounted_cons, mul_add, mul_div_assoc]

theorem npvDerivative_scaled (flows : List ℚ) :
    npvDerivative rate (flows.map (factor * ·)) = factor * npvDerivative rate flows := by
  change Number.pairwiseSum 0 _ = factor * Number.pairwiseSum 0 _
  rw [Number.pairwiseSum_sum, Number.pairwiseSum_sum, sensitivities_scaled]

end Scaling

theorem newton_scaled {factor : ℚ} (nonzero : factor ≠ 0) (flows : List ℚ) (steps : ℕ) (rate : ℚ) :
    newton (flows.map (factor * ·)) steps rate = newton flows steps rate := by
  induction steps generalizing rate with
  | zero => rfl
  | succ steps ih =>
      rw [newton, newton, npvDerivative_scaled, discounted_scaled, mul_div_mul_left _ _ nonzero, ih]
      simp only [mul_eq_zero, nonzero, false_or]

theorem newton_root {flows : List ℚ} {rate : ℚ} (root : (discounted rate 1 flows).sum = 0) (steps : ℕ) :
    newton flows steps rate = rate := by
  induction steps with
  | zero => rfl
  | succ steps ih => rw [newton, root, zero_div, sub_zero, ih, ite_self]

-- The steps are the same for flows in another unit of money, and a rate at which the flows are worth nothing is
-- left as it is.
theorem internal_rate_unitless (flows : List ℚ) :
    (∀ factor : ℚ, factor ≠ 0 → ∀ guess steps, ∃ rate,
      irr (flows.map finite) steps (finite guess) = .ok (finite rate) ∧
        irr (flows.map fun flow => finite (factor * flow)) steps (finite guess) = .ok (finite rate)) ∧
    ∀ root, npv (finite root) (flows.map finite) = .ok (finite 0) →
      ∀ steps, irr (flows.map finite) steps (finite root) = .ok (finite root) := by
  refine ⟨fun factor nonzero guess steps => ⟨_, irr_newton flows steps guess, ?_⟩,
    fun root worthless steps => ?_⟩
  · have scaled := irr_newton (flows.map (factor * ·)) steps guess
    rwa [List.map_map, newton_scaled nonzero] at scaled
  · rw [irr_newton]
    by_cases base : 1 + root = 0
    · rw [newton_ends (.inl base)]
    · rw [npv_finite base, Except.ok.injEq, finite.injEq] at worthless
      rw [newton_root worthless]

theorem internal_rate_of_two_flows :
    ((-2 : ℚ) ≠ 0 ∧ npv (finite (-1 / 3)) [finite 3, finite (-2)] = .ok (finite 0)) ∧
      irr [finite 3, finite (-2)] 5 (finite 0) = .ok (finite (-1)) ∧
      irr [finite (-6), finite 4] 5 (finite 0) = .ok (finite (-1)) ∧
      irr [finite 3, finite (-2)] 5 (finite (-1 / 3)) = .ok (finite (-1 / 3)) := by
  have base : 1 + (-1 / 3 : ℚ) ≠ 0 := by norm_num
  have worthless : (discounted (-1 / 3 : ℚ) 1 [3, -2]).sum = 0 := by norm_num [discounted]
  have root : npv (finite (-1 / 3)) [finite 3, finite (-2)] = .ok (finite 0) := worthless ▸ npv_finite base [3, -2]
  have slope : npvDerivative (0 : ℚ) [3, -2] = 1 := by
    change Number.pairwiseSum 0 _ = (1 : ℚ)
    norm_num [sensitivities, Number.pairwiseSum_sum, ofNat]
  have worth : (discounted (0 : ℚ) 1 [3, -2]).sum = 1 := by norm_num [discounted]
  have stuck : newton [3, -2] 5 0 = -1 := by
    rw [newton, slope, worth, if_neg (by norm_num), div_one, zero_sub]
    exact newton_ends (.inl (by norm_num)) 4
  obtain ⟨scaled, rooted⟩ := internal_rate_unitless [3, -2]
  obtain ⟨rate, plain, twice⟩ := scaled (-2) (by norm_num) 0 5
  have found := (irr_newton [3, -2] 5 0).symm.trans plain
  rw [stuck, Except.ok.injEq, finite.injEq] at found
  rw [← found] at plain twice
  norm_num at twice
  exact ⟨⟨by norm_num, root⟩, plain, twice, rooted (-1 / 3) root 5⟩

end Finance

end Fiscal
