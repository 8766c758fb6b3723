import Fiscal.Finance.Discount
import Fiscal.Number.Sum
import Mathlib.Algebra.BigOperators.Group.List.Basic
import Mathlib.Algebra.Order.Field.Rat
import Mathlib.Algebra.Field.Rat

set_option autoImplicit false

namespace Fiscal

instance : Scalar ℚ where
  ofInt n := n
  power base exponent := base ^ exponent
  checkedPower base exponent :=
    if base = 0 ∧ exponent < 0 then .error .zeroToNegativePower
    else if exponent.isInt then .ok (base ^ exponent.num)
    else .error .powerOverflow
  isFinite _ := true
  isWhole := Rat.isInt
  toFloat x := Number.ofRatio (x < 0) (x.num.natAbs * Number.unitsPerOne) x.den

namespace Scalar

@[simp] theorem ofInt_rat (n : ℤ) : (ofInt n : ℚ) = n := rfl

@[simp] theorem zero_rat : (zero : ℚ) = 0 := rfl

@[simp] theorem one_rat : (one : ℚ) = 1 := rfl

@[simp] theorem power_rat (base : ℚ) (exponent : ℤ) : power base exponent = base ^ exponent := rfl

theorem checkedPower_whole (base : ℚ) (exponent : ℤ) (nonzero : base ≠ 0) :
    checkedPower base (exponent : ℚ) = .ok (base ^ exponent) := by
  change (if base = 0 ∧ (exponent : ℚ) < 0 then _ else if (exponent : ℚ).isInt then _ else _) = _
  rw [if_neg fun zero => nonzero zero.1, if_pos (by rfl)]
  rfl

theorem divide_rat (x y : ℚ) (nonzero : y ≠ 0) : divide x y = .ok (x / y) := by
  rw [divide, zero_rat, if_neg (by simpa using nonzero)]

end Scalar

namespace Finance

theorem growth_whole (rate : ℚ) (periods : ℤ) (base : 1 + rate ≠ 0) :
    growth rate (periods : ℚ) = .ok ((1 + rate) ^ periods) := by
  have whole : Scalar.isWhole (periods : ℚ) = true := rfl
  simp only [growth, whole, Bool.not_true, Bool.and_false, Scalar.one_rat]
  exact Scalar.checkedPower_whole (1 + rate) periods base

end Finance

namespace Number

variable {M : Type} [AddCommMonoid M]

theorem sumFrom_eq (start : M) (terms : List M) : sumFrom start terms = start + terms.sum := by
  induction terms generalizing start with
  | nil => exact (add_zero start).symm
  | cons term rest ih =>
      change sumFrom (start + term) rest = _
      rw [ih, List.sum_cons, add_assoc]

theorem laneSums_sum (blocks : Nat) (lanes terms : List M) (width : lanes.length = 8)
    (enough : 8 * blocks ≤ terms.length) :
    (laneSums lanes blocks terms).sum = lanes.sum + (terms.take (8 * blocks)).sum := by
  induction blocks generalizing lanes terms with
  | zero => simp [laneSums]
  | succ blocks ih =>
      have block : (terms.take 8).length = 8 := by
        rw [List.length_take]
        omega
      have later : 8 * blocks ≤ (terms.drop 8).length := by
        rw [List.length_drop]
        omega
      have added : (List.zipWith (· + ·) lanes (terms.take 8)).length = 8 := by
        rw [List.length_zipWith, width, block]
        rfl
      have split : terms.take (8 * (blocks + 1)) = terms.take 8 ++ (terms.drop 8).take (8 * blocks) := by
        rw [← List.take_add]
        congr 1
        omega
      rw [laneSums, ih _ _ added later, split, List.sum_append, ← add_assoc,
        ← List.sum_add_sum_eq_sum_zipWith_of_length_eq lanes _ (width.trans block.symm)]

theorem joinLanes_sum (lanes : List M) : joinLanes 0 lanes = lanes.sum := by
  unfold joinLanes
  split
  · simp only [List.sum_cons, List.sum_nil, add_zero, add_assoc]
  · rw [sumFrom_eq, zero_add]

theorem blockSum_sum (terms : List M) : blockSum 0 terms = terms.sum := by
  unfold blockSum
  split
  · rw [sumFrom_eq, zero_add]
  · rename_i many
    have first : (terms.take 8).length = 8 := by
      rw [List.length_take]
      omega
    have rest : 8 * (terms.length / 8 - 1) ≤ (terms.drop 8).length := by
      rw [List.length_drop]
      omega
    have whole : terms.take 8 ++ (terms.drop 8).take (8 * (terms.length / 8 - 1)) =
        terms.take (terms.length / 8 * 8) := by
      rw [← List.take_add]
      congr 1
      omega
    dsimp only
    rw [sumFrom_eq, joinLanes_sum, laneSums_sum _ _ _ first rest, ← List.sum_append, whole,
      List.sum_take_add_sum_drop]

theorem pairwiseSum_sum (terms : List M) : pairwiseSum 0 terms = terms.sum := by
  fun_induction pairwiseSum 0 terms with
  | case1 terms => exact blockSum_sum terms
  | case2 terms _ half first second =>
      rw [first, second, List.sum_take_add_sum_drop]

end Number

end Fiscal
