import Fiscal.Proofs.Finance.Exact
import Mathlib.Algebra.BigOperators.Fin
import Mathlib.Data.Multiset.Basic
import Mathlib.Tactic.FieldSimp
import Mathlib.Tactic.NormNum
import Mathlib.Tactic.Ring

set_option autoImplicit false

namespace Fiscal.Finance

open Scalar

section Sums

theorem singletons_sum (terms : List ℕ) : (terms.map fun term => ({term} : Multiset ℕ)).sum = terms := by
  induction terms with
  | nil => rfl
  | cons term rest ih => rw [List.map_cons, List.sum_cons, ih, Multiset.singleton_add, Multiset.cons_coe]

theorem discounted_cons (rate : ℚ) (period : ℕ) (flow : ℚ) (rest : List ℚ) :
    (discounted rate period (flow :: rest)).sum =
      flow / (1 + rate) ^ period + (discounted rate (period + 1) rest).sum := by
  rw [discounted, List.sum_cons, one_rat, power_rat, zpow_neg, zpow_natCast, ← div_eq_mul_inv]

theorem discounted_sum (rate : ℚ) (period : ℕ) (flows : List ℚ) :
    (discounted rate period flows).sum = ∑ i : Fin flows.length, flows[i] / (1 + rate) ^ (i.val + period) := by
  induction flows generalizing period with
  | nil => rfl
  | cons flow rest ih =>
      rw [discounted_cons, ih]
      simp only [List.length_cons, Fin.sum_univ_succ, Fin.val_zero, Nat.zero_add, Fin.val_succ]
      congr 1
      refine Finset.sum_congr rfl fun i _ => ?_
      congr 2
      omega

theorem discounted_append (rate : ℚ) (period : ℕ) (flows later : List ℚ) :
    discounted rate period (flows ++ later) =
      discounted rate period flows ++ discounted rate (period + flows.length) later := by
  induction flows generalizing period with
  | nil => rfl
  | cons flow rest ih =>
      rw [List.cons_append, discounted, ih, discounted, List.cons_append, List.length_cons]
      congr 3
      omega

theorem discounted_later (rate : ℚ) (period delay : ℕ) (flows : List ℚ) :
    (discounted rate (period + delay) flows).sum = (discounted rate period flows).sum / (1 + rate) ^ delay := by
  induction flows generalizing period with
  | nil => exact (zero_div _).symm
  | cons flow rest ih =>
      have shift : period + delay + 1 = period + 1 + delay := by omega
      rw [discounted_cons, discounted_cons, shift, ih, add_div, pow_add, div_div]

theorem discounted_linear (rate : ℚ) (period : ℕ) (a b : ℚ) (first second : List ℚ)
    (same : first.length = second.length) :
    (discounted rate period (List.zipWith (fun x y => a * x + b * y) first second)).sum =
      a * (discounted rate period first).sum + b * (discounted rate period second).sum := by
  induction first generalizing period second with
  | nil =>
      cases List.length_eq_zero_iff.mp same.symm
      simp [discounted]
  | cons x rest ih =>
      cases second with
      | nil => cases same
      | cons y others =>
          rw [List.zipWith_cons_cons, discounted_cons, discounted_cons, discounted_cons,
            ih _ others (Nat.succ.inj same)]
          ring

theorem discounted_level {rate : ℚ} (base : 1 + rate ≠ 0) (moving : rate ≠ 0) (payment : ℚ) (count delay : ℕ) :
    (discounted rate (delay + 1) (List.replicate count payment)).sum =
      payment * (1 - 1 / (1 + rate) ^ count) / rate / (1 + rate) ^ delay := by
  induction count generalizing delay with
  | zero => simp [discounted]
  | succ count ih =>
      rw [List.replicate_succ, discounted_cons, ih (delay + 1), pow_succ, pow_succ]
      field_simp
      ring

end Sums

section Formulas

variable {rate : ℚ}

theorem npv_sum (other : rate ≠ -1) (flows : List ℚ) :
    npv rate flows = .ok (discounted rate 1 flows).sum := by
  cases flows with
  | nil => rfl
  | cons flow rest =>
      have distinct : (rate == -one) = false := by simpa using other
      rw [npv, distinct]
      exact congrArg Except.ok (Number.pairwiseSum_sum _)

theorem pv_whole (base : 1 + rate ≠ 0) (moving : rate ≠ 0) (periods : ℕ) (payment lump : ℚ) :
    pv rate periods payment lump =
      .ok (payment * (1 - 1 / (1 + rate) ^ periods) / rate - lump / (1 + rate) ^ periods) := by
  have grown : (1 + rate) ^ periods ≠ 0 := pow_ne_zero periods base
  have growth := growth_whole rate periods base
  rw [Int.cast_natCast, zpow_natCast] at growth
  rw [pv, growth]
  change presentValue ((1 + rate) ^ periods) rate payment lump = _
  simp only [presentValue, divide_rat _ _ grown, divide_rat _ _ moving]
  rfl

theorem fv_whole (base : 1 + rate ≠ 0) (moving : rate ≠ 0) (periods : ℕ) (payment lump : ℚ) :
    fv rate periods payment lump =
      .ok (lump * (1 + rate) ^ periods + payment * ((1 + rate) ^ periods - 1) / rate) := by
  have growth := growth_whole rate periods base
  rw [Int.cast_natCast, zpow_natCast] at growth
  rw [fv, growth]
  change futureValue ((1 + rate) ^ periods) rate payment lump = _
  rw [futureValue, divide_rat _ _ moving]
  rfl

end Formulas

-- The present value of level payments is the net present value of as many flows, the future value is the
-- present value grown over all periods, and the future value of a present value leads back.
theorem closed_forms_agree (rate : ℚ) (moving : rate ≠ 0) (base : 1 + rate ≠ 0) (payment lump : ℚ)
    (periods : ℕ) :
    ∃ annuity present,
      pv rate periods payment 0 = .ok annuity ∧
      npv rate (List.replicate periods payment) = .ok annuity ∧
      fv rate periods payment 0 = .ok ((1 + rate) ^ periods * annuity) ∧
      pv rate periods payment lump = .ok present ∧
      fv rate periods (-payment) present = .ok (-lump) := by
  have grown : (1 + rate) ^ periods ≠ 0 := pow_ne_zero periods base
  have other : rate ≠ -1 := by
    rintro rfl
    exact base (by norm_num)
  refine ⟨_, _, pv_whole base moving periods payment 0, ?_, ?_, pv_whole base moving periods payment lump, ?_⟩
  · have level := discounted_level base moving payment periods 0
    rw [Nat.zero_add, pow_zero, div_one] at level
    rw [npv_sum other, level, zero_div, sub_zero]
  · rw [fv_whole base moving]
    congr 1
    field_simp
    ring
  · rw [fv_whole base moving]
    congr 1
    field_simp
    ring

theorem closed_forms_agree_shrinking :
    ((-1 / 2 : ℚ) ≠ 0 ∧ 1 + (-1 / 2 : ℚ) ≠ 0) ∧
      pv (-1 / 2 : ℚ) (3 : ℕ) 5 0 = .ok 70 ∧ npv (-1 / 2 : ℚ) [5, 5, 5] = .ok 70 ∧
      fv (-1 / 2 : ℚ) (3 : ℕ) 5 0 = .ok ((1 + (-1 / 2)) ^ 3 * 70) ∧
      pv (-1 / 2 : ℚ) (3 : ℕ) 5 7 = .ok 14 ∧ fv (-1 / 2 : ℚ) (3 : ℕ) (-5) 14 = .ok (-7) := by
  have moving : (-1 / 2 : ℚ) ≠ 0 := by norm_num
  have base : 1 + (-1 / 2 : ℚ) ≠ 0 := by norm_num
  obtain ⟨annuity, present, paid, summed, grown, worth, back⟩ :=
    closed_forms_agree (-1 / 2) moving base 5 7 3
  have seventy : annuity = 70 := by
    rw [Except.ok.inj (paid.symm.trans (pv_whole base moving 3 5 0))]
    norm_num
  have fourteen : present = 14 := by
    rw [Except.ok.inj (worth.symm.trans (pv_whole base moving 3 5 7))]
    norm_num
  rw [seventy] at paid summed grown
  rw [fourteen] at worth back
  exact ⟨⟨moving, base⟩, paid, summed, grown, worth, back⟩

-- The net present value of flows: each counted once and divided by the growth up to its period, so that later
-- flows count less by the growth before them, and all is linear in the flows.
theorem npv_sums_flows (rate : ℚ) (other : rate ≠ -1) :
    (∀ terms : List ℕ, Number.pairwiseSum 0 (terms.map fun term => ({term} : Multiset ℕ)) = terms) ∧
    (∀ flows : List ℚ,
      npv rate flows = .ok (∑ i : Fin flows.length, flows[i] / (1 + rate) ^ (i.val + 1))) ∧
    (∀ flows later : List ℚ, ∃ value rest,
      npv rate flows = .ok value ∧ npv rate later = .ok rest ∧
        npv rate (flows ++ later) = .ok (value + rest / (1 + rate) ^ flows.length)) ∧
    (∀ (a b : ℚ) (first second : List ℚ), first.length = second.length → ∃ value rest,
      npv rate first = .ok value ∧ npv rate second = .ok rest ∧
        npv rate (List.zipWith (fun x y => a * x + b * y) first second) =
          .ok (a * value + b * rest)) := by
  refine ⟨fun terms => ?_, fun flows => ?_, fun flows later => ?_, fun a b first second same => ?_⟩
  · rw [Number.pairwiseSum_sum, singletons_sum]
  · rw [npv_sum other, discounted_sum]
  · refine ⟨_, _, npv_sum other flows, npv_sum other later, ?_⟩
    rw [npv_sum other, discounted_append, List.sum_append, discounted_later]
  · refine ⟨_, _, npv_sum other first, npv_sum other second, ?_⟩
    rw [npv_sum other, discounted_linear _ _ _ _ _ _ same]

theorem npv_of_long_series :
    (1 / 10 : ℚ) ≠ -1 ∧ ∃ value rest,
      npv (1 / 10 : ℚ) (List.replicate 129 110) = .ok value ∧
      value = ∑ i : Fin (List.replicate 129 (110 : ℚ)).length,
        (List.replicate 129 (110 : ℚ))[i] / (1 + 1 / 10) ^ (i.val + 1) ∧
      npv (1 / 10 : ℚ) [121] = .ok rest ∧
      npv (1 / 10 : ℚ) (List.replicate 129 110 ++ [121]) = .ok (value + rest / (1 + 1 / 10) ^ 129) := by
  have other : (1 / 10 : ℚ) ≠ -1 := by norm_num
  obtain ⟨_, summed, later, _⟩ := npv_sums_flows (1 / 10) other
  obtain ⟨value, rest, first, second, both⟩ := later (List.replicate 129 110) [121]
  refine ⟨other, value, rest, first, ?_, second, ?_⟩
  · exact Except.ok.inj (first.symm.trans (summed (List.replicate 129 110)))
  · rwa [List.length_replicate] at both

end Fiscal.Finance
