import Fiscal.Finance.Average
import Fiscal.Proofs.Finance.Exact
import Mathlib.Algebra.BigOperators.Ring.Finset
import Mathlib.Algebra.BigOperators.Ring.List
import Mathlib.Algebra.Order.BigOperators.Group.Finset
import Mathlib.Algebra.Order.Field.Basic
import Mathlib.Tactic.Linarith
import Mathlib.Tactic.NormNum
import Mathlib.Tactic.Ring

set_option autoImplicit false

namespace Fiscal.Finance

open Scalar

section Windows

def plainMean (values : List ℚ) : ℚ := values.sum / values.length

def trailing (series : List ℚ) (window place : ℕ) : List ℚ :=
  (series.take (place + 1)).drop (place + 1 - window)

variable {series : List ℚ} {window place : ℕ}

theorem runningSums_getElem? (total : ℚ) (series : List ℚ) (place : ℕ) (within : place < series.length) :
    (runningSums total series)[place]? = some (total + (series.take (place + 1)).sum) := by
  induction series generalizing total place with
  | nil => cases within
  | cons first rest ih =>
      cases place with
      | zero => simp [runningSums]
      | succ place =>
          rw [runningSums, List.getElem?_cons_succ, ih _ place (Nat.lt_of_succ_lt_succ within),
            List.take_succ_cons, List.sum_cons, add_assoc]

theorem cumulativeSums_getElem? (within : place ≤ series.length) :
    (cumulativeSums series)[place]? = some (series.take place).sum := by
  cases series with
  | nil =>
      cases Nat.le_zero.mp within
      rfl
  | cons first rest =>
      match place with
      | 0 => rfl
      | 1 => simp [cumulativeSums]
      | place + 2 =>
          rw [cumulativeSums, List.getElem?_cons_succ, List.getElem?_cons_succ,
            runningSums_getElem? first rest place (Nat.lt_of_succ_lt_succ within), List.take_succ_cons, List.sum_cons]

theorem trailing_length (within : place < series.length) :
    (trailing series window place).length = place + 1 - (place + 1 - window) := by
  rw [trailing, List.length_drop, List.length_take]
  omega

theorem trailing_sum (series : List ℚ) (window place : ℕ) :
    (series.take (place + 1)).sum - (series.take (place + 1 - window)).sum = (trailing series window place).sum := by
  have start : (series.take (place + 1)).take (place + 1 - window) = series.take (place + 1 - window) := by
    rw [List.take_take]
    congr 1
    omega
  have split := List.sum_take_add_sum_drop (series.take (place + 1)) (place + 1 - window)
  rw [start] at split
  rw [trailing, ← split, add_sub_cancel_left]

theorem trailingMean_plain (within : place < series.length) :
    trailingMean (cumulativeSums series).toArray window place = plainMean (trailing series window place) := by
  have sums (k : ℕ) (bound : k ≤ series.length) :
      (cumulativeSums series).toArray.getD k zero = (series.take k).sum := by
    rw [Array.getD_eq_getD_getElem?, List.getElem?_toArray, cumulativeSums_getElem? bound, Option.getD_some]
  have count : (ofNat (place + 1 - (place + 1 - window)) : ℚ) = (trailing series window place).length := by
    rw [trailing_length within]
    rfl
  rw [trailingMean, sums _ within, sums _ (by omega), trailing_sum, count, plainMean]

theorem windowMean_plain (size : ℕ) (series : List ℚ) (full : size ≤ series.length) :
    windowMean size series = plainMean (series.take size) := by
  have length : (series.take size).length = size := by
    rw [List.length_take]
    omega
  rw [windowMean, plainMean, Number.sumFrom_eq, zero_rat, zero_add, List.sum_map_mul_right, List.map_id',
    length, one_rat, mul_one_div]
  rfl

theorem window_trailing (positive : 1 ≤ window) (start : ℕ) :
    (series.drop start).take window = trailing series window (start + window - 1) := by
  have last : start + window - 1 + 1 = start + window := by omega
  rw [trailing, last, Nat.add_sub_cancel, List.drop_take, Nat.add_sub_cancel_left]

theorem rollingMean_plain (positive : 1 ≤ window) :
    rollingMean series window =
      .ok ((List.range series.length).map fun place => plainMean (trailing series window place)) := by
  have many : ¬ (window : ℤ) < 1 := by omega
  rw [rollingMean, if_neg many, Int.toNat_natCast]
  refine congrArg Except.ok (List.map_congr_left fun place member => ?_)
  exact trailingMean_plain (List.mem_range.mp member)

theorem sma_plain (positive : 1 ≤ window) :
    sma series window =
      .ok ((List.range (series.length + 1 - window)).map fun start =>
        plainMean (trailing series window (start + window - 1))) := by
  have many : ¬ (window : ℤ) < 1 := by omega
  rw [sma, if_neg many, Int.toNat_natCast]
  refine congrArg Except.ok (List.map_congr_left fun start member => ?_)
  have before := List.mem_range.mp member
  have full : window ≤ (series.drop start).length := by
    rw [List.length_drop]
    omega
  rw [windowMean_plain window _ full, window_trailing positive]

end Windows

-- Trailing means are plain means of the values that the window reaches back to, and the means over full windows
-- are the trailing ones from the place on where the window is full.
theorem moving_averages (series : List ℚ) (window : ℕ) (positive : 1 ≤ window) :
    ∃ means, rollingMean series window = .ok means ∧ means.length = series.length ∧
      (∀ place < series.length,
        means[place]? = some (plainMean ((series.take (place + 1)).drop (place + 1 - window)))) ∧
      sma series window = .ok (means.drop (window - 1)) ∧
      (means.drop (window - 1)).length = series.length + 1 - window := by
  refine ⟨_, rollingMean_plain positive, by simp, fun place within => ?_, ?_, ?_⟩
  · rw [List.getElem?_map, List.getElem?_range within]
    rfl
  · rw [sma_plain positive]
    refine congrArg Except.ok (List.ext_getElem? fun start => ?_)
    have shift : window - 1 + start = start + window - 1 := by omega
    rw [List.getElem?_drop, List.getElem?_map, List.getElem?_map, shift]
    by_cases full : start < series.length + 1 - window
    · rw [List.getElem?_range full, List.getElem?_range (by omega)]
      rfl
    · rw [List.getElem?_eq_none (by simpa using full), List.getElem?_eq_none (by simp; omega)]
      rfl
  · rw [List.length_drop, List.length_map, List.length_range]
    omega

theorem moving_averages_of_five :
    1 ≤ 3 ∧ rollingMean [6, 2, 4, 9, (5 : ℚ)] 3 = .ok [6, 4, 4, 5, 6] ∧
      sma [6, 2, 4, 9, (5 : ℚ)] 3 = .ok [4, 5, 6] := by
  obtain ⟨means, rolled, length, plain, full, _⟩ := moving_averages [6, 2, 4, 9, 5] 3 (by decide)
  have same : means = [6, 4, 4, 5, 6] := by
    match means, length with
    | [first, second, third, fourth, fifth], _ =>
        have at0 := plain 0 (by decide)
        have at1 := plain 1 (by decide)
        have at2 := plain 2 (by decide)
        have at3 := plain 3 (by decide)
        have at4 := plain 4 (by decide)
        norm_num [plainMean] at at0 at1 at2 at3 at4
        simp [at0, at1, at2, at3, at4]
  rw [same] at rolled full
  exact ⟨by decide, rolled, full⟩

section Smoothing

def weight (k : ℚ) (place : ℕ) : ℕ → ℚ
  | 0 => (1 - k) ^ place
  | j + 1 => k * (1 - k) ^ (place - (j + 1))

variable {k : ℚ} {place : ℕ}

theorem weight_later (k : ℚ) {place j : ℕ} (within : j ≤ place) :
    weight k (place + 1) j = weight k place j * (1 - k) := by
  cases j with
  | zero => exact pow_succ (1 - k) place
  | succ j =>
      have shift : place + 1 - (j + 1) = place - (j + 1) + 1 := by omega
      rw [weight, weight, shift, pow_succ, mul_assoc]

theorem weight_last (k : ℚ) (place : ℕ) : weight k (place + 1) (place + 1) = k := by
  rw [weight, Nat.sub_self, pow_zero, mul_one]

theorem weighted_later (k : ℚ) (place : ℕ) (value : ℕ → ℚ) :
    ∑ j ∈ Finset.range (place + 2), weight k (place + 1) j * value j =
      value (place + 1) * k + (∑ j ∈ Finset.range (place + 1), weight k place j * value j) * (1 - k) := by
  rw [Finset.sum_range_succ, weight_last, Finset.sum_mul, add_comm, mul_comm k]
  congr 1
  refine Finset.sum_congr rfl fun j member => ?_
  rw [weight_later k (Nat.le_of_lt_succ (Finset.mem_range.mp member))]
  ring

theorem weights_sum (k : ℚ) (place : ℕ) : ∑ j ∈ Finset.range (place + 1), weight k place j = 1 := by
  induction place with
  | zero => simp [weight]
  | succ place ih =>
      have later := weighted_later k place fun _ => 1
      simp only [mul_one, ih] at later
      rw [later]
      ring

theorem weight_nonneg (share : 0 ≤ k) (rest : k ≤ 1) (place j : ℕ) : 0 ≤ weight k place j := by
  have left : 0 ≤ 1 - k := sub_nonneg.mpr rest
  cases j with
  | zero => exact pow_nonneg left place
  | succ j => exact mul_nonneg share (pow_nonneg left _)

theorem weighted_between (share : 0 ≤ k) (rest : k ≤ 1) {low high : ℚ} {value : ℕ → ℚ}
    (inside : ∀ j ≤ place, low ≤ value j ∧ value j ≤ high) :
    low ≤ ∑ j ∈ Finset.range (place + 1), weight k place j * value j ∧
      ∑ j ∈ Finset.range (place + 1), weight k place j * value j ≤ high := by
  have bounds (j : ℕ) (member : j ∈ Finset.range (place + 1)) :
      weight k place j * low ≤ weight k place j * value j ∧
        weight k place j * value j ≤ weight k place j * high := by
    obtain ⟨above, below⟩ := inside j (Nat.le_of_lt_succ (Finset.mem_range.mp member))
    have heavy := weight_nonneg share rest place j
    exact ⟨mul_le_mul_of_nonneg_left above heavy, mul_le_mul_of_nonneg_left below heavy⟩
  have least := Finset.sum_le_sum fun j member => (bounds j member).1
  have greatest := Finset.sum_le_sum fun j member => (bounds j member).2
  rw [← Finset.sum_mul, weights_sum, one_mul] at least greatest
  exact ⟨least, greatest⟩

theorem blend_length (k average : ℚ) (rest : List ℚ) : (blend k average rest).length = rest.length := by
  induction rest generalizing average with
  | nil => rfl
  | cons x rest ih => exact congrArg (· + 1) (ih _)

theorem blend_later (k : ℚ) {average before next : ℚ} {rest : List ℚ}
    (found : (average :: blend k average rest)[place]? = some before) (given : rest[place]? = some next) :
    (average :: blend k average rest)[place + 1]? = some (next * k + before * (1 - k)) := by
  induction place generalizing average rest with
  | zero =>
      cases rest with
      | nil => cases given
      | cons x rest =>
          cases found
          cases given
          rfl
  | succ place ih =>
      cases rest with
      | nil => cases given
      | cons x rest => exact ih found given

theorem blend_weighted (k first : ℚ) (rest : List ℚ) (within : place ≤ rest.length) :
    (first :: blend k first rest)[place]? =
      some (∑ j ∈ Finset.range (place + 1), weight k place j * (first :: rest).getD j 0) := by
  induction place with
  | zero => simp [weight]
  | succ place ih =>
      have next : rest[place]? = some ((first :: rest).getD (place + 1) 0) := by
        rw [List.getD_cons_succ, List.getD_eq_getElem?_getD, List.getElem?_eq_getElem within, Option.getD_some]
      rw [blend_later k (ih (Nat.le_of_succ_le within)) next, weighted_later]

def share (period : ℕ) : ℚ := 2 / (period + 1)

theorem share_nonneg (period : ℕ) : 0 ≤ share period := by
  unfold share
  positivity

theorem share_le_one {period : ℕ} (positive : 1 ≤ period) : share period ≤ 1 := by
  have many : (1 : ℚ) ≤ period := by exact_mod_cast positive
  rw [share, div_le_one (by linarith)]
  linarith

theorem ema_blend {period : ℕ} (positive : 1 ≤ period) (first : ℚ) (rest : List ℚ) :
    ema (first :: rest) period = .ok (first :: blend (share period) first rest) := by
  have many : ¬ (period : ℤ) < 1 := by omega
  have next : ((period : ℤ) + 1).toNat = period + 1 := by omega
  have divided : (ofNat 2 / ofNat (period + 1) : ℚ) = share period := by
    simp [share, ofNat]
  rw [ema, if_neg many, next, divided]

theorem between_ends {series : List ℚ} {average : ℚ} (nonempty : series ≠ [])
    (inside : ∀ low high, (∀ x ∈ series, low ≤ x ∧ x ≤ high) → low ≤ average ∧ average ≤ high) :
    ∃ least greatest, series.min? = some least ∧ series.max? = some greatest ∧ least ≤ average ∧
      average ≤ greatest := by
  obtain ⟨least, lowest⟩ := Option.isSome_iff_exists.mp (List.isSome_min?_of_ne_nil nonempty)
  obtain ⟨greatest, highest⟩ := Option.isSome_iff_exists.mp (List.isSome_max?_of_ne_nil nonempty)
  refine ⟨least, greatest, lowest, highest, inside least greatest fun x member => ?_⟩
  exact ⟨(List.min?_eq_some_iff.mp lowest).2 x member, (List.max?_eq_some_iff.mp highest).2 x member⟩

end Smoothing

-- The average at a place is the sum of all values up to it, by weights that are not negative and add up to one;
-- so it lies between the least and the greatest of these values.
theorem exponential_average_weighs (series : List ℚ) (period : ℕ) (nonempty : series ≠ [])
    (positive : 1 ≤ period) :
    ∃ averages, ema series period = .ok averages ∧ averages.length = series.length ∧
      averages.head? = series.head? ∧
      ∀ place average, averages[place]? = some average →
        (∃ least greatest, (series.take (place + 1)).min? = some least ∧
          (series.take (place + 1)).max? = some greatest ∧ least ≤ average ∧ average ≤ greatest) ∧
        average = ∑ j ∈ Finset.range (place + 1), weight (share period) place j * series.getD j 0 ∧
        (∀ j, 0 ≤ weight (share period) place j) ∧
        ∑ j ∈ Finset.range (place + 1), weight (share period) place j = 1 := by
  obtain ⟨first, rest, rfl⟩ := List.exists_cons_of_ne_nil nonempty
  have part := share_nonneg period
  have whole := share_le_one positive
  refine ⟨_, ema_blend positive first rest, ?_, rfl, fun place average found => ?_⟩
  · rw [List.length_cons, blend_length, List.length_cons]
  · have within : place < (first :: rest).length := by
      have bound := (List.getElem?_eq_some_iff.mp found).1
      rwa [List.length_cons, blend_length] at bound
    rw [blend_weighted _ _ _ (Nat.le_of_lt_succ within), Option.some.injEq] at found
    refine ⟨between_ends (by simp) fun low high inside => ?_, found.symm, weight_nonneg part whole place,
      weights_sum _ _⟩
    rw [← found]
    refine weighted_between part whole fun j early => inside _ ?_
    -- Every value that has a weight is one of those up to the place.
    have known := Nat.lt_of_le_of_lt early within
    have found : ((first :: rest).take (place + 1))[j]? = some ((first :: rest).getD j 0) := by
      rw [List.getElem?_take_of_lt (Nat.lt_succ_of_le early), List.getD_eq_getElem?_getD,
        List.getElem?_eq_getElem known, Option.getD_some]
    exact List.mem_of_getElem? found

theorem exponential_average_of_three :
    ([4, 8, (2 : ℚ)] ≠ [] ∧ 1 ≤ 3) ∧ ema [4, 8, (2 : ℚ)] 3 = .ok [4, 6, 4] ∧
      ∃ least greatest, [4, 8, (2 : ℚ)].min? = some least ∧ [4, 8, (2 : ℚ)].max? = some greatest ∧
        least ≤ 4 ∧ 4 ≤ greatest := by
  have nonempty : [4, 8, (2 : ℚ)] ≠ [] := List.cons_ne_nil _ _
  obtain ⟨averages, computed, length, _, places⟩ := exponential_average_weighs [4, 8, 2] 3 nonempty (by decide)
  match averages, length with
  | [first, second, third], _ =>
      have at0 := (places 0 first rfl).2.1
      have at1 := (places 1 second rfl).2.1
      have at2 := (places 2 third rfl).2.1
      norm_num [Finset.sum_range_succ, weight, share] at at0 at1 at2
      have ends := (places 2 third rfl).1
      rw [at2] at ends
      rw [at0, at1, at2] at computed
      exact ⟨⟨nonempty, by decide⟩, computed, ends⟩

end Fiscal.Finance
