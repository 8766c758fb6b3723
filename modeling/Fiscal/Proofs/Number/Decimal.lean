import Fiscal.Number.Shortest
import Mathlib.Algebra.Group.Nat.Defs

set_option autoImplicit false

namespace Fiscal.Number

theorem power_positive (count : Nat) : 0 < Nat.pow 10 count := Nat.pow_pos (by decide)

theorem unitsPerOne_positive : 0 < unitsPerOne := by
  unfold unitsPerOne
  exact Nat.pow_pos (by decide)

section Rounding

variable {bits : Nat}

theorem divideToEven_scale (factor num den : Nat) (positive : 0 < factor) :
    divideToEven (factor * num) (factor * den) = divideToEven num den := by
  have below (r : Nat) : (2 * (factor * r) < factor * den) ↔ 2 * r < den := by
    rw [Nat.mul_left_comm]
    exact Nat.mul_lt_mul_left positive
  have half (r : Nat) : (2 * (factor * r) == factor * den) = (2 * r == den) := by
    rw [Nat.mul_left_comm, Bool.eq_iff_iff, beq_iff_eq, beq_iff_eq]
    exact Nat.mul_right_inj (Nat.ne_of_gt positive)
  unfold divideToEven
  dsimp only
  rw [Nat.mul_div_mul_left num den positive, Nat.mul_mod_mul_left]
  simp only [below, half]

theorem divideToEven_whole (num den : Nat) (positive : 0 < den) : divideToEven (num * den) den = num := by
  unfold divideToEven
  dsimp only
  rw [Nat.mul_mod_left, Nat.mul_div_cancel num positive, if_pos]
  simp [positive]

theorem bitsOfRatio_scale (factor num den : Nat) (positive : 0 < factor) :
    bitsOfRatio (factor * num) (factor * den) = bitsOfRatio num den := by
  unfold bitsOfRatio
  dsimp only
  rw [Nat.mul_div_mul_left num den positive, Nat.mul_assoc, divideToEven_scale _ _ _ positive]

theorem bitsOfRatio_zero : bitsOfRatio 0 1 = 0 := by decide

theorem log2_normal (field fraction : Nat) (small : fraction < Nat.pow 2 52) :
    ((Nat.pow 2 52 + fraction) * Nat.pow 2 field).log2 = 52 + field := by
  have some : (Nat.pow 2 52 + fraction) * Nat.pow 2 field ≠ 0 :=
    Nat.mul_ne_zero (by simp [Nat.pow_eq]) (Nat.ne_of_gt (Nat.pow_pos (by decide)))
  rw [Nat.log2_eq_iff some]
  simp only [Nat.pow_eq] at small ⊢
  constructor
  · rw [Nat.pow_add]
    exact Nat.mul_le_mul_right _ (Nat.le_add_right _ _)
  · rw [show 52 + field + 1 = 53 + field by omega, Nat.pow_add]
    exact Nat.mul_lt_mul_of_pos_right (by omega) (Nat.pow_pos (by decide))

theorem bitsOfRatio_units (within : bits ≤ infinityBits) : bitsOfRatio (unitsOfBits bits) 1 = bits := by
  have parts := Nat.div_add_mod bits (Nat.pow 2 52)
  have small : bits % Nat.pow 2 52 < Nat.pow 2 52 := Nat.mod_lt _ (by decide)
  unfold bitsOfRatio unitsOfBits
  simp only [Nat.div_one, Nat.one_mul]
  by_cases subnormal : bits / Nat.pow 2 52 = 0
  · rw [if_pos subnormal]
    rw [subnormal, Nat.mul_zero, Nat.zero_add] at parts
    have low : bits.log2 + 1 - 53 = 0 := by
      by_cases none : bits = 0
      · rw [none]
        rfl
      · have := (Nat.log2_lt (k := 52) none).mpr (by rwa [parts] at small)
        omega
    have whole := divideToEven_whole bits 1 Nat.one_pos
    rw [Nat.mul_one] at whole
    rw [parts, low, Nat.zero_mul, Nat.zero_add, show Nat.pow 2 0 = 1 from rfl, whole, Nat.min_eq_right within]
  · have positive : 0 < Nat.pow 2 (bits / Nat.pow 2 52 - 1) := Nat.pow_pos (by decide)
    rw [if_neg subnormal, log2_normal _ _ small,
      show 52 + (bits / Nat.pow 2 52 - 1) + 1 - 53 = bits / Nat.pow 2 52 - 1 by omega,
      divideToEven_whole _ _ positive]
    obtain ⟨field, next⟩ := Nat.exists_eq_succ_of_ne_zero subnormal
    rw [next] at parts ⊢
    simp only [Nat.succ_sub_one, Nat.pow_eq] at parts ⊢
    omega

theorem power_split (m n : Nat) : Nat.pow 2 (m + n) = Nat.pow 2 m * Nat.pow 2 n := Nat.pow_add 2 m n

theorem power_le {m n : Nat} (within : m ≤ n) : Nat.pow 2 m ≤ Nat.pow 2 n := Nat.pow_le_pow_right (by decide) within

theorem unitsOfBits_bound (finite : bits < infinityBits) : unitsOfBits bits < Nat.pow 2 1024 * unitsPerOne := by
  have small : bits % Nat.pow 2 52 < Nat.pow 2 52 := Nat.mod_lt _ (by decide)
  have field : bits / Nat.pow 2 52 < 2047 :=
    (Nat.div_lt_iff_lt_mul (by decide)).mpr (Nat.lt_of_lt_of_le finite (by decide))
  rw [unitsPerOne, ← power_split]
  unfold unitsOfBits
  dsimp only
  split
  · exact Nat.lt_of_lt_of_le small (power_le (by decide))
  · have full : Nat.pow 2 52 + bits % Nat.pow 2 52 < Nat.pow 2 53 := by
      simp only [Nat.pow_eq] at small ⊢
      omega
    calc (Nat.pow 2 52 + bits % Nat.pow 2 52) * Nat.pow 2 (bits / Nat.pow 2 52 - 1)
        < Nat.pow 2 53 * Nat.pow 2 (bits / Nat.pow 2 52 - 1) :=
          Nat.mul_lt_mul_of_pos_right full (Nat.pow_pos (by decide))
      _ = Nat.pow 2 (53 + (bits / Nat.pow 2 52 - 1)) := (power_split _ _).symm
      _ ≤ Nat.pow 2 (1024 + 1074) := power_le (by omega)

theorem unitsOfBits_positive (positive : 0 < bits) : 0 < unitsOfBits bits := by
  have parts := Nat.div_add_mod bits (Nat.pow 2 52)
  unfold unitsOfBits
  dsimp only
  split
  · rename_i subnormal
    rw [subnormal, Nat.mul_zero, Nat.zero_add] at parts
    omega
  · exact Nat.mul_pos (Nat.add_pos_left (Nat.pow_pos (by decide)) _) (Nat.pow_pos (by decide))

end Rounding

namespace Decimal

theorem bits_zero (exponent : Int) : bits ⟨0, exponent⟩ = 0 := if_pos rfl

section Digits

theorem digitCount_le_iff (n count : Nat) (positive : 0 < count) : digitCount n ≤ count ↔ n < 10 ^ count :=
  Nat.length_toDigits_le_iff (by decide) positive

theorem digitCount_ten (n : Nat) (positive : 0 < n) : digitCount (10 * n) = digitCount n + 1 := by
  have split := Nat.toDigits_append_toDigits (b := 10) (d := 0) (by decide) positive (by decide)
  rw [Nat.add_zero] at split
  unfold digitCount
  rw [← split, List.length_append, Nat.toDigits_zero]
  rfl

end Digits

theorem bits_ten (digits : Nat) (exponent : Int) : bits ⟨10 * digits, exponent⟩ = bits ⟨digits, exponent + 1⟩ := by
  by_cases zero : digits = 0
  · rw [zero, Nat.mul_zero, bits_zero, bits_zero]
  · have positive := Nat.pos_of_ne_zero zero
    have count : (digitCount (10 * digits) : Int) + exponent = digitCount digits + (exponent + 1) := by
      rw [digitCount_ten digits positive]
      omega
    have same : bitsOfRatio (10 * digits * Nat.pow 10 exponent.toNat * unitsPerOne) (Nat.pow 10 (-exponent).toNat) =
        bitsOfRatio (digits * Nat.pow 10 (exponent + 1).toNat * unitsPerOne) (Nat.pow 10 (-(exponent + 1)).toNat) := by
      by_cases whole : 0 ≤ exponent
      · obtain ⟨power, rfl⟩ := Int.eq_ofNat_of_zero_le whole
        have left : (-(power : Int)).toNat = (-((power : Int) + 1)).toNat := by omega
        have up : ((power : Int) + 1).toNat = power + 1 := by omega
        rw [left, up, Int.toNat_natCast, show Nat.pow 10 (power + 1) = Nat.pow 10 power * 10 from rfl,
          Nat.mul_comm 10 digits, Nat.mul_assoc digits, Nat.mul_comm 10]
      · obtain ⟨power, rfl⟩ : ∃ power : Nat, exponent = -(power : Int) - 1 := ⟨(-exponent - 1).toNat, by omega⟩
        have none : (-(power : Int) - 1).toNat = 0 := by omega
        have also : (-(power : Int) - 1 + 1).toNat = 0 := by omega
        have down : (-(-(power : Int) - 1)).toNat = power + 1 := by omega
        have less : (-(-(power : Int) - 1 + 1)).toNat = power := by omega
        rw [none, also, down, less, show Nat.pow 10 (power + 1) = Nat.pow 10 power * 10 from rfl,
          Nat.mul_comm _ 10, Nat.mul_assoc 10, Nat.mul_assoc 10, bitsOfRatio_scale 10 _ _ (by decide)]
    unfold bits
    dsimp only
    rw [if_neg (Nat.mul_ne_zero (by decide) zero), if_neg zero, count, same]

theorem bits_power (count digits : Nat) (exponent : Int) :
    bits ⟨digits * 10 ^ count, exponent⟩ = bits ⟨digits, exponent + count⟩ := by
  induction count generalizing exponent with
  | zero => simp
  | succ count ih =>
      rw [Nat.pow_succ, ← Nat.mul_assoc, Nat.mul_comm _ 10, bits_ten, ih]
      congr 2
      omega

theorem trimZeros_bits (count : Nat) (d : Decimal) : (trimZeros count d).bits = d.bits := by
  induction count generalizing d with
  | zero => rfl
  | succ count ih =>
      unfold trimZeros
      split
      · rename_i trailing
        have split : 10 * (d.digits / 10) = d.digits := by omega
        rw [ih, ← bits_ten, split]
      · rfl

theorem normalize_bits (d : Decimal) : d.normalize.bits = d.bits := trimZeros_bits _ d

theorem bits_of_ratio (d : Decimal) (some : 0 < d.digits) (low : -400 ≤ digitCount d.digits + d.exponent)
    (high : digitCount d.digits + d.exponent ≤ 400) :
    d.bits =
      bitsOfRatio (d.digits * Nat.pow 10 d.exponent.toNat * unitsPerOne) (Nat.pow 10 (-d.exponent).toNat) := by
  unfold bits
  rw [if_neg (Nat.ne_of_gt some), if_neg (by omega), if_neg (by omega)]

end Decimal

section Reading

variable {bits : Nat}

theorem whole_bits {value : Nat} (finite : bits < infinityBits) (whole : unitsOfBits bits = value * unitsPerOne) :
    Decimal.bits ⟨value, 0⟩ = bits := by
  have exact := bitsOfRatio_units (Nat.le_of_lt finite)
  by_cases zero : value = 0
  · rw [whole, zero, Nat.zero_mul, bitsOfRatio_zero] at exact
    rw [zero, ← exact, Decimal.bits_zero]
  · have bound : value < 10 ^ 400 := by
      have units := unitsOfBits_bound finite
      rw [whole] at units
      have small : value < Nat.pow 2 1024 := Nat.lt_of_mul_lt_mul_right units
      exact Nat.lt_of_lt_of_le small (by decide +kernel)
    have count := (Decimal.digitCount_le_iff value 400 (by decide)).mpr bound
    rw [Decimal.bits_of_ratio ⟨value, 0⟩ (Nat.pos_of_ne_zero zero) (by simp only; omega) (by simp only; omega), ← exact,
      whole]
    simp [Nat.pow_eq]

theorem expansion_bits {units places : Nat} (unit : unitsPerOne = Nat.pow 2 places) (positive : 0 < units)
    (within : places ≤ Decimal.digitCount (units * Nat.pow 5 places) + 400)
    (also : Decimal.digitCount (units * Nat.pow 5 places) ≤ places + 400) :
    Decimal.bits ⟨units * Nat.pow 5 places, -places⟩ = bitsOfRatio units 1 := by
  have fives : 0 < Nat.pow 5 places := Nat.pow_pos (by decide)
  have none : (-(places : Int)).toNat = 0 := by omega
  have all : (-(-(places : Int))).toNat = places := by omega
  have tens : Nat.pow 10 places = Nat.pow 5 places * unitsPerOne := by
    rw [unit]
    exact Nat.mul_pow 5 2 places
  rw [Decimal.bits_of_ratio _ (Nat.mul_pos positive fives) (by dsimp only; omega) (by dsimp only; omega)]
  dsimp only
  have scaled := bitsOfRatio_scale (Nat.pow 10 places) units 1 (power_positive places)
  rw [Nat.mul_one] at scaled
  rw [none, all, show Nat.pow 10 0 = 1 from rfl, Nat.mul_one, ← scaled, tens, Nat.mul_assoc, Nat.mul_comm units]

theorem exactDecimal_bits (positive : 0 < bits) (finite : bits < infinityBits) :
    (exactDecimal (unitsOfBits bits)).bits = bits := by
  have units := unitsOfBits_positive positive
  have low : ¬ Decimal.digitCount (unitsOfBits bits * Nat.pow 5 1074) ≤ 674 := by
    rw [Decimal.digitCount_le_iff _ _ (by decide), Nat.not_lt]
    exact Nat.le_trans (by decide +kernel) (Nat.le_mul_of_pos_left _ units)
  have high : Decimal.digitCount (unitsOfBits bits * Nat.pow 5 1074) ≤ 1474 := by
    rw [Decimal.digitCount_le_iff _ _ (by decide)]
    have fives (places : Nat) : 0 < Nat.pow 5 places := Nat.pow_pos (by decide)
    have numeric : Nat.pow 2 1024 * unitsPerOne * Nat.pow 5 1074 ≤ 10 ^ 1474 := by decide +kernel
    exact Nat.lt_of_lt_of_le (Nat.mul_lt_mul_of_pos_right (unitsOfBits_bound finite) (fives _)) numeric
  have wide : 1074 ≤ Decimal.digitCount (unitsOfBits bits * Nat.pow 5 1074) + 400 :=
    Nat.le_trans (by decide) (Nat.add_le_add_right (Nat.lt_of_not_le low) 400)
  have same := expansion_bits rfl units wide high
  exact same.trans (bitsOfRatio_units (Nat.le_of_lt finite))

-- The fewest digits read back to the double they were found for.
theorem shortest_bits (positive : 0 < bits) (finite : bits < infinityBits) : (shortestOfBits bits).bits = bits := by
  unfold shortestOfBits
  dsimp only
  rw [Decimal.normalize_bits]
  cases found : List.find? _ _ with
  | none =>
      rw [Option.getD_none]
      exact exactDecimal_bits positive finite
  | some d =>
      rw [Option.getD_some]
      have reads := List.find?_some found
      exact beq_iff_eq.mp reads

end Reading

end Fiscal.Number
