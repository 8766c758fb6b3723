import Fiscal.Proofs.Number.Rank

set_option autoImplicit false

namespace Fiscal.Number

open Float.Model UnpackedFloat

section Shifting

variable (em : ExtendedMantissa) (m n : Nat)

theorem shift_next : em >>> (n + 1) = (em >>> n).shiftRightOne := rfl

theorem shift_mantissa : (em >>> n).mantissa = em.mantissa / 2 ^ n := by
  induction n with
  | zero => exact (Nat.div_one _).symm
  | succ n ih =>
      rw [shift_next, Nat.pow_succ, ← Nat.div_div_eq_div_mul, ← ih]
      rfl

theorem shift_exact (whole : 2 ^ n ∣ m) :
    (⟨m, false, false⟩ : ExtendedMantissa) >>> n = ⟨m / 2 ^ n, false, false⟩ := by
  induction n with
  | zero =>
      rw [Nat.pow_zero, Nat.div_one]
      rfl
  | succ n ih =>
      obtain ⟨rest, rfl⟩ := whole
      have digit : 2 ^ (n + 1) * rest / 2 ^ n = 2 * rest := by
        rw [Nat.pow_succ, Nat.mul_assoc, Nat.mul_div_cancel_left _ (Nat.two_pow_pos n)]
      rw [shift_next, ih (Nat.dvd_trans (Nat.pow_dvd_pow 2 (Nat.le_succ n)) (Nat.dvd_mul_right _ _)), digit,
        Nat.mul_div_cancel_left _ (Nat.two_pow_pos _)]
      simp [ExtendedMantissa.shiftRightOne]

theorem roundedMantissa_cases : em.roundedMantissa = em.mantissa ∨ em.roundedMantissa = em.mantissa + 1 := by
  obtain ⟨digits, half, rest⟩ := em
  cases half <;> cases rest
  · exact .inl rfl
  · exact .inl rfl
  · change digits + digits % 2 = digits ∨ digits + digits % 2 = digits + 1
    omega
  · exact .inr rfl

end Shifting

section Rounding

variable {m n : Nat} {e f : Int}

-- What is kept of an exact number of units is on the same side of every double.
structure Keeps (units kept : Nat) : Prop where
  above : ∀ {n f}, Fits n f → magnitude n f ≤ units → magnitude n f ≤ kept
  below : ∀ {n f}, Fits n f → units ≤ magnitude n f → kept ≤ magnitude n f

def target (m : Nat) (e : Int) : Int := Format.binary64.targetExponent (totalExponent m e)

theorem target_eq (m : Nat) (e : Int) : target m e = max (m.log2 + 1 + e - 53) (-1074) := rfl

theorem target_least (m : Nat) (e : Int) : -1074 ≤ target m e := Int.le_max_right _ _

theorem log2_scaled (positive : 0 < m) (n : Nat) : (m * 2 ^ n).log2 = m.log2 + n := by
  induction n with
  | zero => rw [Nat.pow_zero, Nat.mul_one, Nat.add_zero]
  | succ n ih =>
      have scaled := Nat.mul_pos positive (Nat.two_pow_pos n)
      rw [Nat.pow_succ, ← Nat.mul_assoc, Nat.mul_comm _ 2, Nat.log2_two_mul (Nat.ne_of_gt scaled), ih, Nat.add_assoc]

theorem magnitude_shift (m n : Nat) (least : -1074 ≤ e) : magnitude m (e + n) = m * 2 ^ n * 2 ^ (e + 1074).toNat := by
  rw [magnitude, Nat.mul_assoc, ← Nat.pow_add]
  congr 2
  omega

theorem decrease_spec (positive : 0 < m) (least : -1074 ≤ e) :
    ∃ digits exponent, decreaseExponent m e (target m e) = (digits, exponent) ∧ 0 < digits ∧ -1074 ≤ exponent ∧
      exponent ≤ target m e ∧ target digits exponent = target m e ∧ magnitude digits exponent = magnitude m e := by
  have low := target_least m e
  have scale := Nat.two_pow_pos (e - target m e).toNat
  refine ⟨_, _, rfl, ?_, by omega, by omega, ?_, ?_⟩
  · rw [Nat.shiftLeft_eq]
    exact Nat.mul_pos positive scale
  · rw [target_eq, Nat.shiftLeft_eq, log2_scaled positive, target_eq]
    congr 1
    omega
  · rw [magnitude, Nat.shiftLeft_eq, Nat.mul_assoc, ← Nat.pow_add, magnitude]
    congr 2
    omega

theorem target_fits (positive : 0 < m) (least : -1074 ≤ e) (below : e ≤ target m e) :
    Fits (m / 2 ^ (target m e - e).toNat) (target m e) := by
  have known := target_eq m e
  have high := Nat.lt_log2_self (n := m)
  have low := Nat.log2_self_le (Nat.ne_of_gt positive)
  obtain ⟨shift, same⟩ : ∃ shift, shift = (target m e - e).toNat := ⟨_, rfl⟩
  have scale := Nat.two_pow_pos shift
  rw [← same]
  refine ⟨?_, target_least m e, ?_⟩
  · rw [Nat.div_lt_iff_lt_mul scale, ← Nat.pow_add]
    exact Nat.lt_of_lt_of_le high (Nat.pow_le_pow_right (by decide) (by omega))
  · by_cases tiny : target m e = -1074
    · exact .inl tiny
    · right
      rw [Nat.le_div_iff_mul_le scale, ← Nat.pow_add]
      exact Nat.le_trans (Nat.pow_le_pow_right (by decide) (by omega)) low

theorem magnitude_units {shift : Nat} (least : -1074 ≤ e) (above : e + shift ≤ f) :
    magnitude n f = n * 2 ^ (f - (e + shift)).toNat * 2 ^ shift * 2 ^ (e + 1074).toNat := by
  rw [magnitude, Nat.mul_assoc, Nat.mul_assoc, ← Nat.pow_add, ← Nat.pow_add]
  congr 2
  omega

theorem digits_le {shift : Nat} (least : -1074 ≤ e) : magnitude (m / 2 ^ shift) (e + shift) ≤ magnitude m e := by
  rw [magnitude_shift _ _ least]
  exact Nat.mul_le_mul_right _ (Nat.div_mul_le_self m (2 ^ shift))

theorem le_count {shift kept count : Nat} (near : kept = m / 2 ^ shift ∨ kept = m / 2 ^ shift + 1)
    (exact : 2 ^ shift ∣ m → kept = m / 2 ^ shift) (whole : m ≤ count * 2 ^ shift) : kept ≤ count := by
  by_cases divides : 2 ^ shift ∣ m
  · rw [exact divides]
    exact Nat.div_le_of_le_mul (Nat.mul_comm _ _ ▸ whole)
  · have most := Nat.div_mul_le_self m (2 ^ shift)
    have lost : m / 2 ^ shift * 2 ^ shift ≠ m := fun all => divides ⟨_, by rw [Nat.mul_comm, all]⟩
    have more : m / 2 ^ shift < count :=
      Nat.lt_of_mul_lt_mul_right (Nat.lt_of_lt_of_le (Nat.lt_of_le_of_ne most lost) whole)
    omega

-- A number without its last digits, or the next one of that many digits if something was lost. A double with a lower
-- exponent is below both, and every other one is a whole number of units of the exponent that is kept.
theorem keeps_digits {shift kept : Nat} (least : -1074 ≤ e) (fits : Fits (m / 2 ^ shift) (e + shift))
    (near : kept = m / 2 ^ shift ∨ kept = m / 2 ^ shift + 1) (exact : 2 ^ shift ∣ m → kept = m / 2 ^ shift) :
    Keeps (magnitude m e) (magnitude kept (e + shift)) := by
  have unit := Nat.two_pow_pos (e + 1074).toNat
  constructor
  · intro n f known under
    rcases Int.lt_or_le f (e + shift) with lower | higher
    · have grown : magnitude (m / 2 ^ shift) (e + shift) ≤ magnitude kept (e + shift) :=
        Nat.mul_le_mul_right _ (by omega)
      exact Nat.le_trans (Nat.le_of_lt (magnitude_lt known fits lower)) grown
    · rw [magnitude_units least higher] at under ⊢
      have whole := (Nat.le_div_iff_mul_le (Nat.two_pow_pos shift)).mpr (Nat.le_of_mul_le_mul_right under unit)
      rw [magnitude_shift _ _ least]
      exact Nat.mul_le_mul_right _ (Nat.mul_le_mul_right _ (by omega))
  · intro n f known upper
    rcases Int.lt_or_le f (e + shift) with lower | higher
    · have below := Nat.lt_of_lt_of_le (magnitude_lt known fits lower) (digits_le least)
      exact absurd below (Nat.not_lt.mpr upper)
    · rw [magnitude_units least higher] at upper ⊢
      have whole := Nat.le_of_mul_le_mul_right upper unit
      rw [magnitude_shift _ _ least]
      exact Nat.mul_le_mul_right _ (Nat.mul_le_mul_right _ (le_count near exact whole))

theorem shifted_digits (m : Nat) (e : Int) : shiftToTargetExponent Format.binary64 m e .exact =
    ((⟨m, false, false⟩ : ExtendedMantissa) >>> (target m e - e).toNat, e + ((target m e - e).toNat : Int)) := rfl

theorem settled_digits (positive : 0 < m) (most : m ≤ 2 ^ 53) (least : -1074 ≤ e) (full : e = -1074 ∨ 2 ^ 52 ≤ m) :
    ∃ settled exponent, shiftToTargetExponent Format.binary64 m e .exact = (settled, exponent) ∧
      0 < settled.mantissa ∧ Fits settled.mantissa exponent ∧ magnitude settled.mantissa exponent = magnitude m e := by
  have known := target_eq m e
  rcases Nat.lt_or_eq_of_le most with fewer | grown
  · have within : m.log2 < 53 := (Nat.log2_lt (Nat.ne_of_gt positive)).mpr fewer
    have none : (target m e - e).toNat = 0 := by omega
    rw [shifted_digits, none]
    refine ⟨_, _, rfl, ?_⟩
    rw [shift_mantissa, Nat.pow_zero, Nat.div_one, Int.natCast_zero, Int.add_zero]
    exact ⟨positive, ⟨fewer, least, full⟩, rfl⟩
  · have wide : m.log2 = 53 := by
      rw [grown]
      exact Nat.log2_two_pow
    have one : (target m e - e).toNat = 1 := by omega
    have half : m / 2 ^ 1 = 2 ^ 52 := by
      rw [grown]
      rfl
    rw [shifted_digits, one]
    refine ⟨_, _, rfl, ?_⟩
    rw [shift_mantissa, half, magnitude_shift _ _ least, magnitude, grown]
    exact ⟨by decide, ⟨by decide, by omega, .inr (Nat.le_refl _)⟩, rfl⟩

theorem rounded_twice {em settled : ExtendedMantissa} {last : Int} (sign : Sign)
    (first : shiftToTargetExponent Format.binary64 m e .exact = (em, f))
    (second : shiftToTargetExponent Format.binary64 em.roundedMantissa f .exact = (settled, last))
    (above : 0 < settled.mantissa) :
    roundWithAccuracy Format.binary64 sign m e .exact = .finite sign settled.mantissa last above := by
  unfold roundWithAccuracy
  rw [first]
  dsimp only
  rw [second]
  exact dif_neg (Nat.ne_of_gt above)

theorem round_keeps (sign : Sign) (positive : 0 < m) (least : -1074 ≤ e) :
    ∃ digits exponent above, UnpackedFloat.round Format.binary64 sign m e = .finite sign digits exponent above ∧
      Fits digits exponent ∧ Keeps (magnitude m e) (magnitude digits exponent) := by
  obtain ⟨digits, exponent, lowered, more, reaches, below, same, whole⟩ := decrease_spec positive least
  have fits := target_fits more reaches (same ▸ below)
  obtain ⟨shift, known⟩ : ∃ shift, shift = (target digits exponent - exponent).toNat := ⟨_, rfl⟩
  have reached : target digits exponent = exponent + shift := by omega
  obtain ⟨em, first⟩ : ∃ em, em = (⟨digits, false, false⟩ : ExtendedMantissa) >>> shift := ⟨_, rfl⟩
  have cut : em.mantissa = digits / 2 ^ shift := by rw [first, shift_mantissa]
  have near := roundedMantissa_cases em
  have exact (divides : 2 ^ shift ∣ digits) : em.roundedMantissa = digits / 2 ^ shift := by
    rw [first, shift_exact digits shift divides]
    rfl
  rw [← known, reached] at fits
  rw [cut] at near
  have keeps := keeps_digits reaches fits near exact
  have some : 0 < em.roundedMantissa := by
    rcases fits.full with tiny | used
    · have none : shift = 0 := by omega
      rw [none, Nat.pow_zero, Nat.div_one] at near
      omega
    · omega
  obtain ⟨settled, last, found, above, fitting, even⟩ :=
    settled_digits some (by have := fits.digits; omega) fits.least (by have := fits.full; omega)
  refine ⟨settled.mantissa, last, above, ?_, fitting, ?_⟩
  · have shifts : shiftToTargetExponent Format.binary64 digits exponent .exact = (em, exponent + shift) := by
      rw [shifted_digits, ← known, first]
    change (match decreaseExponent m e (target m e) with
      | (digits, exponent) => roundWithAccuracy Format.binary64 sign digits exponent .exact) = _
    rw [lowered]
    exact rounded_twice sign shifts found above
  · rw [even, ← whole]
    exact keeps

end Rounding

section Packing

variable {m : Nat} {e : Int} (sign : Sign)

theorem finite_congr {n : Nat} {f : Int} (digits : m = n) (exponent : e = f) (above : 0 < m) (positive : 0 < n) :
    UnpackedFloat.finite sign m e above = .finite sign n f positive := by
  subst digits exponent
  rfl

theorem standing_of_fits (fits : Fits m e) (highest : e ≤ 971) (above : 0 < m) :
    ∃ exponent mantissa, exponent ≠ -1#_ ∧ standing sign exponent mantissa = .finite sign m e above := by
  have digits := fits.digits
  have least := fits.least
  rcases Nat.lt_or_ge m (2 ^ 52) with tiny | normal
  · have low : e = -1074 := by
      have full := fits.full
      omega
    have kept : (BitVec.ofNat 52 m).toNat = m := by
      rw [BitVec.toNat_ofNat, Nat.mod_eq_of_lt tiny]
    have some : BitVec.ofNat 52 m ≠ 0#_ := by
      intro none
      rw [none] at kept
      exact Nat.ne_of_gt above kept.symm
    refine ⟨0#_, BitVec.ofNat 52 m, by decide, ?_⟩
    rw [standing, if_neg (by decide), if_pos rfl, dif_neg some]
    exact finite_congr sign kept low.symm _ _
  · have field : (BitVec.ofNat 11 (e + 1075).toNat).toNat = (e + 1075).toNat := by
      rw [BitVec.toNat_ofNat, Nat.mod_eq_of_lt (by omega)]
    have fraction : (BitVec.ofNat 52 (m - 2 ^ 52)).toNat = m - 2 ^ 52 := by
      rw [BitVec.toNat_ofNat, Nat.mod_eq_of_lt (by omega)]
    have finite : BitVec.ofNat 11 (e + 1075).toNat ≠ -1#_ := by
      intro full
      rw [full] at field
      change 2047 = _ at field
      omega
    have large : BitVec.ofNat 11 (e + 1075).toNat ≠ 0#_ := by
      intro none
      rw [none] at field
      change 0 = _ at field
      omega
    refine ⟨_, BitVec.ofNat 52 (m - 2 ^ 52), finite, ?_⟩
    rw [standing, if_neg finite, if_neg large]
    refine finite_congr sign ?_ ?_ _ _
    · rw [leading_toNat, fraction]
      omega
    · rw [field]
      omega

theorem repacked_fits (fits : Fits m e) (above : 0 < m) :
    (Float.Model.pack (.finite sign m e above)).unpack =
      if e ≤ 971 then .finite sign m e above else .infinity sign := by
  by_cases highest : e ≤ 971
  · rw [if_pos highest]
    obtain ⟨exponent, mantissa, finite, same⟩ := standing_of_fits sign fits highest above
    rw [← same]
    change UnpackedFloat.unpack Format.binary64 (UnpackedFloat.pack _ _) = _
    rw [pack_standing _ _ _ finite, unpack_standing, unpackMantissa_packComponents,
      unpackExponent_packComponents, unpackSign_packComponents, sign_there_and_back]
  · have bias : Format.binary64.exponentBias = 1023 := rfl
    rw [if_neg highest]
    change UnpackedFloat.unpack Format.binary64 (UnpackedFloat.pack _ _) = _
    unfold UnpackedFloat.pack
    dsimp only
    rw [if_pos (by omega)]
    cases sign <;> rfl

end Packing

section Sums

variable {m : Nat} {e : Int} {u v : UnpackedFloat}

-- No double is between an exact number of units and what is kept of it.
def SameSide (exact : Int) (u : UnpackedFloat) : Prop :=
  ∀ v, Canonical v → (rank v ≤ exact → rank v ≤ rank u) ∧ (exact ≤ rank v → rank u ≤ rank v)

theorem sameSide_self (u : UnpackedFloat) : SameSide (rank u) u := fun _ _ => ⟨id, id⟩

theorem fits_of_size (canonical : Canonical v) (some : 0 < size v) : ∃ n f, Fits n f ∧ size v = magnitude n f := by
  cases v with
  | notANumber | zero => exact absurd some (Nat.lt_irrefl 0)
  | infinity => exact ⟨_, _, ceiling_fits, rfl⟩
  | finite => exact ⟨_, _, canonical.1, rfl⟩

theorem ceiling_le (fits : Fits m e) (high : ¬ e ≤ 971) : ceiling ≤ magnitude m e := by
  rcases (show 972 < e ∨ e = 972 by omega) with higher | rfl
  · exact Nat.le_of_lt (magnitude_lt ceiling_fits fits higher)
  · have full := fits.full
    exact Nat.mul_le_mul_right _ (by omega)

theorem rounded_size (sign : Sign) (positive : 0 < m) (least : -1074 ≤ e) :
    Beyond sign (Float.Model.pack (UnpackedFloat.round Format.binary64 sign m e)).unpack ∧
      ∀ v, Canonical v → 0 < size v →
        (size v ≤ magnitude m e →
          size v ≤ size (Float.Model.pack (UnpackedFloat.round Format.binary64 sign m e)).unpack) ∧
        (magnitude m e ≤ size v →
          size (Float.Model.pack (UnpackedFloat.round Format.binary64 sign m e)).unpack ≤ size v) := by
  obtain ⟨digits, exponent, above, rounded, fits, keeps⟩ := round_keeps sign positive least
  rw [rounded, repacked_fits sign fits above]
  by_cases within : exponent ≤ 971
  · rw [if_pos within]
    refine ⟨rfl, fun v canonical some => ?_⟩
    obtain ⟨n, f, known, same⟩ := fits_of_size canonical some
    rw [same]
    exact ⟨keeps.above known, keeps.below known⟩
  · rw [if_neg within]
    refine ⟨rfl, fun v canonical some => ⟨fun _ => size_within canonical, fun beyond => ?_⟩⟩
    obtain ⟨n, f, known, same⟩ := fits_of_size canonical some
    rw [same] at beyond ⊢
    exact Nat.le_trans (ceiling_le fits within) (keeps.below known beyond)

theorem rounded_sameSide (sign : Sign) (positive : 0 < m) (least : -1074 ≤ e) :
    SameSide (sign.apply (magnitude m e))
      (Float.Model.pack (UnpackedFloat.round Format.binary64 sign m e)).unpack := by
  obtain ⟨beyond, sides⟩ := rounded_size sign positive least
  intro v canonical
  have apart := rank_natAbs v
  have side := sides v canonical
  have some : 0 < magnitude m e := magnitude_positive positive
  have kept := size_positive beyond
  rw [rank_beyond beyond]
  cases sign with
  | positive =>
      change (_ ≤ (magnitude m e : Int) → _ ≤ (size _ : Int)) ∧ ((magnitude m e : Int) ≤ _ → (size _ : Int) ≤ _)
      omega
  | negative =>
      change (_ ≤ -(magnitude m e : Int) → _ ≤ -(size _ : Int)) ∧ (-(magnitude m e : Int) ≤ _ → -(size _ : Int) ≤ _)
      omega

theorem repacked_zero (sign : Sign) : (Float.Model.pack (.zero sign)).unpack = .zero sign := by cases sign <;> rfl

theorem normalized_sameSide (digits : Int) (least : -1074 ≤ e) (zero : Sign) :
    SameSide (digits * 2 ^ (e + 1074).toNat)
      (Float.Model.pack (UnpackedFloat.normalize Format.binary64 digits e zero)).unpack := by
  unfold UnpackedFloat.normalize
  rcases lt_trichotomy digits 0 with below | rfl | above
  · have own : digits * 2 ^ (e + 1074).toNat = Sign.negative.apply (magnitude (-digits).toNat e) := by
      change _ = -((magnitude (-digits).toNat e : Nat) : Int)
      rw [magnitude, Int.natCast_mul, Int.toNat_of_nonneg (by omega), Int.neg_mul, Int.neg_neg]
      norm_cast
    rw [compare_lt_iff_lt.mpr below, own]
    exact rounded_sameSide .negative (by omega) least
  · rw [compare_eq_iff_eq.mpr rfl, Int.zero_mul]
    change SameSide 0 (Float.Model.pack (.zero zero)).unpack
    rw [repacked_zero, ← rank_zero zero]
    exact sameSide_self _
  · have own : digits * 2 ^ (e + 1074).toNat = Sign.positive.apply (magnitude digits.toNat e) := by
      change _ = ((magnitude digits.toNat e : Nat) : Int)
      rw [magnitude, Int.natCast_mul, Int.toNat_of_nonneg (by omega)]
      norm_cast
    rw [compare_gt_iff_gt.mpr above, own]
    exact rounded_sameSide .positive (by omega) least

theorem repacked_double (x : Float) : (Float.Model.pack (unpacked x)).unpack = unpacked x :=
  congrArg (UnpackedFloat.unpack Format.binary64) (packed x)

theorem apply_lowered (sign : Sign) (m : Nat) {f : Int} (least : -1074 ≤ f) (lower : f ≤ e) :
    sign.apply (magnitude m e) = sign.apply (m <<< (e - f).toNat) * 2 ^ (f + 1074).toNat := by
  have own : magnitude m e = m <<< (e - f).toNat * 2 ^ (f + 1074).toNat := by
    rw [magnitude, Nat.shiftLeft_eq, Nat.mul_assoc, ← Nat.pow_add]
    congr 2
    omega
  cases sign with
  | positive =>
      change ((magnitude m e : Nat) : Int) = ((m <<< (e - f).toNat : Nat) : Int) * _
      rw [own, Int.natCast_mul]
      norm_cast
  | negative =>
      change -((magnitude m e : Nat) : Int) = -((m <<< (e - f).toNat : Nat) : Int) * _
      rw [own, Int.natCast_mul, Int.neg_mul]
      norm_cast

theorem add_sameSide (x y : Float) (first : isFinite x = true) (second : isFinite y = true) :
    isNaN (x + y) = false ∧ SameSide (place x + place y) (unpacked (x + y)) := by
  change (Float.Model.pack (UnpackedFloat.add _ (unpacked x) (unpacked y))).unpack.isNaN = false ∧
    SameSide (rank (unpacked x) + rank (unpacked y))
      (Float.Model.pack (UnpackedFloat.add _ (unpacked x) (unpacked y))).unpack
  have known := unpacked_canonical x
  have also := unpacked_canonical y
  have same := repacked_double x
  have alike := repacked_double y
  change (unpacked x).isFinite = true at first
  change (unpacked y).isFinite = true at second
  cases one : unpacked x with
  | notANumber | infinity =>
      rw [one] at first
      cases first
  | zero sign =>
      cases other : unpacked y with
      | notANumber | infinity =>
          rw [other] at second
          cases second
      | zero opposite =>
          have whole : ∃ kept, UnpackedFloat.add Format.binary64 (.zero sign) (.zero opposite) = .zero kept := by
            cases sign <;> cases opposite <;> exact ⟨_, rfl⟩
          obtain ⟨kept, whole⟩ := whole
          rw [whole, repacked_zero]
          exact ⟨rfl, sameSide_self (.zero kept)⟩
      | finite opposite n f positive =>
          rw [other] at alike
          change (Float.Model.pack (.finite opposite n f positive)).unpack.isNaN = false ∧ _
          rw [alike, rank_zero, Int.zero_add]
          exact ⟨rfl, alike.symm ▸ sameSide_self _⟩
  | finite sign m e above =>
      rw [one] at known same
      cases other : unpacked y with
      | notANumber | infinity =>
          rw [other] at second
          cases second
      | zero opposite =>
          change (Float.Model.pack (.finite sign m e above)).unpack.isNaN = false ∧ _
          rw [same, rank_zero, Int.add_zero]
          exact ⟨rfl, same.symm ▸ sameSide_self _⟩
      | finite opposite n f positive =>
          rw [other] at also
          have least : -1074 ≤ min e f := Int.le_min.mpr ⟨known.1.least, also.1.least⟩
          refine ⟨?_, ?_⟩
          · rw [repacked_isNaN]
            exact normalize_isNaN _ _ _ _
          · change SameSide (sign.apply (magnitude m e) + opposite.apply (magnitude n f)) _
            rw [apply_lowered sign m least (Int.min_le_left _ _), apply_lowered opposite n least (Int.min_le_right _ _),
              ← Int.add_mul]
            exact normalized_sameSide _ least _

end Sums

section Steps

variable {x step : Float}

def along (step x : Float) : Int := if step > 0 then place x else -place x

theorem place_zero : place 0 = 0 := rfl

theorem step_side (finite : isFinite step = true) (moving : (step == 0) = false) :
    (0 < step ∧ 0 < place step) ∨ (¬ 0 < step ∧ place step < 0) := by
  have number : isNaN step = false := (regular_of_finite finite).1
  have apart : ¬ place step = place 0 := fun same => by
    rw [(equal_iff_place number rfl).mpr same] at moving
    cases moving
  rw [lt_iff_place rfl number]
  rw [place_zero] at apart ⊢
  omega

theorem add_goes (first : isFinite x = true) (second : isFinite step = true) (moving : (step == 0) = false) :
    x + step = x ∨ along step x < along step (x + step) := by
  obtain ⟨number, side⟩ := add_sameSide x step first second
  have still (same : place (x + step) = place x) : x + step = x := by
    rcases same_of_equal ((equal_iff_place number (regular_of_finite first).1).mpr same) with alike | ⟨sum, zero⟩
    · exact alike
    · -- A step from zero is the sum itself, so it is not lost.
      have reached := side (unpacked step) (unpacked_canonical step)
      change (place step ≤ _ → place step ≤ place (x + step)) ∧
        (_ ≤ place step → place (x + step) ≤ place step) at reached
      rcases step_side second moving with ⟨_, above⟩ | ⟨_, below⟩ <;> omega
  have held := side (unpacked x) (unpacked_canonical x)
  change (place x ≤ _ → place x ≤ place (x + step)) ∧ (_ ≤ place x → place (x + step) ≤ place x) at held
  by_cases same : place (x + step) = place x
  · exact .inl (still same)
  · right
    unfold along
    rcases step_side second moving with ⟨upward, above⟩ | ⟨downward, below⟩
    · rw [if_pos upward, if_pos upward]
      omega
    · rw [if_neg downward, if_neg downward]
      omega

end Steps

end Fiscal.Number
