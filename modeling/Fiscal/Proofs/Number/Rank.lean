import Fiscal.Proofs.Number.Sign

set_option autoImplicit false

namespace Fiscal.Number

open Float.Model UnpackedFloat

section Fields

theorem sign_back_and_there (bit : BitVec 1) : (Sign.ofBitVec bit).toBitVec = bit := by
  rcases BitVec.eq_zero_or_eq_one bit with rfl | rfl <;> rfl

theorem components_toNat (sign : Sign) (exponent : BitVec 11) (mantissa : BitVec 52) :
    (packComponents Format.binary64 sign exponent mantissa).toNat =
      (sign.toBitVec.toNat * 2 ^ 11 + exponent.toNat) * 2 ^ 52 + mantissa.toNat := by
  change (sign.toBitVec ++ exponent ++ mantissa).toNat = _
  rw [BitVec.toNat_append, BitVec.toNat_append, ← Nat.shiftLeft_add_eq_or_of_lt mantissa.isLt,
    ← Nat.shiftLeft_add_eq_or_of_lt exponent.isLt, Nat.shiftLeft_eq, Nat.shiftLeft_eq]

variable (bits : BitVec Format.binary64.numBits)

theorem components_fields :
    packComponents Format.binary64 (Sign.ofBitVec (unpackSign bits)) (unpackExponent bits) (unpackMantissa bits) =
      bits := by
  refine BitVec.eq_of_toNat_eq ?_
  rw [components_toNat, sign_back_and_there, mantissa_toNat, exponent_toNat, sign_toNat]
  have bound : bits.toNat < 2 ^ 64 := bits.isLt
  omega

end Fields

section Identity

variable {x y : Float}

theorem eq_of_pattern (same : pattern x = pattern y) : x = y := by
  obtain ⟨⟨⟨one⟩, _⟩⟩ := x
  obtain ⟨⟨⟨other⟩, _⟩⟩ := y
  cases (same : one = other)
  rfl

theorem pattern_valid (x : Float) : Format.binary64.Valid (pattern x) := by
  obtain ⟨⟨⟨bits⟩, valid⟩⟩ := x
  exact valid

theorem packed (x : Float) : UnpackedFloat.pack Format.binary64 (unpacked x) = pattern x := by
  have opened : unpacked x = standing _ _ _ := unpack_standing (pattern x)
  have whole := components_fields (pattern x)
  rw [opened]
  by_cases full : unpackExponent (pattern x) = -1#_
  · rw [standing, if_pos full]
    rw [full] at whole
    by_cases none : unpackMantissa (pattern x) = 0#_
    · rw [if_pos none]
      rw [none] at whole
      exact whole
    · rw [if_neg none]
      exact ((pattern_valid x).eq_packedNaN full none).symm
  · rw [pack_standing _ _ _ full, whole]

theorem eq_of_unpacked (same : unpacked x = unpacked y) : x = y := by
  refine eq_of_pattern ?_
  rw [← packed x, same, packed y]

end Identity

section Magnitude

-- The digits and the exponent with which a double is kept: all digits are used, unless the exponent is the least.
structure Fits (mantissa : Nat) (exponent : Int) : Prop where
  digits : mantissa < 2 ^ 53
  least : -1074 ≤ exponent
  full : exponent = -1074 ∨ 2 ^ 52 ≤ mantissa

def magnitude (mantissa : Nat) (exponent : Int) : Nat := mantissa * 2 ^ (exponent + 1074).toNat

variable {m n : Nat} {e f : Int}

theorem magnitude_lt (first : Fits m e) (second : Fits n f) (below : e < f) : magnitude m e < magnitude n f := by
  have least := first.least
  have used : 2 ^ 52 ≤ n := by
    rcases second.full with low | used
    · omega
    · exact used
  have apart : (f + 1074).toNat = (e + 1074).toNat + 1 + (f - e - 1).toNat := by omega
  calc m * 2 ^ (e + 1074).toNat < 2 ^ 53 * 2 ^ (e + 1074).toNat :=
        Nat.mul_lt_mul_of_pos_right first.digits (Nat.two_pow_pos _)
    _ = 2 ^ 52 * 2 ^ ((e + 1074).toNat + 1) := by rw [← Nat.pow_add, ← Nat.pow_add]; congr 1; omega
    _ ≤ 2 ^ 52 * 2 ^ (f + 1074).toNat :=
        Nat.mul_le_mul_left _ (Nat.pow_le_pow_right (by decide) (by omega))
    _ ≤ n * 2 ^ (f + 1074).toNat := Nat.mul_le_mul_right _ used

theorem compare_magnitude (first : Fits m e) (second : Fits n f) :
    (compare e f).then (compare m n) = compare (magnitude m e) (magnitude n f) := by
  rcases lt_trichotomy e f with below | same | above
  · rw [compare_lt_iff_lt.mpr below, compare_lt_iff_lt.mpr (magnitude_lt first second below)]
    rfl
  · subst same
    rw [compare_eq_iff_eq.mpr rfl]
    have scale := Nat.two_pow_pos (e + 1074).toNat
    change compare m n = _
    rcases lt_trichotomy m n with less | same | more
    · have scaled : magnitude m e < magnitude n e := Nat.mul_lt_mul_of_pos_right less scale
      rw [compare_lt_iff_lt.mpr less, compare_lt_iff_lt.mpr scaled]
    · rw [same, compare_eq_iff_eq.mpr rfl, compare_eq_iff_eq.mpr rfl]
    · have scaled : magnitude n e < magnitude m e := Nat.mul_lt_mul_of_pos_right more scale
      rw [compare_gt_iff_gt.mpr more, compare_gt_iff_gt.mpr scaled]
  · rw [compare_gt_iff_gt.mpr above, compare_gt_iff_gt.mpr (magnitude_lt second first above)]
    rfl

theorem magnitude_positive (positive : 0 < m) : 0 < magnitude m e := Nat.mul_pos positive (Nat.two_pow_pos _)

def ceiling : Nat := magnitude (2 ^ 52) 972

theorem ceiling_fits : Fits (2 ^ 52) 972 := ⟨by decide, by decide, .inr (Nat.le_refl _)⟩

theorem magnitude_below (fits : Fits m e) (highest : e ≤ 971) : magnitude m e < ceiling :=
  magnitude_lt fits ceiling_fits (Int.lt_of_le_of_lt highest (by decide))

end Magnitude

section Rank

def Canonical : UnpackedFloat → Prop
  | .finite _ mantissa exponent _ => Fits mantissa exponent ∧ exponent ≤ 971
  | _ => True

theorem unpacked_canonical (x : Float) : Canonical (unpacked x) := by
  have opened : unpacked x = standing _ _ _ := unpack_standing (pattern x)
  have fraction := (unpackMantissa (pattern x)).isLt
  rw [opened]
  unfold standing
  split
  · split <;> trivial
  · rename_i finite
    have most : (unpackExponent (pattern x)).toNat ≠ 2047 := fun full => finite (BitVec.eq_of_toNat_eq full)
    have within : (unpackExponent (pattern x)).toNat < 2 ^ 11 := (unpackExponent (pattern x)).isLt
    split
    · split
      · trivial
      · exact ⟨⟨Nat.lt_trans fraction (by decide), Int.le_refl _, .inl rfl⟩, by decide⟩
    · rename_i tiny
      have least : (unpackExponent (pattern x)).toNat ≠ 0 := fun zero => tiny (BitVec.eq_of_toNat_eq zero)
      have digits := leading_toNat (unpackMantissa (pattern x))
      refine ⟨⟨?_, ?_, .inr ?_⟩, ?_⟩ <;> omega

-- How far a number is from zero, in units of the least double above it.
def size : UnpackedFloat → Nat
  | .notANumber | .zero _ => 0
  | .infinity _ => ceiling
  | .finite _ mantissa exponent _ => magnitude mantissa exponent

def rank (u : UnpackedFloat) : Int :=
  match u with
  | .notANumber | .zero _ => 0
  | .infinity sign | .finite sign _ _ _ => sign.apply (size u)

variable {u v : UnpackedFloat} {sign : Sign}

theorem rank_beyond (beyond : Beyond sign u) : rank u = sign.apply (size u) := by
  cases u with
  | notANumber | zero => exact beyond.elim
  | infinity | finite =>
      cases beyond
      rfl

theorem size_positive (beyond : Beyond sign u) : 0 < size u := by
  cases u with
  | notANumber | zero => exact beyond.elim
  | infinity => exact magnitude_positive (by decide)
  | finite own mantissa exponent positive => exact magnitude_positive positive

theorem size_within (canonical : Canonical u) : size u ≤ ceiling := by
  cases u with
  | notANumber | zero => exact Nat.zero_le _
  | infinity => exact Nat.le_refl _
  | finite => exact Nat.le_of_lt (magnitude_below canonical.1 canonical.2)

theorem size_finite (number : u.isNaN = false) (canonical : Canonical u) :
    u.isFinite = true ↔ size u < ceiling := by
  cases u with
  | notANumber => cases number
  | zero => exact iff_of_true rfl (magnitude_positive (by decide))
  | infinity => exact iff_of_false (by rintro ⟨⟩) (Nat.lt_irrefl _)
  | finite => exact iff_of_true rfl (magnitude_below canonical.1 canonical.2)

theorem compare_apply (sign : Sign) (m n : Nat) : compare (sign.apply m) (sign.apply n) =
    match sign with
      | .positive => compare m n
      | .negative => (compare m n).swap := by
  rcases lt_trichotomy m n with less | rfl | more
  · rw [compare_lt_iff_lt.mpr less]
    cases sign
    · exact compare_gt_iff_gt.mpr (Int.neg_lt_neg (Int.ofNat_lt.mpr less))
    · exact compare_lt_iff_lt.mpr (Int.ofNat_lt.mpr less)
  · rw [compare_eq_iff_eq.mpr rfl, compare_eq_iff_eq.mpr rfl]
    cases sign <;> rfl
  · rw [compare_gt_iff_gt.mpr more]
    cases sign
    · exact compare_lt_iff_lt.mpr (Int.neg_lt_neg (Int.ofNat_lt.mpr more))
    · exact compare_gt_iff_gt.mpr (Int.ofNat_lt.mpr more)

theorem compare_size (first : Canonical u) (second : Canonical v) (beyond : Beyond sign u) (also : Beyond sign v) :
    u.compare v = some (match sign with
      | .positive => compare (size u) (size v)
      | .negative => (compare (size u) (size v)).swap) := by
  have same : compare ceiling ceiling = .eq := compare_eq_iff_eq.mpr rfl
  cases u with
  | notANumber | zero => exact beyond.elim
  | infinity own =>
      cases beyond
      cases v with
      | notANumber | zero => exact also.elim
      | infinity other =>
          cases also
          dsimp only [size]
          rw [same]
          cases sign <;> rfl
      | finite other n f positive =>
          cases also
          dsimp only [size]
          rw [compare_gt_iff_gt.mpr (magnitude_below second.1 second.2)]
          cases sign <;> rfl
  | finite own m e positive =>
      cases beyond
      cases v with
      | notANumber | zero => exact also.elim
      | infinity other =>
          cases also
          dsimp only [size]
          rw [compare_lt_iff_lt.mpr (magnitude_below first.1 first.2)]
          cases sign <;> rfl
      | finite other n f positive =>
          cases also
          dsimp only [size]
          rw [← compare_magnitude first.1 second.1]
          cases sign <;> rfl

theorem compare_apart (above : Beyond .positive u) (below : Beyond .negative v) :
    u.compare v = some .gt ∧ v.compare u = some .lt := by
  cases u with
  | notANumber | zero => exact above.elim
  | infinity | finite =>
      cases above
      cases v with
      | notANumber | zero => exact below.elim
      | infinity | finite =>
          cases below
          exact ⟨rfl, rfl⟩

theorem rank_natAbs (u : UnpackedFloat) : (rank u).natAbs = size u := by
  cases u with
  | notANumber | zero => rfl
  | infinity sign | finite sign =>
      cases sign
      · exact Int.natAbs_neg _
      · rfl

theorem rank_zero (sign : Sign) : rank (.zero sign) = 0 := rfl

theorem rank_positive (above : Beyond .positive u) : 0 < rank u := by
  rw [rank_beyond above]
  exact Int.natCast_pos.mpr (size_positive above)

theorem rank_negative (below : Beyond .negative u) : rank u < 0 := by
  rw [rank_beyond below]
  exact Int.neg_neg_of_pos (Int.natCast_pos.mpr (size_positive below))

theorem compare_rank (first : Canonical u) (second : Canonical v) (number : u.isNaN = false)
    (also : v.isNaN = false) : u.compare v = some (compare (rank u) (rank v)) := by
  rcases beyond_cases u number with ⟨own, rfl⟩ | above | below
  · rcases beyond_cases v also with ⟨other, rfl⟩ | higher | lower
    · rfl
    · rw [(above_zero higher own).1, rank_zero, compare_lt_iff_lt.mpr (rank_positive higher)]
    · rw [(below_zero lower own).1, rank_zero, compare_gt_iff_gt.mpr (rank_negative lower)]
  · rcases beyond_cases v also with ⟨other, rfl⟩ | higher | lower
    · rw [(above_zero above other).2, rank_zero, compare_gt_iff_gt.mpr (rank_positive above)]
    · rw [compare_size first second above higher, rank_beyond above, rank_beyond higher]
      exact congrArg some (compare_apply .positive _ _).symm
    · have apart := Int.lt_trans (rank_negative lower) (rank_positive above)
      rw [(compare_apart above lower).1, compare_gt_iff_gt.mpr apart]
  · rcases beyond_cases v also with ⟨other, rfl⟩ | higher | lower
    · rw [(below_zero below other).2, rank_zero, compare_lt_iff_lt.mpr (rank_negative below)]
    · have apart := Int.lt_trans (rank_negative below) (rank_positive higher)
      rw [(compare_apart higher below).2, compare_lt_iff_lt.mpr apart]
    · rw [compare_size first second below lower, rank_beyond below, rank_beyond lower]
      exact congrArg some (compare_apply .negative _ _).symm

theorem same_of_compare (equal : u.compare v = some .eq) :
    u = v ∨ ∃ one other, u = .zero one ∧ v = .zero other := by
  cases u with
  | notANumber => cases equal
  | zero own =>
      cases v with
      | notANumber => cases equal
      | infinity other | finite other => cases other <;> cases equal
      | zero other => exact .inr ⟨own, other, rfl, rfl⟩
  | infinity own =>
      cases v with
      | notANumber => cases equal
      | infinity other =>
          left
          cases own <;> cases other
          all_goals first | rfl | cases equal
      | zero | finite => cases own <;> cases equal
  | finite own m e positive =>
      cases v with
      | notANumber => cases equal
      | infinity other => cases other <;> cases own <;> cases equal
      | zero => cases own <;> cases equal
      | finite other n f also =>
          have alike (order : (compare e f).then (compare m n) = .eq) : e = f ∧ m = n := by
            rw [Ordering.then_eq_eq, compare_eq_iff_eq, compare_eq_iff_eq] at order
            exact order
          left
          cases own with
          | positive =>
              cases other with
              | negative => cases equal
              | positive =>
                  obtain ⟨rfl, rfl⟩ := alike (Option.some_inj.mp equal)
                  rfl
          | negative =>
              cases other with
              | positive => cases equal
              | negative =>
                  obtain ⟨rfl, rfl⟩ := alike (Ordering.swap_eq_eq.mp (Option.some_inj.mp equal))
                  rfl

end Rank

section Doubles

def place (x : Float) : Int := rank (unpacked x)

variable {x y : Float}

theorem compare_place (first : isNaN x = false) (second : isNaN y = false) :
    (unpacked x).compare (unpacked y) = some (compare (place x) (place y)) :=
  compare_rank (unpacked_canonical x) (unpacked_canonical y) first second

theorem lt_iff_place (first : isNaN x = false) (second : isNaN y = false) : x < y ↔ place x < place y := by
  rw [lt_iff, compare_place first second, Option.some_inj, compare_lt_iff_lt]

theorem le_iff_place (first : isNaN x = false) (second : isNaN y = false) : x ≤ y ↔ place x ≤ place y := by
  rw [le_iff, compare_place first second]
  simp [Std.isLE_compare]

theorem equal_iff_place (first : isNaN x = false) (second : isNaN y = false) :
    (x == y) = true ↔ place x = place y := by
  rw [equal_iff, compare_place first second, Option.some_inj, compare_eq_iff_eq]

theorem finite_iff_place (number : isNaN x = false) :
    isFinite x = true ↔ -ceiling < place x ∧ place x < ceiling := by
  have apart : (place x).natAbs = size (unpacked x) := rank_natAbs (unpacked x)
  have below : isFinite x = true ↔ size (unpacked x) < ceiling := size_finite number (unpacked_canonical x)
  rw [below, ← apart]
  omega

theorem same_of_equal (equal : (x == y) = true) : x = y ∨ place x = 0 ∧ place y = 0 := by
  rcases same_of_compare ((equal_iff x y).mp equal) with same | ⟨one, other, first, second⟩
  · exact .inl (eq_of_unpacked same)
  · refine .inr ⟨?_, ?_⟩
    · rw [place, first, rank_zero]
    · rw [place, second, rank_zero]

theorem numbers_of_equal (equal : (x == y) = true) : isNaN x = false ∧ isNaN y = false :=
  number_of_le x y ((le_iff x y).mpr ⟨.eq, (equal_iff x y).mp equal, rfl⟩)

theorem zero_of_place (number : isNaN x = false) (zero : place x = 0) : x = 0 ∨ x = -0 := by
  rcases beyond_cases (unpacked x) number with ⟨own, known⟩ | above | below
  · cases own with
    | positive => exact .inl (eq_of_unpacked known)
    | negative => exact .inr (eq_of_unpacked known)
  · exact absurd zero (Int.ne_of_gt (rank_positive above))
  · exact absurd zero (Int.ne_of_lt (rank_negative below))

end Doubles

end Fiscal.Number
