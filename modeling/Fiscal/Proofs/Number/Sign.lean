import Fiscal.Proofs.Number.Order
import Mathlib

set_option autoImplicit false

namespace Fiscal.Number

open Float.Model UnpackedFloat

def resigned (sign : Sign) : UnpackedFloat → UnpackedFloat
  | .notANumber => .notANumber
  | .infinity _ => .infinity sign
  | .zero _ => .zero sign
  | .finite _ mantissa exponent positive => .finite sign mantissa exponent positive

section Fields

theorem unpackSign_packComponents {spec : Format} {sign : Sign} {exponent : BitVec spec.exponentBits}
    {mantissa : BitVec spec.mantissaBitsWithoutImplicit} :
    unpackSign (packComponents spec sign exponent mantissa) = sign.toBitVec := by
  ext i hi
  simp only [unpackSign, packComponents, BitVec.getElem_cast, BitVec.getElem_extract, BitVec.getLsbD_append]
  rw [if_neg (by omega), if_neg (by omega), ← BitVec.getLsbD_eq_getElem]
  congr 1
  omega

theorem sign_there_and_back (sign : Sign) : Sign.ofBitVec sign.toBitVec = sign := by cases sign <;> rfl

variable (bits : BitVec Format.binary64.numBits)

theorem sign_toNat : (unpackSign bits).toNat = bits.toNat / 2 ^ 63 % 2 := by
  simp [unpackSign, Nat.shiftRight_eq_div_pow]

end Fields

section Packing

theorem leading_toNat (mantissa : BitVec 52) : (1#1 ++ mantissa).toNat = 2 ^ 52 + mantissa.toNat := by
  rw [BitVec.toNat_append, ← Nat.shiftLeft_add_eq_or_of_lt mantissa.isLt]
  rfl

def standing (sign : Sign) (exponent : BitVec 11) (mantissa : BitVec 52) : UnpackedFloat :=
  if exponent = -1#_ then if mantissa = 0#_ then .infinity sign else .notANumber
  else if exponent = 0#_ then
    if some : mantissa = 0#_ then .zero sign
    else .finite sign mantissa.toNat (-1074) (Nat.pos_of_ne_zero fun none => some (BitVec.eq_of_toNat_eq none))
  else .finite sign (1#1 ++ mantissa).toNat ((exponent.toNat : Int) - 1075)
    (leading_toNat mantissa ▸ Nat.add_pos_left (by decide) _)

variable (bits : BitVec Format.binary64.numBits) (sign : Sign) (exponent : BitVec 11) (mantissa : BitVec 52)

theorem unpack_standing : UnpackedFloat.unpack _ bits =
    standing (Sign.ofBitVec (unpackSign bits)) (unpackExponent bits) (unpackMantissa bits) := by
  unfold UnpackedFloat.unpack standing
  dsimp only
  split
  · rfl
  · split
    · rename_i none
      split
      · rfl
      · rw [none]
        rfl
    · rfl

theorem resigned_standing (other : Sign) :
    resigned other (standing sign exponent mantissa) = standing other exponent mantissa := by
  unfold standing
  split
  · split <;> rfl
  · split
    · split <;> rfl
    · rfl

theorem pack_standing (finite : exponent ≠ -1#_) :
    UnpackedFloat.pack Format.binary64 (standing sign exponent mantissa) = packComponents _ sign exponent mantissa := by
  unfold standing
  rw [if_neg finite]
  by_cases tiny : exponent = 0#_
  · rw [if_pos tiny, tiny]
    by_cases none : mantissa = 0#_
    · rw [dif_pos none, none]
      rfl
    · have positive : mantissa.toNat ≠ 0 := fun zero => none (BitVec.eq_of_toNat_eq zero)
      have small : mantissa.toNat.log2 < 52 := (Nat.log2_lt positive).mpr mantissa.isLt
      rw [dif_neg none]
      unfold UnpackedFloat.pack
      dsimp only
      rw [if_neg (by decide), if_neg (by change ¬ _ = 53; omega), BitVec.ofNat_toNat, BitVec.setWidth_eq]
  · have most : exponent.toNat ≠ 2047 := fun full => finite (BitVec.eq_of_toNat_eq full)
    have within : exponent.toNat < 2 ^ 11 := exponent.isLt
    have normal : (1#1 ++ mantissa).toNat.log2 = 52 := by
      have fraction := mantissa.isLt
      rw [leading_toNat, Nat.log2_eq_iff (by omega)]
      omega
    have fraction : BitVec.ofNat 52 (1#1 ++ mantissa).toNat = mantissa := by
      rw [leading_toNat]
      refine BitVec.eq_of_toNat_eq ?_
      rw [BitVec.toNat_ofNat, Nat.add_mod_left, Nat.mod_eq_of_lt mantissa.isLt]
    have bias : Format.binary64.exponentBias = 1023 := rfl
    have biased : ((exponent.toNat : Int) - 1075 + (Format.binary64.exponentBias : Nat) + (52 : Nat)).toNat =
        exponent.toNat := by omega
    rw [if_neg tiny]
    unfold UnpackedFloat.pack
    dsimp only
    rw [normal, biased]
    rw [if_neg (by omega), if_pos (by rfl), fraction, BitVec.ofNat_toNat, BitVec.setWidth_eq]

theorem unpack_pack (finite : unpackExponent bits ≠ -1#_) :
    (Float.Model.pack (resigned sign (UnpackedFloat.unpack _ bits))).unpack =
      resigned sign (UnpackedFloat.unpack _ bits) := by
  change UnpackedFloat.unpack Format.binary64 (UnpackedFloat.pack _ _) = _
  rw [unpack_standing bits, resigned_standing, pack_standing _ _ _ finite, unpack_standing,
    unpackMantissa_packComponents,
    unpackExponent_packComponents, unpackSign_packComponents, sign_there_and_back]

end Packing

section Doubles

variable {x y : Float}

def pattern (x : Float) : BitVec Format.binary64.numBits := x.toBits.toBitVec

theorem unpacked_ofBits {bits : UInt64} {same : BitVec Format.binary64.numBits} (pattern : same = bits.toBitVec)
    (finite : unpackExponent same ≠ -1#_) : unpacked (Float.ofBits bits) = UnpackedFloat.unpack _ same := by
  have packed := unpack_pack same (Sign.ofBitVec (unpackSign same)) finite
  rw [unpack_standing, resigned_standing, ← unpack_standing] at packed
  rw [pattern] at packed ⊢
  exact packed

theorem unpacked_neg (x : Float) : unpacked (-x) = (Float.Model.pack (unpacked x).neg).unpack := rfl

theorem finite_field (finite : isFinite x = true) : unpackExponent (pattern x) ≠ -1#_ := by
  intro full
  change (UnpackedFloat.unpack _ (pattern x)).isFinite = true at finite
  rw [unpack_standing, standing, if_pos full] at finite
  split at finite <;> cases finite

theorem magnitude_finite (finite : isFinite x = true) : magnitudeBits x < infinityBits := by
  have field := finite_field finite
  have whole := exponent_toNat (pattern x)
  have most : (unpackExponent (pattern x)).toNat ≠ 2047 := fun full => field (BitVec.eq_of_toNat_eq full)
  change (pattern x).toNat % Nat.pow 2 63 < 0x7FF0000000000000
  rw [whole] at most
  simp only [Nat.pow_eq]
  omega

theorem same_of_unpacked (finite : isFinite x = true)
    (same : unpacked y = unpacked x ∨ ∃ one other, unpacked x = .zero one ∧ unpacked y = .zero other) :
    (x == y) = true := by
  change ((unpacked x).compare (unpacked y) == some .eq) = true
  change (unpacked x).isFinite = true at finite
  rcases same with same | ⟨one, other, first, second⟩
  · rw [same]
    cases known : unpacked x with
    | notANumber | infinity =>
        rw [known] at finite
        cases finite
    | zero => rfl
    | finite sign mantissa exponent positive =>
        have whole : (compare exponent exponent).then (compare mantissa mantissa) = .eq := by simp
        cases sign with
        | positive => exact congrArg (fun order => some order == some .eq) whole
        | negative => exact congrArg (fun order => some order.swap == some .eq) whole
  · rw [first, second]
    rfl

theorem unpacked_magnitude (finite : isFinite x = true) :
    unpacked (ofBits false (magnitudeBits x)) = resigned .positive (unpacked x) := by
  have small : magnitudeBits x < 2 ^ 63 := Nat.mod_lt _ (by decide)
  obtain ⟨bits, same⟩ : ∃ bits : BitVec Format.binary64.numBits,
      bits = (UInt64.ofNat (magnitudeBits x)).toBitVec := ⟨_, rfl⟩
  have whole : bits.toNat = (pattern x).toNat % 2 ^ 63 := by
    rw [same]
    exact Nat.mod_eq_of_lt (Nat.lt_trans small (by decide))
  have mantissa : unpackMantissa bits = unpackMantissa (pattern x) := by
    refine BitVec.eq_of_toNat_eq ?_
    rw [mantissa_toNat, mantissa_toNat, whole]
    omega
  have exponent : unpackExponent bits = unpackExponent (pattern x) := by
    refine BitVec.eq_of_toNat_eq ?_
    rw [exponent_toNat, exponent_toNat, whole]
    omega
  have sign : unpackSign bits = 0#1 := by
    refine BitVec.eq_of_toNat_eq ?_
    rw [sign_toNat, whole]
    change _ = 0
    omega
  have opened : unpacked (ofBits false (magnitudeBits x)) = UnpackedFloat.unpack _ bits :=
    unpacked_ofBits same (exponent ▸ finite_field finite)
  rw [opened, unpack_standing, mantissa, exponent, sign]
  change _ = resigned _ (UnpackedFloat.unpack _ (pattern x))
  rw [unpack_standing, resigned_standing]
  rfl

theorem unpacked_sign (x : Float) :
    unpacked x = resigned (if isNegative x then .negative else .positive) (unpacked x) := by
  have bound : (pattern x).toNat < 2 ^ 64 := (pattern x).isLt
  have field := sign_toNat (pattern x)
  change UnpackedFloat.unpack _ (pattern x) = resigned _ (UnpackedFloat.unpack _ (pattern x))
  rw [unpack_standing, resigned_standing]
  congr 1
  have negative : isNegative x = decide (2 ^ 63 ≤ (pattern x).toNat) := rfl
  rw [negative]
  by_cases high : 2 ^ 63 ≤ (pattern x).toNat
  · have one : unpackSign (pattern x) = 1#1 := by
      refine BitVec.eq_of_toNat_eq ?_
      rw [field]
      change _ = 1
      omega
    rw [one, decide_eq_true high]
    rfl
  · have none : unpackSign (pattern x) = 0#1 := by
      refine BitVec.eq_of_toNat_eq ?_
      rw [field]
      change _ = 0
      omega
    rw [none, decide_eq_false high]
    rfl

theorem equal_magnitude (finite : isFinite x = true) (positive : isNegative x = false) :
    (x == ofBits false (magnitudeBits x)) = true := by
  refine same_of_unpacked finite (.inl ?_)
  have own := unpacked_sign x
  rw [positive] at own
  rw [unpacked_magnitude finite]
  exact own.symm

theorem equal_negated (finite : isFinite x = true) (negative : isNegative x = true) :
    (x == -ofBits false (magnitudeBits x)) = true := by
  refine same_of_unpacked finite (.inl ?_)
  have own := unpacked_sign x
  rw [negative] at own
  have turned : (resigned .positive (unpacked x)).neg = resigned .negative (unpacked x) := by
    cases unpacked x <;> rfl
  rw [unpacked_neg, unpacked_magnitude finite, turned]
  exact (unpack_pack (pattern x) .negative (finite_field finite)).trans own.symm

theorem equal_zero (finite : isFinite x = true) (none : magnitudeBits x = 0) : (x == ofBits false 0) = true := by
  have low : (pattern x).toNat % 2 ^ 63 = 0 := none
  have mantissa : unpackMantissa (pattern x) = 0#_ := by
    refine BitVec.eq_of_toNat_eq ?_
    rw [mantissa_toNat]
    change _ = 0
    omega
  have exponent : unpackExponent (pattern x) = 0#_ := by
    refine BitVec.eq_of_toNat_eq ?_
    rw [exponent_toNat]
    change _ = 0
    omega
  have zero : unpacked x = .zero (Sign.ofBitVec (unpackSign (pattern x))) := by
    change UnpackedFloat.unpack _ (pattern x) = _
    rw [unpack_standing, mantissa, exponent]
    rfl
  exact same_of_unpacked finite (.inr ⟨_, .positive, zero, rfl⟩)

end Doubles

def Beyond (sign : Sign) : UnpackedFloat → Prop
  | .infinity own | .finite own _ _ _ => own = sign
  | .notANumber | .zero _ => False

section Unpacked

variable {u : UnpackedFloat} {sign : Sign}

theorem beyond_cases (u : UnpackedFloat) (number : u.isNaN = false) :
    (∃ own, u = .zero own) ∨ Beyond .positive u ∨ Beyond .negative u := by
  cases u with
  | notANumber => cases number
  | zero own => exact .inl ⟨own, rfl⟩
  | infinity own | finite own =>
      cases own with
      | positive => exact .inr (.inl rfl)
      | negative => exact .inr (.inr rfl)

theorem beyond_resigned (beyond : Beyond sign u) (other : Sign) : Beyond other (resigned other u) := by
  cases u with
  | notANumber | zero => exact beyond
  | infinity | finite => exact rfl

theorem resigned_beyond (beyond : Beyond sign u) : resigned sign u = u := by
  cases u with
  | notANumber | zero => exact beyond.elim
  | infinity own | finite own =>
      cases beyond
      rfl

theorem above_zero (beyond : Beyond .positive u) (zero : Sign) :
    UnpackedFloat.compare (.zero zero) u = some .lt ∧ u.compare (.zero zero) = some .gt := by
  cases u with
  | notANumber | zero => exact beyond.elim
  | infinity own | finite own =>
      cases beyond
      exact ⟨rfl, rfl⟩

theorem below_zero (beyond : Beyond .negative u) (zero : Sign) :
    UnpackedFloat.compare (.zero zero) u = some .gt ∧ u.compare (.zero zero) = some .lt := by
  cases u with
  | notANumber | zero => exact beyond.elim
  | infinity own | finite own =>
      cases beyond
      exact ⟨rfl, rfl⟩

theorem compare_self (u : UnpackedFloat) (number : u.isNaN = false) : u.compare u = some .eq := by
  cases u with
  | notANumber => cases number
  | zero => rfl
  | infinity own => cases own <;> rfl
  | finite own mantissa exponent =>
      have whole : (compare exponent exponent).then (compare mantissa mantissa) = .eq := by simp
      cases own with
      | positive => exact congrArg some whole
      | negative => exact congrArg (fun order => some order.swap) whole

theorem beyond_number (beyond : Beyond sign u) : u.isNaN = false := by
  cases u with
  | notANumber | zero => exact beyond.elim
  | infinity | finite => rfl

theorem sub_zero (beyond : Beyond sign u) (spec : Format) (zero : Sign) :
    UnpackedFloat.sub spec u (.zero zero) = u := by
  cases u with
  | notANumber | zero => exact beyond.elim
  | infinity | finite => rfl

theorem zero_sub (beyond : Beyond sign u) (spec : Format) (zero : Sign) :
    UnpackedFloat.sub spec (.zero zero) u = resigned (-sign) u := by
  cases u with
  | notANumber | zero => exact beyond.elim
  | infinity own | finite own =>
      cases beyond
      rfl

theorem neg_beyond (beyond : Beyond sign u) : u.neg = resigned (-sign) u := by
  cases u with
  | notANumber | zero => exact beyond.elim
  | infinity own | finite own =>
      cases beyond
      rfl

end Unpacked

section Doubles

variable {x : Float}

theorem repacked (x : Float) (sign : Sign) :
    (Float.Model.pack (resigned sign (unpacked x))).unpack = resigned sign (unpacked x) := by
  by_cases finite : unpackExponent (pattern x) = -1#_
  · change (Float.Model.pack (resigned sign (UnpackedFloat.unpack _ (pattern x)))).unpack =
      resigned sign (UnpackedFloat.unpack _ (pattern x))
    rw [unpack_standing, resigned_standing, standing, if_pos finite]
    split
    · cases sign <;> rfl
    · rfl
  · exact unpack_pack (pattern x) sign finite

theorem unpacked_zero : unpacked 0 = .zero .positive := rfl

theorem equal_iff (x y : Float) : (x == y) = true ↔ (unpacked x).compare (unpacked y) = some .eq := by
  change ((unpacked x).compare (unpacked y) == some .eq) = true ↔ _
  exact beq_iff_eq

theorem positive_iff (number : isNaN x = false) : 0 < x ↔ Beyond .positive (unpacked x) := by
  rw [lt_iff, unpacked_zero]
  rcases beyond_cases (unpacked x) number with ⟨own, zero⟩ | above | below
  · rw [zero]
    exact ⟨(by cases ·), False.elim⟩
  · exact ⟨fun _ => above, fun _ => (above_zero above _).1⟩
  · rw [(below_zero below _).1]
    refine ⟨(by cases ·), fun above => ?_⟩
    have meets := (above_zero above .positive).1
    rw [(below_zero below _).1] at meets
    cases meets

theorem negative_iff (number : isNaN x = false) : x < 0 ↔ Beyond .negative (unpacked x) := by
  rw [lt_iff, unpacked_zero]
  rcases beyond_cases (unpacked x) number with ⟨own, zero⟩ | above | below
  · rw [zero]
    exact ⟨(by cases ·), False.elim⟩
  · rw [(above_zero above _).2]
    refine ⟨(by cases ·), fun below => ?_⟩
    have meets := (below_zero below .positive).2
    rw [(above_zero above _).2] at meets
    cases meets
  · exact ⟨fun _ => below, fun _ => (below_zero below _).2⟩

theorem unpacked_less_zero {sign : Sign} (beyond : Beyond sign (unpacked x)) :
    unpacked (x - 0) = unpacked x := by
  change (Float.Model.pack (UnpackedFloat.sub _ (unpacked x) (unpacked 0))).unpack = _
  have own := repacked x sign
  rw [resigned_beyond beyond] at own
  rw [unpacked_zero, sub_zero beyond]
  exact own

theorem unpacked_negated {sign : Sign} (beyond : Beyond sign (unpacked x)) :
    unpacked (-x) = resigned (-sign) (unpacked x) := by
  rw [unpacked_neg, neg_beyond beyond]
  exact repacked x _

theorem unpacked_zero_less_negated {sign : Sign} (beyond : Beyond sign (unpacked x)) :
    unpacked (0 - -x) = unpacked x := by
  have turned := beyond_resigned beyond (-sign)
  have twice : resigned (- -sign) (resigned (-sign) (unpacked x)) = unpacked x := by
    have back : - -sign = sign := by cases sign <;> rfl
    have own := resigned_beyond beyond
    rw [back]
    cases known : unpacked x with
    | notANumber => rfl
    | _ =>
        rw [known] at own
        exact own
  change (Float.Model.pack (UnpackedFloat.sub _ (unpacked 0) (unpacked (-x)))).unpack = _
  have own := repacked x sign
  rw [resigned_beyond beyond] at own
  rw [unpacked_zero, unpacked_negated beyond, zero_sub turned, twice]
  exact own

end Doubles

end Fiscal.Number
