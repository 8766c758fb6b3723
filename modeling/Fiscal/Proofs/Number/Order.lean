import Fiscal.Number.Sum
import Mathlib.Algebra.Group.Nat.Defs

set_option autoImplicit false

namespace Fiscal.Number

open Float.Model

def unpacked (x : Float) : UnpackedFloat := x.toModel.unpack

section Packing

section Fields

variable (bits : BitVec Format.binary64.numBits)

theorem mantissa_toNat : (UnpackedFloat.unpackMantissa bits).toNat = bits.toNat % 2 ^ 52 := by
  simp [UnpackedFloat.unpackMantissa]

theorem exponent_toNat : (UnpackedFloat.unpackExponent bits).toNat = bits.toNat / 2 ^ 52 % 2 ^ 11 := by
  simp [UnpackedFloat.unpackExponent, Nat.shiftRight_eq_div_pow]

end Fields

theorem unpack_isNaN_iff (spec : Format) (bits : BitVec spec.numBits) :
    (UnpackedFloat.unpack spec bits).isNaN = true ↔
      UnpackedFloat.unpackExponent bits = -1#_ ∧ UnpackedFloat.unpackMantissa bits ≠ 0#_ := by
  unfold UnpackedFloat.unpack
  dsimp only
  by_cases special : UnpackedFloat.unpackExponent bits = -1#_
  · rw [if_pos special]
    by_cases infinite : UnpackedFloat.unpackMantissa bits = 0#_
    · rw [if_pos infinite]
      exact ⟨(by cases ·), fun both => absurd infinite both.2⟩
    · rw [if_neg infinite]
      exact ⟨fun _ => ⟨special, infinite⟩, fun _ => rfl⟩
  · rw [if_neg special]
    refine ⟨fun nan => ?_, fun both => absurd both.1 special⟩
    by_cases tiny : UnpackedFloat.unpackExponent bits = 0#_
    · rw [if_pos tiny] at nan
      by_cases zero : UnpackedFloat.unpackMantissa bits = 0#_
      · rw [dif_pos zero] at nan
        cases nan
      · rw [dif_neg zero] at nan
        cases nan
    · rw [if_neg tiny] at nan
      cases nan

theorem repacked_isNaN (u : UnpackedFloat) : (Float.Model.pack u).unpack.isNaN = u.isNaN := by
  cases u with
  | notANumber => rfl
  | infinity sign => cases sign <;> rfl
  | zero sign => cases sign <;> rfl
  | finite sign mantissa exponent positive =>
      refine Bool.eq_false_iff.mpr fun nan => ?_
      obtain ⟨special, fraction⟩ := (unpack_isNaN_iff _ _).mp nan
      change UnpackedFloat.unpackExponent (UnpackedFloat.pack _ _) = _ at special
      change UnpackedFloat.unpackMantissa (UnpackedFloat.pack _ _) ≠ _ at fraction
      unfold UnpackedFloat.pack at special fraction
      dsimp only at special fraction
      split at special
      · rename_i overflow
        rw [if_pos overflow] at fraction
        exact fraction UnpackedFloat.unpackMantissa_packComponents
      · rename_i within
        split at special
        · rw [UnpackedFloat.unpackExponent_packComponents] at special
          have ones : (-1#_ : BitVec Format.binary64.exponentBits).toNat = 2047 := rfl
          have bound : (2 : Nat) ^ Format.binary64.exponentBits = 2048 := rfl
          have field := congrArg BitVec.toNat special
          rw [ones, BitVec.toNat_ofNat, bound] at field
          rw [bound] at within
          omega
        · rw [UnpackedFloat.unpackExponent_packComponents] at special
          cases special

theorem ofBits_isNaN (negative : Bool) (bits : Nat) (most : bits ≤ infinityBits) :
    isNaN (ofBits negative bits) = false := by
  let pattern : BitVec 64 := (UInt64.ofNat (if negative then Nat.pow 2 63 + bits else bits)).toBitVec
  change (Float.Model.pack (UnpackedFloat.unpack Format.binary64 pattern)).unpack.isNaN = false
  rw [repacked_isNaN]
  refine Bool.eq_false_iff.mpr fun nan => ?_
  obtain ⟨special, fraction⟩ := (unpack_isNaN_iff _ _).mp nan
  have field := (exponent_toNat pattern).symm.trans (congrArg BitVec.toNat special)
  have digits : pattern.toNat % 2 ^ 52 ≠ 0 := fun none =>
    fraction (BitVec.eq_of_toNat_eq ((mantissa_toNat pattern).trans none))
  have ones : (-1#_ : BitVec Format.binary64.exponentBits).toNat = 2047 := rfl
  have value : pattern.toNat = (if negative then Nat.pow 2 63 + bits else bits) % 2 ^ 64 := UInt64.toNat_ofNat'
  have bound : bits ≤ 9218868437227405312 := most
  rw [ones] at field
  rw [value] at field digits
  cases negative <;> simp at field digits <;> omega

theorem ofUnits_isNaN (units : Int) : isNaN (ofUnits units) = false :=
  ofBits_isNaN _ _ (Nat.min_le_left _ _)

end Packing

section Comparing

theorem compare_swap (a b : UnpackedFloat) : a.compare b = (b.compare a).map Ordering.swap := by
  have whole (m n : Nat) : compare m n = (compare n m).swap := Std.OrientedCmp.eq_swap
  have power (m n : Int) : compare m n = (compare n m).swap := Std.OrientedCmp.eq_swap
  have signs (m n : UnpackedFloat.Sign) : compare m n = (compare n m).swap := by cases m <;> cases n <;> rfl
  cases a with
  | notANumber => cases b <;> rfl
  | infinity sign =>
      cases b with
      | infinity other => exact congrArg some (signs sign other)
      | _ => cases sign <;> rfl
  | zero sign =>
      cases b with
      | infinity other | finite other => cases other <;> rfl
      | _ => rfl
  | finite sign m e _ =>
      cases b with
      | finite other n f _ =>
          have both : (compare e f).then (compare m n) = ((compare f e).then (compare n m)).swap := by
            rw [whole m n, power e f, Ordering.swap_then]
          cases sign with
          | positive =>
              cases other with
              | positive => exact congrArg some both
              | negative => rfl
          | negative =>
              cases other with
              | positive => rfl
              | negative => exact congrArg (fun order => some order.swap) both
      | infinity other => cases other <;> cases sign <;> rfl
      | _ => cases sign <;> rfl

theorem compare_numbers (a b : UnpackedFloat) (first : a.isNaN = false) (second : b.isNaN = false) :
    ∃ order, a.compare b = some order := by
  cases a with
  | notANumber => cases first
  | infinity sign =>
      cases b with
      | notANumber => cases second
      | _ => cases sign <;> exact ⟨_, rfl⟩
  | zero sign =>
      cases b with
      | notANumber => cases second
      | infinity other | finite other => cases other <;> exact ⟨_, rfl⟩
      | zero => exact ⟨_, rfl⟩
  | finite sign =>
      cases b with
      | notANumber => cases second
      | infinity other | finite other => cases other <;> cases sign <;> exact ⟨_, rfl⟩
      | zero => cases sign <;> exact ⟨_, rfl⟩

variable (x y : Float)

theorem lt_iff : x < y ↔ (unpacked x).compare (unpacked y) = some .lt := by
  change decide (UnpackedFloat.lt (unpacked x) (unpacked y) = true) = true ↔ _
  simp [UnpackedFloat.lt]

theorem le_iff : x ≤ y ↔ ∃ order, (unpacked x).compare (unpacked y) = some order ∧ order.isLE = true := by
  change decide (UnpackedFloat.le (unpacked x) (unpacked y) = true) = true ↔ _
  simp [UnpackedFloat.le, Option.any_eq_true]

theorem le_of_not_lt (first : isNaN x = false) (second : isNaN y = false) (above : ¬ x < y) : y ≤ x := by
  obtain ⟨order, ordered⟩ := compare_numbers (unpacked x) (unpacked y) first second
  rw [lt_iff, ordered] at above
  rw [le_iff, compare_swap, ordered]
  refine ⟨order.swap, rfl, ?_⟩
  cases order with
  | lt => exact absurd rfl above
  | eq | gt => rfl

theorem number_of_le (ordered : x ≤ y) : isNaN x = false ∧ isNaN y = false := by
  obtain ⟨order, found, _⟩ := (le_iff x y).mp ordered
  change (unpacked x).isNaN = false ∧ (unpacked y).isNaN = false
  cases first : unpacked x with
  | notANumber =>
      rw [first] at found
      cases found
  | _ =>
      cases second : unpacked y with
      | notANumber =>
          rw [first, second] at found
          cases found
      | _ => exact ⟨rfl, rfl⟩

variable {x} in
theorem regular_of_finite (finite : isFinite x = true) : isNaN x = false ∧ isInfinite x = false := by
  change (unpacked x).isFinite = true at finite
  change (unpacked x).isNaN = false ∧ (unpacked x).isInf = false
  cases known : unpacked x with
  | notANumber | infinity =>
      rw [known] at finite
      cases finite
  | zero | finite => exact ⟨rfl, rfl⟩

end Comparing

section Arithmetic

theorem normalize_isNaN (spec : Format) (mantissa exponent : Int) (sign : UnpackedFloat.Sign) :
    (UnpackedFloat.normalize spec mantissa exponent sign).isNaN = false := by
  have either {p : Prop} [Decidable p] (yes : p → UnpackedFloat) (no : ¬ p → UnpackedFloat)
      (first : ∀ holds, (yes holds).isNaN = false) (second : ∀ fails, (no fails).isNaN = false) :
      (dite p yes no).isNaN = false := by
    by_cases holds : p
    · rw [dif_pos holds]
      exact first holds
    · rw [dif_neg holds]
      exact second holds
  have rounded (sign : UnpackedFloat.Sign) (mantissa : Nat) :
      (UnpackedFloat.round spec sign mantissa exponent).isNaN = false := by
    unfold UnpackedFloat.round UnpackedFloat.roundWithAccuracy
    exact either _ _ (fun _ => rfl) fun _ => rfl
  unfold UnpackedFloat.normalize
  split
  · exact rounded _ _
  · rfl
  · exact rounded _ _

theorem sub_isNaN (x y : Float) (number : isNaN x = false) (finite : isFinite y = true) :
    isNaN (x - y) = false := by
  change (Float.Model.pack (UnpackedFloat.sub _ (unpacked x) (unpacked y))).unpack.isNaN = false
  rw [repacked_isNaN]
  change (unpacked x).isNaN = false at number
  change (unpacked y).isFinite = true at finite
  cases right : unpacked y with
  | notANumber | infinity =>
      rw [right] at finite
      cases finite
  | zero other =>
      cases left : unpacked x with
      | notANumber =>
          rw [left] at number
          cases number
      | zero sign => cases sign <;> cases other <;> rfl
      | infinity | finite => rfl
  | finite =>
      cases left : unpacked x with
      | notANumber =>
          rw [left] at number
          cases number
      | finite => exact normalize_isNaN _ _ _ _
      | infinity | zero => rfl

theorem abs_isNaN (x : Float) : isNaN x.abs = isNaN x := by
  change (Float.Model.pack (unpacked x).abs).unpack.isNaN = (unpacked x).isNaN
  rw [repacked_isNaN]
  cases unpacked x <;> rfl

def IsEndless (x : Float) : Prop := unpacked x = .infinity .positive

theorem endless_of_not_finite (x : Float) (number : isNaN x = false) (endless : isFinite x = false)
    (above : ¬ x < 0) : IsEndless x := by
  change (unpacked x).isNaN = false at number
  change (unpacked x).isFinite = false at endless
  rw [lt_iff] at above
  unfold IsEndless
  cases kind : unpacked x with
  | notANumber =>
      rw [kind] at number
      cases number
  | zero | finite =>
      rw [kind] at endless
      cases endless
  | infinity sign =>
      cases sign with
      | positive => rfl
      | negative =>
          rw [kind] at above
          exact absurd rfl above

theorem endless_add (x y : Float) (start : unpacked x = .zero .positive ∨ IsEndless x) (endless : IsEndless y) :
    IsEndless (x + y) := by
  change (Float.Model.pack (UnpackedFloat.add _ (unpacked x) (unpacked y))).unpack = _
  rw [endless]
  rcases start with zero | before
  · rw [zero]
    rfl
  · rw [before]
    rfl

end Arithmetic

inductive ExactSum.Regular : ExactSum → Prop where
  | finite (units : Int) (parts : List Float) : Regular ⟨units, parts, 0, 0⟩
  | endless (sum : ExactSum) (special : IsEndless sum.special) (infinite : IsEndless sum.infinite) :
      Regular sum

theorem add_regular (sum next : ExactSum) (x : Float) (number : isNaN x = false) (above : ¬ x < 0)
    (regular : sum.Regular) (added : sum.add x = .ok next) : next.Regular := by
  unfold ExactSum.add at added
  by_cases finite : isFinite x = true
  · rw [if_pos finite] at added
    dsimp only at added
    split at added
    · cases added
      cases regular with
      | finite units parts => exact .finite _ _
      | endless _ special infinite => exact .endless _ special infinite
    · cases added
  · rw [if_neg finite] at added
    cases added
    have endless := endless_of_not_finite x number (by simpa using finite) above
    have infinite : isInfinite x = true := by
      change (unpacked x).isInf = true
      rw [endless]
      rfl
    rw [infinite, if_pos rfl]
    cases regular with
    | finite units parts =>
        have sum := endless_add 0 x (.inl rfl) endless
        exact .endless _ sum sum
    | endless _ special others =>
        exact .endless _ (endless_add _ x (.inr special) endless) (endless_add _ x (.inr others) endless)

theorem addAll_regular (terms : List Float) (sum last : ExactSum)
    (numbers : ∀ x ∈ terms, isNaN x = false) (above : ∀ x ∈ terms, ¬ x < 0) (regular : sum.Regular)
    (added : terms.foldlM ExactSum.add sum = .ok last) : last.Regular := by
  induction terms generalizing sum with
  | nil =>
      cases added
      exact regular
  | cons x rest ih =>
      obtain ⟨number, others⟩ := List.forall_mem_cons.mp numbers
      obtain ⟨positive, later⟩ := List.forall_mem_cons.mp above
      rw [List.foldlM_cons] at added
      cases one : sum.add x with
      | error fault =>
          rw [one] at added
          cases added
      | ok next =>
          rw [one] at added
          exact ih next others later (add_regular sum next x number positive regular one) added

theorem total_isNaN (sum : ExactSum) (total : Float) (regular : sum.Regular)
    (summed : sum.total = .ok total) : isNaN total = false := by
  cases regular with
  | finite units parts =>
      have zero : ((0 : Float) == 0) = true := by decide +kernel
      rw [ExactSum.total, zero, if_pos rfl] at summed
      cases summed
      exact ofUnits_isNaN units
  | endless _ special infinite =>
      have positive : (sum.special == 0) = false := by
        change UnpackedFloat.beq (unpacked sum.special) (unpacked 0) = false
        rw [special]
        rfl
      have number : isNaN sum.infinite = false := by
        change (unpacked sum.infinite).isNaN = false
        rw [infinite]
        rfl
      rw [ExactSum.total, positive, number] at summed
      cases summed
      change (unpacked sum.special).isNaN = false
      rw [special]
      rfl

theorem exactSum_isNaN (terms : List Float) (total : Float) (numbers : ∀ x ∈ terms, isNaN x = false)
    (above : ∀ x ∈ terms, ¬ x < 0) (summed : exactSum terms = .ok total) : isNaN total = false := by
  unfold exactSum at summed
  cases added : terms.foldlM ExactSum.add ExactSum.empty with
  | error fault =>
      rw [added] at summed
      cases summed
  | ok last =>
      rw [added] at summed
      exact total_isNaN last total (addAll_regular terms _ last numbers above (.finite 0 []) added) summed

end Fiscal.Number
