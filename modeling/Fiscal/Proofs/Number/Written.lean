import Fiscal.Number.Text
import Fiscal.Proofs.Number.Decimal
import Fiscal.Proofs.Token.Numeral
import Fiscal.Proofs.Number.Sign
import Mathlib.Algebra.Group.Nat.Defs

set_option autoImplicit false

namespace Fiscal.Number

def PlainDigits (chars : List Char) : Prop := chars ≠ [] ∧ ∀ c ∈ chars, c.isDigit = true

inductive WrittenPower : List Char → Int → Prop where
  | none : WrittenPower [] 0
  | up (digits : List Char) (plain : PlainDigits digits) : WrittenPower ('e' :: '+' :: digits) (digitsValue digits)
  | down (digits : List Char) (plain : PlainDigits digits) :
      WrittenPower ('e' :: '-' :: digits) (-(digitsValue digits : Int))

inductive Written : List Char → Decimal → Prop where
  | whole (digits power : List Char) (exponent : Int) (plain : PlainDigits digits)
      (powered : WrittenPower power exponent) : Written (digits ++ power) ⟨digitsValue digits, exponent⟩
  | point (digits fraction power : List Char) (exponent : Int) (plain : PlainDigits digits)
      (also : PlainDigits fraction) (powered : WrittenPower power exponent) :
      Written (digits ++ '.' :: fraction ++ power) ⟨digitsValue (digits ++ fraction), exponent - fraction.length⟩

section Digits

variable {chars front back : List Char}

theorem PlainDigits.append (first : PlainDigits front) (second : ∀ c ∈ back, c.isDigit = true) :
    PlainDigits (front ++ back) :=
  ⟨List.append_ne_nil_of_left_ne_nil first.1 _, List.forall_mem_append.mpr ⟨first.2, second⟩⟩

theorem PlainDigits.digits (plain : PlainDigits chars) : Digits chars :=
  ⟨plain.1, fun c member => Text.digit_of_ascii (plain.2 c member)⟩

theorem zeros_plain (count : Nat) : ∀ c ∈ List.replicate count '0', c.isDigit = true := by
  intro c member
  rw [List.eq_of_mem_replicate member]
  rfl

theorem zero_plain : PlainDigits ['0'] := ⟨by decide, zeros_plain 1⟩

theorem number_plain (n : Nat) : PlainDigits (Nat.toDigits 10 n) :=
  ⟨Nat.toDigits_ne_nil, fun _ member => Nat.isDigit_of_mem_toDigits (by decide) (by decide) member⟩

theorem digitsValue_append (front back : List Char) :
    digitsValue (front ++ back) = 10 ^ back.length * digitsValue front + digitsValue back := by
  change Nat.ofDigitChars 10 (front ++ back) 0 = _
  rw [Nat.ofDigitChars_append, Nat.ofDigitChars_eq_ofDigitChars_zero]
  rfl

theorem digitsValue_zeros (count : Nat) : digitsValue (List.replicate count '0') = 0 := by
  change Nat.ofDigitChars 10 (List.replicate count '0') 0 = 0
  rw [Nat.ofDigitChars_replicate_zero, Nat.mul_zero]

theorem digitsValue_number (n : Nat) : digitsValue (Nat.toDigits 10 n) = n := Nat.ofDigitChars_ten_toDigits

theorem plainDigit_plain {c : Char} (digit : c.isDigit = true) : plainDigit c = c := by
  have range : 0x30 ≤ c.toNat ∧ c.toNat ≤ 0x39 := by
    simp only [Char.isDigit, Bool.and_eq_true, decide_eq_true_eq] at digit
    exact digit
  have found : Text.decimalValue? c = some (c.toNat - 0x30) := by
    unfold Text.decimalValue?
    rw [if_pos (by omega), if_pos digit]
  unfold plainDigit
  rw [found]
  dsimp only
  rw [Nat.add_sub_cancel' range.1, Char.ofNat_toNat]

theorem plainDigits_plain (plain : ∀ c ∈ chars, c.isDigit = true) : chars.map plainDigit = chars := by
  have same : chars.map plainDigit = chars.map id :=
    List.map_congr_left fun c member => plainDigit_plain (plain c member)
  rw [same, List.map_id]

end Digits

section Reading

variable {text power : List Char} {exponent : Int} {d : Decimal}

theorem WrittenPower.powered (written : WrittenPower power exponent) : Powered power := by
  cases written with
  | none => exact .none
  | up digits plain => exact .signed _ _ _ (.inl rfl) (.inl rfl) plain.digits
  | down digits plain => exact .signed _ _ _ (.inl rfl) (.inr rfl) plain.digits

theorem WrittenPower.plain (written : WrittenPower power exponent) : power.map plainDigit = power := by
  cases written with
  | none => rfl
  | up digits plain =>
      rw [List.map_cons, List.map_cons, plainDigits_plain plain.2]
      rfl
  | down digits plain =>
      rw [List.map_cons, List.map_cons, plainDigits_plain plain.2]
      rfl

theorem WrittenPower.read (written : WrittenPower power exponent) : readExponent power = some exponent := by
  have whole {digits : List Char} (plain : PlainDigits digits) :
      digits.isEmpty = false ∧ digits.all Char.isDigit = true :=
    ⟨by simp [plain.1], List.all_eq_true.mpr plain.2⟩
  cases written with
  | none => rfl
  | up digits plain =>
      obtain ⟨some, all⟩ := whole plain
      simp [readExponent, readWholeExponent, splitSign, some, all]
  | down digits plain =>
      obtain ⟨some, all⟩ := whole plain
      simp [readExponent, readWholeExponent, splitSign, some, all]

theorem WrittenPower.head (written : WrittenPower power exponent) (c : Char) (begins : power.head? = some c) :
    c = 'e' := by
  cases written with
  | none => cases begins
  | up => exact (Option.some.inj begins).symm
  | down => exact (Option.some.inj begins).symm

theorem Written.numeral (written : Written text d) : Numeral text := by
  cases written with
  | whole digits power exponent plain powered =>
      have numeral := Numeral.mk digits [] power plain.digits .none powered.powered
      rwa [List.append_nil] at numeral
  | point digits fraction power exponent plain also powered =>
      exact .mk digits _ power plain.digits (.point _ also.digits) powered.powered

theorem Written.plain (written : Written text d) : text.map plainDigit = text := by
  cases written with
  | whole digits power exponent plain powered => rw [List.map_append, plainDigits_plain plain.2, powered.plain]
  | point digits fraction power exponent plain also powered =>
      rw [List.map_append, List.map_append, List.map_cons, plainDigits_plain plain.2, plainDigits_plain also.2,
        powered.plain]
      rfl

theorem Written.readDecimal (written : Written text d) : readDecimal text = some d := by
  have stop {power : List Char} {exponent : Int} (powered : WrittenPower power exponent) :
      ∀ c, power.head? = some c → c.isDigit = false := by
    intro c begins
    rw [powered.head c begins]
    rfl
  cases written with
  | whole digits power exponent plain powered =>
      obtain ⟨taken, left⟩ := span_digits (List.all_eq_true.mpr plain.2) (stop powered)
      have full : digits.isEmpty = false := by simp [plain.1]
      have read := powered.read
      unfold Number.readDecimal
      dsimp only
      rw [taken, left]
      cases powered with
      | none => simp [full, read]
      | up => simp [full, read]
      | down => simp [full, read]
  | point digits fraction power exponent plain also powered =>
      have pointed : ∀ c, ('.' :: fraction ++ power).head? = some c → c.isDigit = false := by
        intro c begins
        cases begins
        rfl
      obtain ⟨taken, left⟩ := span_digits (List.all_eq_true.mpr plain.2) pointed
      obtain ⟨more, behind⟩ := span_digits (List.all_eq_true.mpr also.2) (stop powered)
      have full : digits.isEmpty = false := by simp [plain.1]
      unfold Number.readDecimal
      dsimp only
      rw [List.append_assoc, taken, left, List.cons_append]
      simp only [more, behind, powered.read, full]
      rfl

theorem Written.read (written : Written text d) : read? (String.ofList text) = some (d.toFloat false) := by
  rw [written.numeral.read_eq, written.plain, written.readDecimal]
  rfl

end Reading

section Writing

theorem whole_written (n : Nat) : Written (Nat.toDigits 10 n) ⟨n, 0⟩ := by
  have written := Written.whole (Nat.toDigits 10 n) [] 0 (number_plain n) .none
  rwa [List.append_nil, digitsValue_number] at written

theorem padded_plain (n : Nat) :
    PlainDigits (if (toString n).length < 2 then "0" ++ toString n else toString n).toList ∧
      digitsValue (if (toString n).length < 2 then "0" ++ toString n else toString n).toList = n := by
  rw [Nat.toString_eq_repr]
  split
  · rw [String.toList_append, Nat.toList_repr]
    exact ⟨PlainDigits.append zero_plain (number_plain n).2,
      (digitsValue_append ['0'] _).trans (by rw [digitsValue_number]; exact Nat.zero_add n)⟩
  · rw [Nat.toList_repr]
    exact ⟨number_plain n, digitsValue_number n⟩

theorem exponentText_written (exponent : Int) : WrittenPower (exponentText exponent).toList exponent := by
  obtain ⟨plain, value⟩ := padded_plain exponent.natAbs
  unfold exponentText
  dsimp only
  rw [String.toList_append]
  by_cases negative : exponent < 0
  · have written := WrittenPower.down _ plain
    rw [value, show -(exponent.natAbs : Int) = exponent by omega] at written
    rw [if_pos negative]
    exact written
  · have written := WrittenPower.up _ plain
    rw [value, show (exponent.natAbs : Int) = exponent by omega] at written
    rw [if_neg negative]
    exact written

section Layouts

variable {digits : List Char} (plain : PlainDigits digits) (exponent : Int)

include plain

theorem scientific_written :
    Written ((String.ofList (digits.take 1) ++
        (if (String.ofList (digits.drop 1)).isEmpty then "" else "." ++ String.ofList (digits.drop 1)) ++
        exponentText (digits.length + exponent - 1)).toList) ⟨digitsValue digits, exponent⟩ := by
  have power := exponentText_written (digits.length + exponent - 1)
  obtain ⟨first, tail, rfl⟩ := List.exists_cons_of_ne_nil plain.1
  have leading : PlainDigits [first] := ⟨List.cons_ne_nil _ _, by simpa using plain.2 first List.mem_cons_self⟩
  have moved : ((first :: tail).length : Int) + exponent - 1 - tail.length = exponent := by
    rw [List.length_cons]
    omega
  rw [String.toList_append, String.toList_append, String.toList_ofList, List.take_succ_cons, List.take_zero,
    List.drop_succ_cons, List.drop_zero]
  cases tail with
  | nil =>
      rw [List.length_nil, Int.natCast_zero, Int.sub_zero] at moved
      have written := Written.whole [first] _ _ leading power
      rw [moved] at written ⊢
      exact written
  | cons second others =>
      have behind : PlainDigits (second :: others) :=
        ⟨List.cons_ne_nil _ _, fun c member => plain.2 c (List.mem_cons_of_mem _ member)⟩
      have written := Written.point [first] (second :: others) _ _ leading behind power
      rw [moved] at written
      have some : (String.ofList (second :: others)).isEmpty = false := by simp
      simp only [some, Bool.false_eq_true, if_false, String.toList_append, String.toList_ofList]
      exact written

theorem small_written (below : digits.length + exponent ≤ 0) :
    Written (("0." ++ zeros (-(digits.length + exponent)).toNat ++ String.ofList digits).toList)
      ⟨digitsValue digits, exponent⟩ := by
  have behind : PlainDigits (List.replicate (-(digits.length + exponent)).toNat '0' ++ digits) :=
    ⟨List.append_ne_nil_of_right_ne_nil _ plain.1, List.forall_mem_append.mpr ⟨zeros_plain _, plain.2⟩⟩
  have written := Written.point ['0'] _ [] 0 zero_plain behind .none
  have value : digitsValue (['0'] ++ (List.replicate (-(digits.length + exponent)).toNat '0' ++ digits)) =
      digitsValue digits := by
    rw [digitsValue_append, digitsValue_append, digitsValue_zeros, Nat.mul_zero, Nat.zero_add]
    exact Nat.zero_add _
  have places : (0 : Int) - (List.replicate (-(digits.length + exponent)).toNat '0' ++ digits).length = exponent := by
    rw [List.length_append, List.length_replicate]
    omega
  rw [value, places, List.append_nil] at written
  simp only [zeros, String.toList_append, String.toList_ofList, List.append_assoc]
  exact written

theorem large_written (above : 0 ≤ exponent) :
    ∃ same,
      Written ((String.ofList digits ++ zeros (digits.length + exponent - digits.length).toNat ++ ".0").toList) same ∧
      same.bits = Decimal.bits ⟨digitsValue digits, exponent⟩ := by
  obtain ⟨count, rfl⟩ := Int.eq_ofNat_of_zero_le above
  have shift : ((digits.length : Int) + count - digits.length).toNat = count := by omega
  have written := Written.point (digits ++ List.replicate count '0') ['0'] [] 0 (plain.append (zeros_plain count))
    zero_plain .none
  rw [List.append_nil] at written
  refine ⟨⟨digitsValue (digits ++ List.replicate count '0' ++ ['0']), 0 - (['0'] : List Char).length⟩, ?_, ?_⟩
  · simp only [shift, zeros, String.toList_append, String.toList_ofList]
    exact written
  · rw [List.append_assoc, digitsValue_append, ← List.replicate_succ', digitsValue_zeros, Nat.add_zero,
      List.length_replicate, Nat.mul_comm, Decimal.bits_power]
    congr 2
    simp only [List.length_singleton]
    omega

theorem mixed_written (within : 0 < digits.length + exponent) (short : exponent < 0) :
    Written ((String.ofList (digits.take (digits.length + exponent).toNat) ++ "." ++
        String.ofList (digits.drop (digits.length + exponent).toNat)).toList) ⟨digitsValue digits, exponent⟩ := by
  obtain ⟨count, same⟩ := Int.eq_ofNat_of_zero_le (Int.le_of_lt within)
  rw [same, Int.toNat_natCast]
  have length : (digits.take count).length = count := by
    rw [List.length_take]
    omega
  have left : (digits.drop count).length = digits.length - count := List.length_drop
  have front : PlainDigits (digits.take count) :=
    ⟨List.ne_nil_of_length_pos (by omega), fun c member => plain.2 c (List.mem_of_mem_take member)⟩
  have back : PlainDigits (digits.drop count) :=
    ⟨List.ne_nil_of_length_pos (by omega), fun c member => plain.2 c (List.mem_of_mem_drop member)⟩
  have written := Written.point _ _ [] 0 front back .none
  have places : (0 : Int) - (digits.drop count).length = exponent := by omega
  rw [List.take_append_drop, places, List.append_nil] at written
  simp only [String.toList_append, String.toList_ofList, List.append_assoc]
  exact written

end Layouts

theorem write_written (d : Decimal) : ∃ same, Written (listing.write d).toList same ∧ same.bits = d.bits := by
  obtain ⟨n, exponent⟩ := d
  have plain := number_plain n
  have value := digitsValue_number n
  unfold Layout.write
  simp only [Nat.toString_eq_ofList_toDigits, String.toList_ofList, String.length_ofList]
  generalize Nat.toDigits 10 n = digits at plain value ⊢
  subst value
  split
  · exact ⟨_, scientific_written plain exponent, rfl⟩
  · split
    · rename_i below
      exact ⟨_, small_written plain exponent below, rfl⟩
    · split
      · exact large_written plain exponent (by omega)
      · exact ⟨_, mixed_written plain exponent (by omega) (by omega), rfl⟩

end Writing

variable {x : Float}

inductive Displayed (x : Float) : List Char → Prop where
  | plain (text : List Char) (d : Decimal) (written : Written text d) (equal : (x == d.toFloat false) = true) :
      Displayed x text
  | minus (text : List Char) (d : Decimal) (written : Written text d) (equal : (x == -d.toFloat false) = true) :
      Displayed x ('-' :: text)

theorem signed_displayed (finite : isFinite x = true) {text : String} {d : Decimal} (written : Written text.toList d)
    (reads : d.bits = magnitudeBits x) : Displayed x (signed x text).toList := by
  unfold signed
  by_cases negative : isNegative x = true
  · rw [if_pos negative, String.toList_append]
    refine .minus _ d written ?_
    rw [Decimal.toFloat, reads]
    exact equal_negated finite negative
  · rw [if_neg negative]
    refine .plain _ d written ?_
    rw [Decimal.toFloat, reads]
    exact equal_magnitude finite (by simpa using negative)

theorem exact_displayed (finite : isFinite x = true) : Displayed x (exact x).toList := by
  obtain ⟨number, bounded⟩ := regular_of_finite finite
  have small := magnitude_finite finite
  unfold exact writeWith
  rw [if_neg (by rw [number]; decide), if_neg (by rw [bounded]; decide)]
  by_cases zero : magnitudeBits x = 0
  · rw [if_pos zero]
    refine signed_displayed finite (.point ['0'] ['0'] [] 0 zero_plain zero_plain .none) ?_
    rw [zero]
    rfl
  · rw [if_neg zero]
    obtain ⟨same, written, value⟩ := write_written (shortestOfBits (magnitudeBits x))
    refine signed_displayed finite written ?_
    rw [value, shortest_bits (Nat.pos_of_ne_zero zero) small]

theorem whole_part {units one : Nat} (positive : 0 < one) (negative : Bool)
    (divides : (if negative then -(units : Int) else units) % (one : Int) = 0) :
    ∃ n : Nat, units = n * one ∧
      (if negative then -(units : Int) else units).tdiv one = if negative then -(n : Int) else n := by
  have whole : (one : Int) ∣ units := by
    cases negative with
    | false => exact Int.dvd_of_emod_eq_zero divides
    | true => exact Int.dvd_neg.mp (Int.dvd_of_emod_eq_zero divides)
  obtain ⟨n, rfl⟩ := Int.natCast_dvd_natCast.mp whole
  have part : ((one * n : Nat) : Int).tdiv one = n := by
    rw [Int.natCast_mul]
    exact Int.mul_tdiv_cancel_left _ (by omega)
  refine ⟨n, Nat.mul_comm _ _, ?_⟩
  cases negative with
  | false => exact part
  | true => exact (Int.neg_tdiv _ _).trans (congrArg Neg.neg part)

theorem whole_displayed (whole : isWhole x = true) : Displayed x (toString (truncate x)).toList := by
  obtain ⟨finite, divides⟩ := Bool.and_eq_true_iff.mp whole
  obtain ⟨n, units, part⟩ := whole_part unitsPerOne_positive (isNegative x) (beq_iff_eq.mp divides)
  have reads := whole_bits (magnitude_finite finite) units
  change truncate x = _ at part
  rw [part]
  cases negative : isNegative x with
  | false =>
      have text : (toString (n : Int)).toList = Nat.toDigits 10 n := Nat.toList_repr
      rw [if_neg (by decide), text]
      refine .plain _ ⟨n, 0⟩ (whole_written n) ?_
      rw [Decimal.toFloat, reads]
      exact equal_magnitude finite negative
  | true =>
      by_cases zero : n = 0
      · -- Zero is displayed without a sign.
        rw [zero] at reads ⊢
        refine .plain _ ⟨0, 0⟩ (whole_written 0) ?_
        exact equal_zero finite reads.symm
      · have below : ¬ (0 : Int) ≤ -(n : Int) := by omega
        have text : toString (-(n : Int)) = "-" ++ n.repr := by
          rw [Int.toString_eq_repr, Int.repr_eq_if, if_neg below, Int.neg_neg, Int.toNat_natCast]
        rw [if_pos rfl, text, String.toList_append, Nat.toList_repr]
        refine .minus _ ⟨n, 0⟩ (whole_written n) ?_
        rw [Decimal.toFloat, reads]
        exact equal_negated finite negative

theorem display_displayed (finite : isFinite x = true) : Displayed x (display x).toList := by
  unfold display
  split
  · rename_i short
    exact whole_displayed (Bool.and_eq_true_iff.mp short).1
  · exact exact_displayed finite

end Fiscal.Number
