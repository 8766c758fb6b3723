import Fiscal.Proofs.Token.Literal

set_option autoImplicit false

namespace Fiscal

namespace Text

variable {c : Char}

theorem Ranges.covers_apart {ranges others : Ranges} {code : Nat}
    (apart : ∀ range ∈ ranges, ∀ other ∈ others, range.2 < other.1 ∨ other.2 < range.1)
    (covered : ranges.covers code = true) : others.covers code = false := by
  obtain ⟨range, member, within⟩ := List.any_eq_true.mp covered
  refine Bool.eq_false_iff.mpr fun both => ?_
  obtain ⟨other, among, also⟩ := List.any_eq_true.mp both
  have distance := apart range member other among
  simp only [Bool.and_eq_true, decide_eq_true_eq] at within also
  omega

def digitRanges : Ranges := (0x30, 0x39) :: (decimalRanges ++ otherDigitRanges)

theorem digit_covered (digit : isDigit c = true) : digitRanges.covers c.toNat = true := by
  unfold isDigit at digit
  unfold digitRanges Ranges.covers
  by_cases ascii : c.toNat < 0x80
  · rw [if_pos ascii] at digit
    simp only [Char.isDigit, Bool.and_eq_true, decide_eq_true_eq] at digit
    have low : 0x30 ≤ c.toNat := digit.1
    have high : c.toNat ≤ 0x39 := digit.2
    simp [low, high]
  · rw [if_neg ascii] at digit
    simp only [Bool.or_eq_true, Ranges.covers] at digit
    simp only [List.any_cons, List.any_append, Bool.or_eq_true]
    exact .inr digit

theorem digit_not_blank (digit : isDigit c = true) : isBlank c = false :=
  Ranges.covers_apart (by decide) (digit_covered digit)

theorem digit_not_plainBlank (digit : isDigit c = true) : Number.isPlainBlank c = false := by
  have apart : Ranges.covers [(0x09, 0x0D), (0x20, 0x20)] c.toNat = false :=
    Ranges.covers_apart (by decide) (digit_covered digit)
  refine Bool.eq_false_iff.mpr fun blank => ?_
  simp only [Number.isPlainBlank, Bool.or_eq_true, Bool.and_eq_true, decide_eq_true_eq] at blank
  simp only [Ranges.covers, List.any_cons, List.any_nil, Bool.or_false, Bool.or_eq_false_iff,
    Bool.and_eq_false_iff, decide_eq_false_iff_not] at apart
  rcases blank with rfl | between
  · revert apart
    decide
  · omega

theorem digit_toLower (digit : isDigit c = true) : c.toLower = c := by
  have apart : Ranges.covers [(65, 90)] c.toNat = false :=
    Ranges.covers_apart (by decide) (digit_covered digit)
  unfold Char.toLower
  refine dif_neg ?_
  rintro ⟨low, high⟩
  have least : 65 ≤ c.toNat := low
  have most : c.toNat ≤ 90 := high
  simp [Ranges.covers, least, most] at apart

theorem decimalValue_isSome (c : Char) : (decimalValue? c).isSome = isDecimal c := by
  unfold decimalValue? isDecimal
  by_cases ascii : c.toNat < 0x80
  · rw [if_pos ascii, if_pos ascii]
    cases c.isDigit <;> rfl
  · rw [if_neg ascii, if_neg ascii]
    rw [Option.isSome_map, Ranges.base?, Option.isSome_map, Bool.eq_iff_iff, List.find?_isSome]
    exact List.any_eq_true.symm

theorem decimalValue_small {value : Nat} (found : decimalValue? c = some value) : value < 10 := by
  unfold decimalValue? at found
  by_cases ascii : c.toNat < 0x80
  · rw [if_pos ascii] at found
    by_cases digit : c.isDigit = true
    · rw [if_pos digit] at found
      cases found
      simp only [Char.isDigit, Bool.and_eq_true, decide_eq_true_eq] at digit
      have high : c.toNat ≤ 0x39 := digit.2
      omega
    · rw [if_neg digit] at found
      cases found
  · rw [if_neg ascii] at found
    obtain ⟨base, _, rfl⟩ := Option.map_eq_some_iff.mp found
    omega

theorem plainDigit_decimal (decimal : isDecimal c = true) : (Number.plainDigit c).isDigit = true := by
  rw [← decimalValue_isSome] at decimal
  obtain ⟨value, found⟩ := Option.isSome_iff_exists.mp decimal
  have digits : ∀ value < 10, (Char.ofNat (0x30 + value)).isDigit = true := by decide
  unfold Number.plainDigit
  rw [found]
  exact digits value (decimalValue_small found)

theorem plainDigit_other (other : isDecimal c = false) : Number.plainDigit c = c := by
  rw [← decimalValue_isSome, Option.isSome_eq_false_iff, Option.isNone_iff_eq_none] at other
  unfold Number.plainDigit
  rw [other]

theorem digit_of_ascii (digit : c.isDigit = true) : isDigit c = true := by
  have high : c.toNat ≤ 0x39 := by
    simp only [Char.isDigit, Bool.and_eq_true, decide_eq_true_eq] at digit
    exact digit.2
  unfold isDigit
  rw [if_pos (by omega)]
  exact digit

theorem decimal_of_ascii (digit : c.isDigit = true) : isDecimal c = true := by
  have high : c.toNat ≤ 0x39 := by
    simp only [Char.isDigit, Bool.and_eq_true, decide_eq_true_eq] at digit
    exact digit.2
  unfold isDecimal
  rw [if_pos (by omega)]
  exact digit

theorem plainDigit_digit (digit : isDigit c = true) : isDigit (Number.plainDigit c) = true := by
  by_cases decimal : isDecimal c = true
  · exact digit_of_ascii (plainDigit_decimal decimal)
  · rw [plainDigit_other (by simpa using decimal)]
    exact digit

theorem plainDigit_isDigit (c : Char) : (Number.plainDigit c).isDigit = isDecimal c := by
  by_cases decimal : isDecimal c = true
  · rw [decimal, plainDigit_decimal decimal]
  · have other : isDecimal c = false := by simpa using decimal
    rw [plainDigit_other other, other]
    refine Bool.eq_false_iff.mpr fun digit => ?_
    exact decimal (decimal_of_ascii digit)

end Text

namespace Number

open Text

theorem dropUnderscores_clean (chars : List Char) (before : Bool) (clean : '_' ∉ chars) :
    dropUnderscores before chars = some chars := by
  induction chars generalizing before with
  | nil => rfl
  | cons c rest ih =>
      simp only [List.mem_cons, not_or] at clean
      unfold dropUnderscores
      split
      · rename_i same
        cases same
      · rename_i same
        cases same
        exact absurd rfl clean.1
      · rename_i same
        cases same
        rw [ih _ clean.2]
        rfl

theorem plainNumeral_digits (chars : List Char) (first last : Char) (begins : chars.head? = some first)
    (ends : chars.getLast? = some last) (digit : isDigit first = true) (final : isDigit last = true) :
    plainNumeral (String.ofList chars) = chars.map plainDigit := by
  have kept (padding : Char → Bool) (front : padding first = false) (back : padding last = false) :
      ((chars.dropWhile padding).reverse.dropWhile padding).reverse = chars := by
    obtain ⟨rest, rfl⟩ := List.head?_eq_some_iff.mp begins
    rw [List.dropWhile_cons_of_neg (by simp [front])]
    rw [← List.head?_reverse] at ends
    obtain ⟨others, same⟩ := List.head?_eq_some_iff.mp ends
    rw [same, List.dropWhile_cons_of_neg (by simp [back]), ← same, List.reverse_reverse]
  unfold plainNumeral
  dsimp only
  rw [String.toList_ofList]
  by_cases ascii : (chars.all fun c => c.toNat < 0x80) = true
  · rw [if_pos ascii, kept isPlainBlank (digit_not_plainBlank digit) (digit_not_plainBlank final)]
  · rw [if_neg ascii, kept isBlank (digit_not_blank digit) (digit_not_blank final)]

def Digits (chars : List Char) : Prop := chars ≠ [] ∧ ∀ c ∈ chars, isDigit c = true

inductive Fractional : List Char → Prop where
  | none : Fractional []
  | point (digits : List Char) (proper : Digits digits) : Fractional ('.' :: digits)

inductive Powered : List Char → Prop where
  | none : Powered []
  | plain (mark : Char) (digits : List Char) (power : mark = 'e' ∨ mark = 'E') (proper : Digits digits) :
      Powered (mark :: digits)
  | signed (mark sign : Char) (digits : List Char) (power : mark = 'e' ∨ mark = 'E')
      (signs : sign = '+' ∨ sign = '-') (proper : Digits digits) : Powered (mark :: sign :: digits)

def AllDecimal (chars : List Char) : Prop := ∀ c ∈ chars, isDigit c = true → isDecimal c = true

theorem allDecimal_append (front back : List Char) :
    AllDecimal (front ++ back) ↔ AllDecimal front ∧ AllDecimal back := List.forall_mem_append

theorem digits_plain_iff {digits : List Char} (proper : Digits digits) :
    (digits.map plainDigit).all Char.isDigit = true ↔ AllDecimal digits := by
  simp only [List.all_map, List.all_eq_true, Function.comp, plainDigit_isDigit]
  constructor
  · intro all c member _
    exact all c member
  · intro all c member
    exact all c member (proper.2 c member)

theorem dropWhile_stuck {digits : List Char} (proper : ∀ c ∈ digits, isDigit c = true)
    (other : ¬ AllDecimal digits) (tail : List Char) :
    ∃ c rest, isDigit c = true ∧ (digits.map plainDigit ++ tail).dropWhile Char.isDigit = c :: rest := by
  induction digits with
  | nil => exact absurd (fun c member => by cases member) other
  | cons c rest ih =>
      obtain ⟨digit, others⟩ := List.forall_mem_cons.mp proper
      by_cases decimal : isDecimal c = true
      · have later : ¬ AllDecimal rest := by
          intro all
          refine other (List.forall_mem_cons.mpr ⟨fun _ => decimal, all⟩)
        obtain ⟨stop, left, also, same⟩ := ih others later
        refine ⟨stop, left, also, ?_⟩
        rw [List.map_cons, List.cons_append, List.dropWhile_cons_of_pos (plainDigit_decimal decimal), same]
      · refine ⟨c, rest.map plainDigit ++ tail, digit, ?_⟩
        have plain : isDecimal c = false := by simpa using decimal
        rw [List.map_cons, List.cons_append, List.dropWhile_cons_of_neg, plainDigit_other plain]
        rw [plainDigit_isDigit, plain]
        decide

theorem digit_apart {c : Char} (digit : isDigit c = true) (mark : Char) (other : isDigit mark = false) :
    c ≠ mark := by
  rintro rfl
  rw [digit] at other
  cases other

theorem splitSign_digit {c : Char} (digit : isDigit c = true) (rest : List Char) :
    splitSign (c :: rest) = (false, c :: rest) := by
  unfold splitSign
  split
  · rename_i same
    cases same
    exact absurd rfl (digit_apart digit '-' (by decide))
  · rename_i same
    cases same
    exact absurd rfl (digit_apart digit '+' (by decide))
  · rfl

theorem splitSign_digits {digits : List Char} (proper : Digits digits) (tail : List Char) :
    splitSign (digits.map plainDigit ++ tail) = (false, digits.map plainDigit ++ tail) := by
  obtain ⟨c, rest, rfl⟩ := List.exists_cons_of_ne_nil proper.1
  exact splitSign_digit (plainDigit_digit (proper.2 c List.mem_cons_self)) _

theorem readWholeExponent_isSome_iff {digits chars : List Char} {negative : Bool} (proper : Digits digits)
    (split : splitSign chars = (negative, digits.map plainDigit)) :
    (readWholeExponent chars).isSome = true ↔ AllDecimal digits := by
  have some : (digits.map plainDigit).isEmpty = false := by simp [proper.1]
  rw [← digits_plain_iff proper, readWholeExponent, split]
  dsimp only
  cases (digits.map plainDigit).all Char.isDigit with
  | false => simp
  | true => cases negative <;> simp [some]

theorem allDecimal_cons {c : Char} (other : isDigit c = false) (rest : List Char) :
    AllDecimal (c :: rest) ↔ AllDecimal rest := by
  unfold AllDecimal
  simp [other]

theorem power_mark {mark : Char} (power : mark = 'e' ∨ mark = 'E') :
    plainDigit mark = mark ∧ isDigit mark = false ∧ (mark = 'e' || mark = 'E') = true := by
  rcases power with rfl | rfl <;> decide

theorem readExponent_isSome_iff {power : List Char} (powered : Powered power) :
    (readExponent (power.map plainDigit)).isSome = true ↔ AllDecimal power := by
  cases powered with
  | none => simp [readExponent, AllDecimal]
  | plain mark digits marks proper =>
      obtain ⟨kept, other, found⟩ := power_mark marks
      have split := splitSign_digits proper []
      rw [List.append_nil] at split
      rw [List.map_cons, kept, readExponent, if_pos found, allDecimal_cons other]
      exact readWholeExponent_isSome_iff proper split
  | signed mark sign digits marks signs proper =>
      obtain ⟨kept, other, found⟩ := power_mark marks
      rw [List.map_cons, kept, readExponent, if_pos found, allDecimal_cons other]
      rcases signs with rfl | rfl
      · rw [allDecimal_cons (by decide)]
        exact readWholeExponent_isSome_iff proper rfl
      · rw [allDecimal_cons (by decide)]
        exact readWholeExponent_isSome_iff proper rfl

theorem readExponent_digit {c : Char} (digit : isDigit c = true) (rest : List Char) :
    readExponent (c :: rest) = none := by
  have small := digit_apart digit 'e' (by decide)
  have large := digit_apart digit 'E' (by decide)
  simp [readExponent, small, large]

theorem readDecimal_point {chars fraction : List Char} (point : chars.dropWhile Char.isDigit = '.' :: fraction) :
    (readDecimal chars).isSome =
      (!((chars.takeWhile Char.isDigit).isEmpty && (fraction.takeWhile Char.isDigit).isEmpty) &&
        (readExponent (fraction.dropWhile Char.isDigit)).isSome) := by
  have opened : readDecimal chars =
      if (chars.takeWhile Char.isDigit).isEmpty && (fraction.takeWhile Char.isDigit).isEmpty then none
      else (readExponent (fraction.dropWhile Char.isDigit)).map fun exponent =>
        ⟨digitsValue (chars.takeWhile Char.isDigit ++ fraction.takeWhile Char.isDigit),
          exponent - (fraction.takeWhile Char.isDigit).length⟩ := by
    unfold readDecimal
    rw [point]
    rfl
  rw [opened]
  cases (chars.takeWhile Char.isDigit).isEmpty && (fraction.takeWhile Char.isDigit).isEmpty with
  | true => rfl
  | false => simp

theorem readDecimal_pointless {chars : List Char} (pointless : ∀ rest, chars.dropWhile Char.isDigit ≠ '.' :: rest) :
    (readDecimal chars).isSome =
      (!(chars.takeWhile Char.isDigit).isEmpty && (readExponent (chars.dropWhile Char.isDigit)).isSome) := by
  unfold readDecimal
  dsimp only
  split
  · rename_i rest same
    exact absurd same (pointless rest)
  · cases (chars.takeWhile Char.isDigit).isEmpty with
    | true => rfl
    | false => simp

theorem digit_pointless {c : Char} (digit : isDigit c = true) (rest others : List Char) :
    c :: rest ≠ '.' :: others := by
  intro same
  cases same
  exact absurd rfl (digit_apart digit '.' (by decide))

theorem span_digits {digits tail : List Char} (plain : digits.all Char.isDigit = true)
    (stops : ∀ c, tail.head? = some c → c.isDigit = false) :
    (digits ++ tail).takeWhile Char.isDigit = digits ∧ (digits ++ tail).dropWhile Char.isDigit = tail := by
  rw [List.takeWhile_append_of_pos (List.all_eq_true.mp plain),
    List.dropWhile_append_of_pos (List.all_eq_true.mp plain)]
  cases tail with
  | nil => simp
  | cons c rest =>
      have stop := stops c rfl
      rw [List.takeWhile_cons_of_neg (by simp [stop]), List.dropWhile_cons_of_neg (by simp [stop]), List.append_nil]
      exact ⟨rfl, rfl⟩

theorem power_head {power : List Char} (powered : Powered power) (c : Char)
    (begins : (power.map plainDigit).head? = some c) : c = 'e' ∨ c = 'E' := by
  cases powered with
  | none => cases begins
  | plain mark digits marks =>
      cases begins
      rw [(power_mark marks).1]
      exact marks
  | signed mark sign digits marks =>
      cases begins
      rw [(power_mark marks).1]
      exact marks

theorem readDecimal_isSome_iff {whole fraction power : List Char} (proper : Digits whole)
    (fractional : Fractional fraction) (powered : Powered power) :
    (readDecimal ((whole ++ fraction ++ power).map plainDigit)).isSome = true ↔
      AllDecimal (whole ++ fraction ++ power) := by
  have notDigit : ∀ c, (power.map plainDigit).head? = some c → c.isDigit = false := by
    intro c begins
    rcases power_head powered c begins with rfl | rfl <;> decide
  have full : (whole.map plainDigit).isEmpty = false := by simp [proper.1]
  rw [allDecimal_append, allDecimal_append, ← readExponent_isSome_iff powered, List.map_append, List.map_append,
    List.append_assoc]
  by_cases decimal : AllDecimal whole
  · have plain := (digits_plain_iff proper).mpr decimal
    cases fractional with
    | none =>
        obtain ⟨taken, left⟩ := span_digits plain notDigit
        have pointless : ∀ rest, (whole.map plainDigit ++ power.map plainDigit).dropWhile Char.isDigit ≠
            '.' :: rest := by
          rw [left]
          intro rest same
          rcases power_head powered '.' (by rw [same]; rfl) with mark | mark <;> cases mark
        have bare : AllDecimal [] := fun c member => by cases member
        rw [List.map_nil, List.nil_append, readDecimal_pointless pointless, taken, left]
        simp [full, decimal, bare]
    | point digits own =>
        have dot : plainDigit '.' = '.' := by decide
        have stops : ∀ c, ('.' :: (digits.map plainDigit ++ power.map plainDigit)).head? = some c →
            c.isDigit = false := by
          intro c begins
          cases begins
          decide
        obtain ⟨taken, left⟩ := span_digits plain stops
        rw [List.map_cons, dot, List.cons_append, allDecimal_cons (by decide), readDecimal_point left, taken, full]
        by_cases further : AllDecimal digits
        · obtain ⟨_, last⟩ := span_digits ((digits_plain_iff own).mpr further) notDigit
          rw [last]
          simp [decimal, further]
        · obtain ⟨c, rest, digit, stuck⟩ := dropWhile_stuck own.2 further (power.map plainDigit)
          rw [stuck, readExponent_digit digit]
          simp [further]
  · obtain ⟨c, rest, digit, stuck⟩ :=
      dropWhile_stuck proper.2 decimal (fraction.map plainDigit ++ power.map plainDigit)
    rw [readDecimal_pointless (by rw [stuck]; exact digit_pointless digit rest), stuck, readExponent_digit digit]
    simp [decimal]

inductive Numeral : List Char → Prop where
  | mk (whole fraction power : List Char) (proper : Digits whole) (fractional : Fractional fraction)
      (powered : Powered power) : Numeral (whole ++ fraction ++ power)

namespace Numeral

variable {chars : List Char}

theorem begins (numeral : Numeral chars) : ∃ c rest, chars = c :: rest ∧ isDigit c = true := by
  obtain ⟨whole, fraction, power, proper, _, _⟩ := numeral
  obtain ⟨c, rest, rfl⟩ := List.exists_cons_of_ne_nil proper.1
  exact ⟨c, rest ++ fraction ++ power, rfl, proper.2 c List.mem_cons_self⟩

theorem digits_last {digits : List Char} (proper : Digits digits) (front : List Char) :
    ∃ c, (front ++ digits).getLast? = some c ∧ isDigit c = true := by
  refine ⟨digits.getLast proper.1, ?_, proper.2 _ (List.getLast_mem proper.1)⟩
  rw [List.getLast?_append, List.getLast?_eq_some_getLast proper.1]
  rfl

theorem ends (numeral : Numeral chars) : ∃ c, chars.getLast? = some c ∧ isDigit c = true := by
  obtain ⟨whole, fraction, power, proper, fractional, powered⟩ := numeral
  cases powered with
  | none =>
      rw [List.append_nil]
      cases fractional with
      | none =>
          rw [List.append_nil]
          exact digits_last proper []
      | point digits own =>
          rw [← List.singleton_append, ← List.append_assoc]
          exact digits_last own _
  | plain mark digits _ own =>
      rw [← List.singleton_append, ← List.append_assoc]
      exact digits_last own _
  | signed mark sign digits _ _ own =>
      rw [show mark :: sign :: digits = [mark, sign] ++ digits from rfl, ← List.append_assoc]
      exact digits_last own _

theorem clean (numeral : Numeral chars) : '_' ∉ chars.map plainDigit := by
  have digits {some : List Char} (all : ∀ c ∈ some, isDigit c = true) : '_' ∉ some.map plainDigit := by
    intro member
    obtain ⟨c, among, same⟩ := List.mem_map.mp member
    exact digit_apart (plainDigit_digit (all c among)) '_' (by decide) same
  have mark {c : Char} {rest : List Char} (other : '_' ≠ plainDigit c) (clean : '_' ∉ rest.map plainDigit) :
      '_' ∉ (c :: rest).map plainDigit := by
    rw [List.map_cons, List.mem_cons, not_or]
    exact ⟨other, clean⟩
  have exponent {c : Char} (power : c = 'e' ∨ c = 'E') : '_' ≠ plainDigit c := by
    rcases power with rfl | rfl <;> decide
  obtain ⟨whole, fraction, power, proper, fractional, powered⟩ := numeral
  simp only [List.map_append, List.mem_append, not_or]
  refine ⟨⟨digits proper.2, ?_⟩, ?_⟩
  · cases fractional with
    | none => simp
    | point _ own => exact mark (by decide) (digits own.2)
  · cases powered with
    | none => simp
    | plain _ _ power own => exact mark (exponent power) (digits own.2)
    | signed _ sign _ power signs own =>
        refine mark (exponent power) (mark ?_ (digits own.2))
        rcases signs with rfl | rfl <;> decide

theorem not_word {c : Char} (digit : isDigit c = true) (rest : List Char) (first : Char) (word : String)
    (begins : word.toList.head? = some first) (other : isDigit first = false) :
    String.ofList ((c :: rest).map Char.toLower) ≠ word := by
  rintro rfl
  rw [String.toList_ofList, List.map_cons, digit_toLower digit] at begins
  exact digit_apart digit first other (Option.some.inj begins)

theorem read_eq (numeral : Numeral chars) :
    read? (String.ofList chars) = (readDecimal (chars.map plainDigit)).map fun d => d.toFloat false := by
  obtain ⟨first, rest, begins, digit⟩ := numeral.begins
  obtain ⟨last, ended, final⟩ := numeral.ends
  have plain : isDigit (plainDigit first) = true := plainDigit_digit digit
  have unsigned : splitSign (chars.map plainDigit) = (false, chars.map plainDigit) := by
    rw [begins, List.map_cons]
    exact splitSign_digit plain _
  have magnitude : readMagnitude false (chars.map plainDigit) =
      (readDecimal (chars.map plainDigit)).map fun d => d.toFloat false := by
    rw [begins, List.map_cons]
    have finite := not_word plain (rest.map plainDigit)
    have words : ¬ ((String.ofList ((plainDigit first :: rest.map plainDigit).map Char.toLower) = "inf" ||
        String.ofList ((plainDigit first :: rest.map plainDigit).map Char.toLower) = "infinity") = true) := by
      rw [Bool.or_eq_true, decide_eq_true_eq, decide_eq_true_eq, not_or]
      exact ⟨finite 'i' "inf" (by decide) (by decide), finite 'i' "infinity" (by decide) (by decide)⟩
    unfold readMagnitude
    dsimp only
    rw [if_neg words, if_neg (finite 'n' "nan" (by decide) (by decide))]
  unfold read?
  rw [plainNumeral_digits chars first last (by rw [begins]; rfl) ended digit final,
    dropUnderscores_clean _ false numeral.clean, Option.bind_some, unsigned]
  exact magnitude

theorem read_isSome_iff (numeral : Numeral chars) :
    (read? (String.ofList chars)).isSome = true ↔ AllDecimal chars := by
  rw [numeral.read_eq, Option.isSome_map]
  obtain ⟨whole, fraction, power, proper, fractional, powered⟩ := numeral
  exact readDecimal_isSome_iff proper fractional powered

end Numeral

end Number

namespace Token

open Number (Numeral Digits Fractional Powered AllDecimal)

def isKept (c : Char) : Bool := c != '_' && c != ','

theorem kept_digit {c : Char} (digit : Text.isDigit c = true) : isKept c = true := by
  have under := Number.digit_apart digit '_' (by decide)
  have comma := Number.digit_apart digit ',' (by decide)
  simp [isKept, under, comma]

theorem kept_digits {chars : List Char} (digits : ∀ c ∈ chars, Text.isDigit c = true) :
    chars.filter isKept = chars :=
  List.filter_eq_self.mpr fun c member => kept_digit (digits c member)

theorem digitRun_digits (grouping : Bool) (chars : List Char) :
    ∀ c ∈ (chars.take (digitRun grouping chars)).filter isKept, Text.isDigit c = true := by
  induction chars with
  | nil => simp
  | cons c rest ih =>
      have mark (other : isKept c = false) :
          ∀ d ∈ ((c :: rest).take (digitRun grouping rest + 1)).filter isKept, Text.isDigit d = true := by
        rw [List.take_succ_cons, List.filter_cons_of_neg (by simp [other])]
        exact ih
      unfold digitRun
      by_cases digit : Text.isDigit c = true
      · rw [if_pos digit, List.take_succ_cons, List.filter_cons_of_pos (kept_digit digit)]
        exact List.forall_mem_cons.mpr ⟨digit, ih⟩
      · rw [if_neg digit]
        split
        · rename_i under
          simp only [Bool.and_eq_true, decide_eq_true_eq] at under
          exact mark (by rw [under.1]; rfl)
        · split
          · rename_i comma
            simp only [Bool.and_eq_true, decide_eq_true_eq] at comma
            exact mark (by rw [comma.1.1.1.1.1]; rfl)
          · simp

theorem digitRun_proper (grouping : Bool) (chars : List Char) (digit : digitAt chars 0 = true) :
    Digits ((chars.take (digitRun grouping chars)).filter isKept) := by
  refine ⟨?_, digitRun_digits grouping chars⟩
  cases chars with
  | nil => cases digit
  | cons c rest =>
      have first : Text.isDigit c = true := digit
      rw [digitRun, if_pos first, List.take_succ_cons, List.filter_cons_of_pos (kept_digit first)]
      exact List.cons_ne_nil _ _

theorem fractionLength_fractional (grouping : Bool) (chars : List Char) :
    Fractional ((chars.take (fractionLength grouping chars)).filter isKept) := by
  unfold fractionLength
  split
  · rename_i rest
    by_cases digit : digitAt rest 0 = true
    · rw [if_pos digit, List.take_succ_cons, List.filter_cons_of_pos (by decide)]
      exact .point _ (digitRun_proper grouping rest digit)
    · rw [if_neg digit]
      exact .none
  · exact .none

theorem digits_proper {chars : List Char} (digit : digitAt chars 0 = true) : Digits (chars.takeWhile Text.isDigit) := by
  refine ⟨?_, List.all_eq_true.mp List.all_takeWhile⟩
  cases chars with
  | nil => cases digit
  | cons c rest =>
      have first : Text.isDigit c = true := digit
      rw [List.takeWhile_cons_of_pos first]
      exact List.cons_ne_nil _ _

theorem take_digits (chars : List Char) :
    chars.take (chars.takeWhile Text.isDigit).length = chars.takeWhile Text.isDigit :=
  (List.prefix_iff_eq_take.mp (List.takeWhile_prefix _)).symm

theorem exponentLength_powered (chars : List Char) :
    Powered ((chars.take (exponentLength chars)).filter isKept) := by
  cases chars with
  | nil => exact .none
  | cons mark rest =>
      have marked (exponent : isExponentMark mark = true) :
          (mark = 'e' ∨ mark = 'E') ∧ isKept mark = true := by
        simp only [isExponentMark, Bool.or_eq_true, decide_eq_true_eq] at exponent
        refine ⟨exponent, ?_⟩
        rcases exponent with rfl | rfl <;> decide
      rw [exponentLength]
      split
      · rename_i unsigned
        obtain ⟨exponent, digit⟩ := Bool.and_eq_true_iff.mp unsigned
        obtain ⟨power, kept⟩ := marked exponent
        have proper := digits_proper digit
        rw [List.take_succ_cons, List.filter_cons_of_pos kept, take_digits, kept_digits proper.2]
        exact .plain mark _ power proper
      · split
        · rename_i signed
          simp only [Bool.and_eq_true] at signed
          obtain ⟨⟨exponent, signs⟩, digit⟩ := signed
          obtain ⟨power, kept⟩ := marked exponent
          cases rest with
          | nil => cases signs
          | cons sign rest =>
              have one : sign = '+' ∨ sign = '-' := by simpa [isSign] using signs
              have also : isKept sign = true := by rcases one with rfl | rfl <;> decide
              have proper : Digits (rest.takeWhile Text.isDigit) := digits_proper digit
              rw [List.drop_succ_cons, List.drop_zero, List.take_succ_cons, List.filter_cons_of_pos kept,
                List.take_succ_cons, List.filter_cons_of_pos also, take_digits, kept_digits proper.2]
              exact .signed mark sign _ power one proper
        · exact .none

theorem literal_numeral (grouping : Bool) (chars : List Char) (digit : digitAt chars 0 = true) :
    Numeral ((chars.take (numberLength grouping chars)).filter isKept) := by
  unfold numberLength
  dsimp only
  rw [List.take_add, List.take_add, List.filter_append, List.filter_append]
  exact .mk _ _ _ (digitRun_proper grouping chars digit) (fractionLength_fractional grouping _)
    (exponentLength_powered _)

theorem allDecimal_kept (chars : List Char) : AllDecimal (chars.filter isKept) ↔ AllDecimal chars := by
  constructor
  · intro all c member digit
    exact all c (List.mem_filter.mpr ⟨member, kept_digit digit⟩) digit
  · intro all c member digit
    exact all c (List.mem_filter.mp member).1 digit

theorem read_literal_iff (grouping : Bool) (chars : List Char) (digit : digitAt chars 0 = true) :
    (Number.read? (numberText (chars.take (numberLength grouping chars)))).isSome = true ↔
      AllDecimal (chars.take (numberLength grouping chars)) :=
  (literal_numeral grouping chars digit).read_isSome_iff.trans (allDecimal_kept _)

theorem read_literal_none_iff (grouping : Bool) (chars : List Char) (digit : digitAt chars 0 = true) :
    Number.read? (numberText (chars.take (numberLength grouping chars))) = none ↔
      ∃ c ∈ chars.take (numberLength grouping chars), Text.isDigit c = true ∧ Text.isDecimal c = false := by
  rw [← Option.isNone_iff_eq_none, ← Option.not_isSome, Bool.not_eq_true', ← Bool.not_eq_true,
    read_literal_iff grouping chars digit]
  unfold AllDecimal
  simp

end Token

end Fiscal
