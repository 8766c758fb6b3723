import Fiscal.Proofs.Token.Literal

set_option autoImplicit false

namespace Fiscal.Token

inductive SameLine : List Char → List Char → Prop where
  | nothing : SameLine [] []
  | cons (c : Char) {first second : List Char} (later : SameLine first second) : SameLine (c :: first) (c :: second)
  | ended (mark : Char) (ends : mark = '\n' ∨ mark = '\r') (first second : List Char) :
      SameLine ('\n' :: first) (mark :: second)

namespace SameLine

variable {first second : List Char} {count : Nat}

theorem refl (chars : List Char) : SameLine chars chars := by
  induction chars with
  | nil => exact .nothing
  | cons c rest ih => exact .cons c ih

theorem append {chars : List Char} (feed : '\n' ∈ chars) (more : List Char) : SameLine chars (chars ++ more) := by
  induction chars with
  | nil => cases feed
  | cons c rest ih =>
      rcases List.mem_cons.mp feed with rfl | later
      · exact .ended '\n' (.inl rfl) rest (rest ++ more)
      · exact .cons c (ih later)

theorem take (same : SameLine first second) (line : OneLine count first) : second.take count = first.take count := by
  induction same generalizing count with
  | nothing => rfl
  | cons c later ih =>
      cases count with
      | zero => rfl
      | succ count =>
          have behind : OneLine count _ := fun feed => line (List.mem_cons_of_mem c feed)
          rw [List.take_succ_cons, List.take_succ_cons, ih behind]
  | ended =>
      cases count with
      | zero => rfl
      | succ count => exact absurd List.mem_cons_self line

theorem drop (same : SameLine first second) (line : OneLine count first) :
    SameLine (first.drop count) (second.drop count) := by
  induction same generalizing count with
  | nothing =>
      rw [List.drop_nil]
      exact .nothing
  | cons c later ih =>
      cases count with
      | zero => exact .cons c later
      | succ count => exact ih fun feed => line (List.mem_cons_of_mem c feed)
  | ended mark ends =>
      cases count with
      | zero => exact .ended mark ends _ _
      | succ count => exact absurd List.mem_cons_self line

structure Refuses (accepts : Char → Bool) : Prop where
  feed : accepts '\n' = false
  back : accepts '\r' = false

theorem Refuses.mark {accepts : Char → Bool} (refuses : Refuses accepts) {mark : Char}
    (ends : mark = '\n' ∨ mark = '\r') : accepts mark = false := by
  rcases ends with rfl | rfl
  · exact refuses.feed
  · exact refuses.back

theorem digits_refuse : Refuses Text.isDigit := ⟨by decide, by decide⟩

theorem blanks_refuse : Refuses isInlineBlank := ⟨by decide, by decide⟩

theorem signs_refuse : Refuses isSign := ⟨by decide, by decide⟩

theorem letters_refuse : Refuses Text.isLetter := ⟨by decide, by decide⟩

theorem words_refuse : Refuses isWordChar := ⟨by decide, by decide⟩

theorem asciiWords_refuse : Refuses isAsciiWord := ⟨by decide, by decide⟩

section Characters

variable {accepts : Char → Bool} (refuses : Refuses accepts)

include refuses

theorem head (same : SameLine first second) : second.head?.any accepts = first.head?.any accepts := by
  cases same with
  | nothing => rfl
  | cons => rfl
  | ended mark ends => simp [refuses.feed, refuses.mark ends]

theorem getElem (same : SameLine first second) (line : OneLine count first) :
    second[count]?.any accepts = first[count]?.any accepts := by
  rw [← List.head?_drop, ← List.head?_drop]
  exact (same.drop line).head refuses

theorem takeWhile (same : SameLine first second) : second.takeWhile accepts = first.takeWhile accepts := by
  induction same with
  | nothing => rfl
  | cons c later ih => rw [List.takeWhile_cons, List.takeWhile_cons, ih]
  | ended mark ends =>
      rw [List.takeWhile_cons_of_neg (by simp [refuses.mark ends]), List.takeWhile_cons_of_neg (by simp [refuses.feed])]

end Characters

theorem digitAt_line (same : SameLine first second) (line : OneLine count first) :
    digitAt second count = digitAt first count := same.getElem digits_refuse line

theorem digitAt_digits (same : SameLine first second) (digits : ∀ earlier < count, digitAt first earlier = true) :
    digitAt second count = digitAt first count := by
  refine same.digitAt_line fun feed => ?_
  obtain ⟨index, bound, place⟩ := List.mem_iff_getElem.mp feed
  rw [List.length_take] at bound
  rw [List.getElem_take] at place
  have digit := digits index (by omega)
  rw [digitAt, List.getElem?_eq_getElem (by omega), place] at digit
  revert digit
  decide

theorem digitAt_head (same : SameLine first second) : digitAt second 0 = digitAt first 0 :=
  same.digitAt_digits (by simp)

theorem group (same : SameLine first second) :
    (digitAt second 0 && digitAt second 1 && digitAt second 2 && !digitAt second 3) =
      (digitAt first 0 && digitAt first 1 && digitAt first 2 && !digitAt first 3) := by
  have equal (count : Nat) := @digitAt_digits first second count same
  rw [same.digitAt_head]
  cases one : digitAt first 0 with
  | false => rfl
  | true =>
      rw [equal 1 (by simp [one])]
      cases two : digitAt first 1 with
      | false => rfl
      | true =>
          rw [equal 2 (by rintro (_ | _ | _) small <;> first | assumption | omega)]
          cases three : digitAt first 2 with
          | false => rfl
          | true => rw [equal 3 (by rintro (_ | _ | _ | _) small <;> first | assumption | omega)]

theorem digitRun (same : SameLine first second) (grouping : Bool) :
    digitRun grouping second = digitRun grouping first := by
  induction same with
  | nothing => rfl
  | cons c later ih =>
      have group (front : Bool) := congrArg (front && ·) later.group
      simp only [← Bool.and_assoc] at group
      rw [Token.digitRun, Token.digitRun, ih, group, later.digitAt_head]
  | ended mark ends => rcases ends with rfl | rfl <;> rfl

theorem fractionLength (same : SameLine first second) (grouping : Bool) :
    fractionLength grouping second = fractionLength grouping first := by
  cases same with
  | nothing => rfl
  | cons c later =>
      unfold Token.fractionLength
      split
      · rename_i rest dot
        obtain ⟨rfl, rfl⟩ := List.cons.inj dot
        simp only [later.digitAt_head, later.digitRun]
      · rename_i other
        split
        · rename_i rest dot
          obtain ⟨rfl, -⟩ := List.cons.inj dot
          exact absurd rfl (other _)
        · rfl
  | ended mark ends => rcases ends with rfl | rfl <;> rfl

theorem exponentLength (same : SameLine first second) : exponentLength second = exponentLength first := by
  cases same with
  | nothing => rfl
  | cons mark later =>
      have digits := later.takeWhile digits_refuse
      have signed := later.head signs_refuse
      rw [Token.exponentLength, Token.exponentLength, later.digitAt_head, digits, signed]
      cases later with
      | nothing => rfl
      | @cons sign rest other behind =>
          have next : digitAt (sign :: other) 1 = digitAt (sign :: rest) 1 := behind.digitAt_head
          simp only [next, List.drop_succ_cons, List.drop_zero, behind.takeWhile digits_refuse]
      | ended => simp [show digitAt ('\n' :: _) 0 = false from rfl, show isSign '\n' = false from rfl]
  | ended mark ends => rcases ends with rfl | rfl <;> rfl

theorem numberLength (same : SameLine first second) (grouping : Bool) :
    numberLength grouping second = numberLength grouping first := by
  have whole := digitRun_oneLine grouping first
  have both := whole.append (fractionLength_oneLine grouping (first.drop (Token.digitRun grouping first)))
  unfold Token.numberLength
  dsimp only
  rw [same.digitRun, (same.drop whole).fractionLength, (same.drop both).exponentLength]

theorem broken (same : SameLine first second) (feed : '\n' ∈ first.take count) :
    ∃ mark ∈ second.take count, mark = '\n' ∨ mark = '\r' := by
  induction same generalizing count with
  | nothing =>
      rw [List.take_nil] at feed
      cases feed
  | cons c later ih =>
      cases count with
      | zero => cases feed
      | succ count =>
          rcases List.mem_cons.mp feed with rfl | behind
          · exact ⟨'\n', List.mem_cons_self, .inl rfl⟩
          · obtain ⟨mark, member, ends⟩ := ih behind
            exact ⟨mark, List.mem_cons_of_mem c member, ends⟩
  | ended mark ends =>
      cases count with
      | zero => cases feed
      | succ count => exact ⟨mark, List.mem_cons_self, ends⟩

theorem dateLength (same : SameLine first second) : dateLength? second = dateLength? first := by
  by_cases line : OneLine 10 first
  · have taken := same.take line
    have length := congrArg List.length taken
    have long : decide (10 ≤ second.length) = decide (10 ≤ first.length) := by
      rw [List.length_take, List.length_take] at length
      rw [decide_eq_decide]
      omega
    unfold dateLength?
    dsimp only
    rw [long, taken, same.getElem asciiWords_refuse line]
  · -- A line that ends too soon is no date.
    obtain ⟨mark, member, ends⟩ := same.broken (Classical.not_not.mp line)
    have undated (text : List Char) (mark : Char) (member : mark ∈ text.take 10) (ends : mark = '\n' ∨ mark = '\r') :
        dateLength? text = none := by
      refine Option.eq_none_iff_forall_ne_some.mpr fun count found => ?_
      rcases dateLength_dated found mark member with rfl | decimal
      · exact absurd ends (by decide)
      · rcases ends with rfl | rfl <;> exact absurd decimal (by decide)
    rw [undated second mark member ends, undated first '\n' (Classical.not_not.mp line) (.inl rfl)]

theorem currencySuffix (same : SameLine first second) (currencies : List String) :
    currencySuffix? currencies second = currencySuffix? currencies first := by
  have blanks := OneLine.takeWhile isInlineBlank first (by decide)
  have behind := same.drop blanks
  have letters := OneLine.takeWhile Text.isLetter (first.drop (first.takeWhile isInlineBlank).length) (by decide)
  have numerals : Refuses fun c => Text.isDigit c || c = '_' := ⟨by decide, by decide⟩
  unfold currencySuffix?
  dsimp only
  rw [same.takeWhile blanks_refuse, behind.takeWhile letters_refuse, same.getElem numerals (blanks.append letters)]

theorem wordLength (same : SameLine first second) : wordLength second = wordLength first := by
  rw [Token.wordLength, Token.wordLength, same.takeWhile words_refuse]

section Strings

variable {quote : Char} (quotes : quote = '"' ∨ quote = '\'')

include quotes

theorem triple (same : SameLine first second) :
    second.take 3 = [quote, quote, quote] ↔ first.take 3 = [quote, quote, quote] := by
  by_cases line : OneLine 3 first
  · rw [same.take line]
  · obtain ⟨mark, member, ends⟩ := same.broken (Classical.not_not.mp line)
    refine iff_of_false (fun triple => ?_) fun triple => ?_
    · rw [triple] at member
      obtain rfl : mark = quote := by simpa using member
      rcases quotes with rfl | rfl <;> exact absurd ends (by decide)
    · refine line fun feed => ?_
      rw [triple] at feed
      obtain rfl : '\n' = quote := by simpa using feed
      exact absurd quotes (by decide)

theorem inline (same : SameLine first second) (closed : (StringBody.inline quote first).closed = true) :
    StringBody.inline quote second = StringBody.inline quote first := by
  have other : quote ≠ '\\' ∧ quote ≠ '\n' := by rcases quotes with rfl | rfl <;> decide
  fun_induction StringBody.inline quote first generalizing second with
  | case1 | case2 | case5 | case6 => cases closed
  | case3 c rest plain ih =>
      rw [StringBody.precedeEscape_closed] at closed
      rcases same with _ | ⟨_, later⟩ | _
      rcases later with _ | ⟨_, behind⟩ | _
      · rw [StringBody.inline, if_neg plain, ih behind closed]
      · exact absurd rfl plain
  | case4 rest =>
      rcases same with _ | ⟨_, later⟩ | _
      · rw [StringBody.inline.eq_3 _ _ _ fun _ _ backslash => absurd backslash other.1, if_pos rfl]
      · exact absurd rfl other.2
  | case7 c rest _ unquoted plain ordinary ih =>
      rcases same with _ | ⟨_, later⟩ | _
      · rw [StringBody.inline.eq_3 _ _ _ fun _ _ backslash => absurd backslash ordinary, if_neg unquoted, if_neg plain,
          if_neg ordinary, ih later closed]
      · exact absurd rfl plain

end Strings

end SameLine

def Bounded (more chars : List Char) : Prop := more = [] ∨ chars.getLast? = some '\n'

namespace Bounded

variable {more chars rest : List Char} {c : Char} {count : Nat}

theorem nil (bounded : Bounded more []) : more = [] := by
  rcases bounded with none | ended
  · exact none
  · cases ended

theorem tail_of (bounded : Bounded more (c :: rest)) (onward : rest ≠ []) : Bounded more rest := by
  refine bounded.imp_right fun ended => ?_
  obtain ⟨next, others, rfl⟩ := List.exists_cons_of_ne_nil onward
  rwa [List.getLast?_cons_cons] at ended

theorem tail (bounded : Bounded more (c :: rest)) (inline : c ≠ '\n') : Bounded more rest := by
  cases rest with
  | nil =>
      refine bounded.imp_right fun ended => ?_
      exact absurd (by simpa using ended) inline
  | cons => exact bounded.tail_of (List.cons_ne_nil _ _)

theorem drop_within (bounded : Bounded more chars) (within : more = [] ∨ count < chars.length) :
    Bounded more (chars.drop count) := by
  rcases within with none | within
  · exact .inl none
  · refine bounded.imp_right fun ended => ?_
    rw [List.getLast?_drop, if_neg (by omega), ended]

theorem within (bounded : Bounded more chars) (line : OneLine count chars) :
    more = [] ∨ count < chars.length := by
  refine bounded.imp_right fun ended => ?_
  refine Nat.lt_of_not_le fun all => line ?_
  rw [List.take_of_length_le all]
  exact List.mem_of_getLast? ended

theorem take_append (fits : more = [] ∨ count ≤ chars.length) : (chars ++ more).take count = chars.take count := by
  rcases fits with rfl | within
  · rw [List.append_nil]
  · rw [List.take_append_of_le_length within]

theorem drop_append (fits : more = [] ∨ count ≤ chars.length) :
    (chars ++ more).drop count = chars.drop count ++ more := by
  rcases fits with rfl | within
  · simp
  · rw [List.drop_append_of_le_length within]

theorem fits (bounded : Bounded more chars) (line : OneLine count chars) : more = [] ∨ count ≤ chars.length :=
  (bounded.within line).imp_right Nat.le_of_lt

theorem drop (bounded : Bounded more chars) (line : OneLine count chars) : Bounded more (chars.drop count) :=
  bounded.drop_within (bounded.within line)

theorem head_append (bounded : Bounded more chars) : (chars ++ more).head? = chars.head? := by
  cases chars with
  | nil => rw [bounded.nil, List.append_nil]
  | cons => rfl

theorem sameLine (bounded : Bounded more chars) : SameLine chars (chars ++ more) := by
  rcases bounded with rfl | ended
  · rw [List.append_nil]
    exact .refl chars
  · exact .append (List.mem_of_getLast? ended) more

theorem indentWidth_append (tabWidth : Nat) (bounded : Bounded more chars) :
    indentWidth tabWidth (chars ++ more) = indentWidth tabWidth chars := by
  fun_induction indentWidth tabWidth chars with
  | case1 rest ih => rw [List.cons_append, indentWidth, ih (bounded.tail (by decide))]
  | case2 rest ih => rw [List.cons_append, indentWidth, ih (bounded.tail (by decide))]
  | case3 rest ih => rw [List.cons_append, indentWidth, ih (bounded.tail (by decide))]
  | case4 chars space tab feed =>
      cases chars with
      | nil => rw [bounded.nil]; rfl
      | cons c rest =>
          unfold indentWidth
          split <;> simp_all

end Bounded

namespace StringBody

variable {more chars : List Char} {quote : Char}

theorem lone_append {c : Char} {rest : List Char} (lone : ∀ next others, c = '\\' → rest = next :: others → False)
    (last : c = '\\' → rest = [] → more = []) (next : Char) (others : List Char) (backslash : c = '\\')
    (split : rest ++ more = next :: others) : False := by
  cases rest with
  | nil =>
      rw [last backslash rfl] at split
      cases split
  | cons => exact lone _ _ backslash rfl

theorem inline_append (bounded : Bounded more chars) : inline quote (chars ++ more) = inline quote chars := by
  fun_induction inline quote chars with
  | case1 => rw [bounded.nil]; rfl
  | case2 rest => rfl
  | case3 c rest plain ih =>
      rw [List.cons_append, List.cons_append, inline, if_neg plain, ih ((bounded.tail (by decide)).tail plain)]
  | case4 rest lone =>
      have last : quote = '\\' → rest = [] → more = [] := by
        rintro rfl rfl
        exact (bounded.tail (by decide)).nil
      rw [List.cons_append, inline.eq_3 _ _ _ (lone_append lone last), if_pos rfl]
  | case5 rest lone other =>
      have last : '\n' = '\\' → rest = [] → more = [] := by rintro ⟨⟩
      rw [List.cons_append, inline.eq_3 _ _ _ (lone_append lone last), if_neg other, if_pos rfl]
  | case6 rest lone other =>
      cases rest with
      | nil =>
          rw [(bounded.tail (by decide)).nil, List.append_nil, inline, if_neg other, if_neg (by decide), if_pos rfl]
          nofun
      | cons => exact (lone _ _ rfl rfl).elim
  | case7 c rest lone other plain ordinary ih =>
      have last : c = '\\' → rest = [] → more = [] := fun backslash => absurd backslash ordinary
      rw [List.cons_append, inline.eq_3 _ _ _ (lone_append lone last), if_neg other, if_neg plain,
        if_neg ordinary, ih (bounded.tail plain)]

theorem multiline_long (closed : (multiline quote chars).closed = true) : 3 ≤ chars.length := by
  fun_induction multiline quote chars with
  | case1 => cases closed
  | case2 rest ih =>
      have long := ih closed
      simp only [List.length_cons] at long ⊢
      omega
  | case3 c rest _ ih =>
      rw [precedeEscape_closed] at closed
      have long := ih closed
      simp only [List.length_cons]
      omega
  | case4 c rest _ quoted =>
      simp only [Bool.and_eq_true, decide_eq_true_eq] at quoted
      have two := congrArg List.length quoted.2
      simp only [List.length_take, List.length_cons, List.length_nil] at two ⊢
      omega
  | case5 rest _ _ ih | case6 c rest _ _ _ ih =>
      have long := ih closed
      simp only [List.length_cons]
      omega

theorem multiline_within (bounded : Bounded more chars) (other : quote ≠ '\n')
    (closed : (multiline quote chars).closed = true) :
    more = [] ∨ (multiline quote chars).length < chars.length := by
  fun_induction multiline quote chars with
  | case1 => cases closed
  | case2 rest ih =>
      refine (ih (bounded.tail (by decide)) closed).imp_right fun within => ?_
      simp only [withBadEscape, precede, List.length_cons] at within ⊢
      omega
  | case3 c rest plain ih =>
      rw [precedeEscape_closed] at closed
      refine (ih ((bounded.tail (by decide)).tail plain) closed).imp_right fun within => ?_
      rw [precedeEscape_length]
      simp only [List.length_cons]
      omega
  | case4 c rest _ quoted =>
      simp only [Bool.and_eq_true, decide_eq_true_eq] at quoted
      obtain ⟨rfl, two⟩ := quoted
      have line : OneLine 3 (c :: rest) := by
        unfold OneLine
        rw [List.take_succ_cons, two]
        simpa using Ne.symm other
      exact bounded.within line
  | case5 rest _ _ ih | case6 c rest _ _ _ ih =>
      have onward : rest ≠ [] := by
        rintro rfl
        cases closed
      refine (ih (bounded.tail_of onward) closed).imp_right fun within => ?_
      simp only [withBadEscape, precede, List.length_cons] at within ⊢
      omega

theorem multiline_append (closed : (multiline quote chars).closed = true) :
    multiline quote (chars ++ more) = multiline quote chars := by
  fun_induction multiline quote chars with
  | case1 => cases closed
  | case2 rest ih =>
      rw [List.cons_append, List.cons_append, multiline, if_pos rfl, ← List.cons_append, ih closed]
  | case3 c rest plain ih =>
      rw [precedeEscape_closed] at closed
      rw [List.cons_append, List.cons_append, multiline, if_neg plain, ih closed]
  | case4 c rest lone quoted =>
      simp only [Bool.and_eq_true, decide_eq_true_eq] at quoted
      obtain ⟨rfl, two⟩ := quoted
      have last : c = '\\' → rest = [] → more = [] := by
        rintro - rfl
        cases two
      have still : (rest ++ more).take 2 = [c, c] := by
        have long := congrArg List.length two
        simp only [List.length_take, List.length_cons, List.length_nil] at long
        rw [List.take_append_of_le_length (by omega), two]
      rw [List.cons_append, multiline.eq_3 _ _ _ (lone_append lone last), still]
      simp
  | case5 rest lone _ ih =>
      cases rest with
      | nil => cases closed
      | cons => exact (lone _ _ rfl rfl).elim
  | case6 c rest lone unquoted ordinary ih =>
      have last : c = '\\' → rest = [] → more = [] := fun backslash => absurd backslash ordinary
      have long := multiline_long (show (multiline quote rest).closed = true from closed)
      rw [List.cons_append, multiline.eq_3 _ _ _ (lone_append lone last),
        List.take_append_of_le_length (by omega), if_neg unquoted, if_neg ordinary, ih closed]

end StringBody

theorem Bounded.signs_append {more rest : List Char} (bounded : Bounded more rest)
    (fewer : ∀ others, rest = '#' :: '#' :: others → False) (others : List Char)
    (split : rest ++ more = '#' :: '#' :: others) : False := by
  match rest with
  | [] =>
      rw [bounded.nil] at split
      cases split
  | [c] =>
      obtain ⟨rfl, rest⟩ := List.cons.inj split
      have none := (bounded.tail (by decide)).nil
      subst none
      cases rest
  | c :: next :: rest =>
      cases split
      exact fewer _ rfl

theorem triviaFrom_append {more : List Char} (mode : TriviaMode) (length : Nat) (chars : List Char)
    (bounded : Bounded more chars) (closed : (triviaFrom mode length chars).openComment = none) :
    triviaFrom mode length (chars ++ more) = triviaFrom mode length chars ∧
      ∃ count, (triviaFrom mode length chars).length = length + count ∧ (more = [] ∨ count < chars.length) := by
  have further {start final : Nat} (passed : List Char) {rest : List Char}
      (found : ∃ count, final = start + passed.length + count ∧ (more = [] ∨ count < rest.length)) :
      ∃ count, final = start + count ∧ (more = [] ∨ count < (passed ++ rest).length) := by
    obtain ⟨count, total, within⟩ := found
    refine ⟨passed.length + count, by omega, within.imp_right fun below => ?_⟩
    rw [List.length_append]
    omega
  have stays {start : Nat} (c : Char) (rest : List Char) :
      ∃ count, start = start + count ∧ (more = [] ∨ count < (c :: rest).length) :=
    ⟨0, rfl, .inr (Nat.succ_pos _)⟩
  fun_induction triviaFrom mode length chars with
  | case1 length rest ih =>
      have later := ((bounded.tail (by decide)).tail (by decide)).tail (by decide)
      obtain ⟨same, found⟩ := ih later closed
      exact ⟨by simpa only [List.cons_append, triviaFrom] using same, further ['#', '#', '#'] found⟩
  | case2 length rest fewer ih =>
      have later := bounded.tail (by decide)
      obtain ⟨same, found⟩ := ih later closed
      refine ⟨?_, further ['#'] found⟩
      rw [List.cons_append, triviaFrom.eq_2 _ _ (later.signs_append fewer), same]
  | case3 length c rest _ other blank ih =>
      have inline : c ≠ '\n' := by
        rintro rfl
        revert blank
        decide
      obtain ⟨same, found⟩ := ih (bounded.tail inline) closed
      refine ⟨?_, further [c] found⟩
      rw [List.cons_append, triviaFrom.eq_3 _ _ _ (fun _ sign => (other sign).elim) other, if_pos blank, same]
  | case4 length c rest _ other code =>
      refine ⟨?_, stays c rest⟩
      rw [List.cons_append, triviaFrom.eq_3 _ _ _ (fun _ sign => (other sign).elim) other, if_neg code]
  | case5 | case8 =>
      rw [bounded.nil]
      exact ⟨rfl, 0, rfl, .inl rfl⟩
  | case6 length rest => exact ⟨by rw [List.cons_append, triviaFrom, if_pos rfl], stays _ rest⟩
  | case7 length c rest inline ih =>
      obtain ⟨same, found⟩ := ih (bounded.tail inline) closed
      exact ⟨by rw [List.cons_append, triviaFrom, if_neg inline, same], further [c] found⟩
  | case9 _ length rest ih =>
      have later := ((bounded.tail (by decide)).tail (by decide)).tail (by decide)
      obtain ⟨same, found⟩ := ih later closed
      exact ⟨by simpa only [List.cons_append, triviaFrom] using same, further ['#', '#', '#'] found⟩
  | case10 first length c rest fewer ih =>
      -- The comment is closed later, so that this is not the last character.
      have onward : rest ≠ [] := by
        rintro rfl
        cases closed
      have later := bounded.tail_of onward
      obtain ⟨same, found⟩ := ih later closed
      refine ⟨?_, further [c] found⟩
      have still (others : List Char) (sign : c = '#') (split : rest ++ more = '#' :: '#' :: others) : False :=
        later.signs_append (fun others => fewer others sign) others split
      rw [List.cons_append, triviaFrom.eq_8 _ _ _ _ still, same]
  | case11 first length => cases closed

theorem trivia_append {more chars : List Char} (bounded : Bounded more chars)
    (closed : (trivia chars).openComment = none) :
    trivia (chars ++ more) = trivia chars ∧ (more = [] ∨ (trivia chars).length < chars.length) := by
  obtain ⟨same, count, length, within⟩ := triviaFrom_append .between 0 chars bounded closed
  refine ⟨same, ?_⟩
  rw [trivia, length, Nat.zero_add]
  exact within

end Fiscal.Token
