import Fiscal.Token.Literal

set_option autoImplicit false

namespace Fiscal.Token

theorem letter_alphanumeric (c : Char) (letter : Text.isLetter c = true) :
    Text.isAlphanumeric c = true := by
  unfold Text.isLetter at letter
  unfold Text.isAlphanumeric Text.isLetter
  by_cases ascii : c.toNat < 0x80
  · rw [if_pos ascii] at letter ⊢
    simp [Char.isAlphanum, letter]
  · rw [if_neg ascii] at letter ⊢
    simp [ascii, letter]

def OneLine (count : Nat) (chars : List Char) : Prop := '\n' ∉ chars.take count

namespace OneLine

theorem zero (chars : List Char) : OneLine 0 chars := by
  simp [OneLine]

theorem cons {count : Nat} {c : Char} {rest : List Char} (other : c ≠ '\n')
    (later : OneLine count rest) : OneLine (count + 1) (c :: rest) := by
  unfold OneLine at later ⊢
  simp only [List.take_succ_cons, List.mem_cons, not_or]
  exact ⟨Ne.symm other, later⟩

theorem append {first second : Nat} {chars : List Char} (before : OneLine first chars)
    (after : OneLine second (chars.drop first)) : OneLine (first + second) chars := by
  unfold OneLine at before after ⊢
  rw [List.take_add, List.mem_append, not_or]
  exact ⟨before, after⟩

theorem takeWhile (accepts : Char → Bool) (chars : List Char) (refuses : accepts '\n' = false) :
    OneLine (chars.takeWhile accepts).length chars := by
  induction chars with
  | nil => exact zero _
  | cons c rest ih =>
      by_cases accepted : accepts c = true
      · rw [List.takeWhile_cons, if_pos accepted]
        refine cons ?_ ih
        rintro rfl
        rw [refuses] at accepted
        cases accepted
      · rw [List.takeWhile_cons, if_neg accepted]
        exact zero _

end OneLine

theorem digit_not_feed (c : Char) (digit : Text.isDigit c = true) : c ≠ '\n' := by
  rintro rfl
  revert digit
  decide

theorem digitRun_oneLine (grouping : Bool) (chars : List Char) :
    OneLine (digitRun grouping chars) chars := by
  induction chars with
  | nil => exact .zero _
  | cons c rest ih =>
      unfold digitRun
      by_cases digit : Text.isDigit c = true
      · rw [if_pos digit]
        exact .cons (digit_not_feed c digit) ih
      · rw [if_neg digit]
        split
        · rename_i underscore
          refine .cons ?_ ih
          rintro rfl
          simp at underscore
        · split
          · rename_i comma
            refine .cons ?_ ih
            rintro rfl
            simp at comma
          · exact .zero _

theorem digitRun_positive (grouping : Bool) (c : Char) (rest : List Char)
    (digit : Text.isDigit c = true) : 0 < digitRun grouping (c :: rest) := by
  rw [digitRun, if_pos digit]
  exact Nat.succ_pos _

theorem fractionLength_oneLine (grouping : Bool) (chars : List Char) :
    OneLine (fractionLength grouping chars) chars := by
  unfold fractionLength
  split
  · rename_i rest
    split
    · exact .cons (by decide) (digitRun_oneLine grouping rest)
    · exact .zero _
  · exact .zero _

theorem exponentLength_oneLine (chars : List Char) : OneLine (exponentLength chars) chars := by
  cases chars with
  | nil => exact .zero _
  | cons mark rest =>
      have digits := OneLine.takeWhile Text.isDigit
      have feed : Text.isDigit '\n' = false := by decide
      have marked : isExponentMark mark = true → mark ≠ '\n' := by
        rintro exponent rfl
        revert exponent
        decide
      rw [exponentLength]
      split
      · rename_i unsigned
        exact .cons (marked (Bool.and_eq_true_iff.mp unsigned).1) (digits rest feed)
      · split
        · rename_i signed
          simp only [Bool.and_eq_true] at signed
          cases rest with
          | nil => simp at signed
          | cons sign rest =>
              have other : sign ≠ '\n' := by
                rintro rfl
                simp [isSign] at signed
              exact .cons (marked signed.1.1) (.cons other (digits rest feed))
        · exact .zero _

theorem numberLength_oneLine (grouping : Bool) (chars : List Char) :
    OneLine (numberLength grouping chars) chars := by
  refine .append (.append (digitRun_oneLine grouping chars) ?_) (exponentLength_oneLine _)
  exact fractionLength_oneLine grouping _

theorem numberLength_positive (grouping : Bool) (c : Char) (rest : List Char)
    (digit : Text.isDigit c = true) : 0 < numberLength grouping (c :: rest) := by
  have whole := digitRun_positive grouping c rest digit
  unfold numberLength
  dsimp only
  omega

theorem dateLength_shape {chars : List Char} {count : Nat} (found : dateLength? chars = some count) :
    10 ≤ chars.length ∧ ∀ index c, index < 10 → chars[index]? = some c →
      if index = 4 ∨ index = 7 then c = '-' else Text.isDecimal c = true := by
  unfold dateLength? at found
  dsimp only at found
  split at found
  · rename_i shaped
    simp only [Bool.and_eq_true, decide_eq_true_eq] at shaped
    refine ⟨shaped.1.1, fun index c small here => ?_⟩
    have among : (c, index) ∈ (chars.take 10).zipIdx := by
      rw [List.mk_mem_zipIdx_iff_getElem?, List.getElem?_take_of_lt small]
      exact here
    have own := List.all_eq_true.mp shaped.1.2 _ among
    simpa using own
  · cases found

theorem dateLength_dated {chars : List Char} {count : Nat} (found : dateLength? chars = some count) (c : Char)
    (member : c ∈ chars.take 10) : c = '-' ∨ Text.isDecimal c = true := by
  obtain ⟨index, bound, place⟩ := List.mem_iff_getElem.mp member
  rw [List.length_take] at bound
  rw [List.getElem_take] at place
  have own := (dateLength_shape found).2 index c (by omega) (List.getElem?_eq_some_iff.mpr ⟨by omega, place⟩)
  split at own
  · exact .inl own
  · exact .inr own

theorem dateLength_eq (chars : List Char) (count : Nat) (found : dateLength? chars = some count) :
    count = 10 ∧ OneLine count chars := by
  have ten : count = 10 := by
    unfold dateLength? at found
    dsimp only at found
    split at found
    · exact (Option.some.inj found).symm
    · cases found
  refine ⟨ten, fun feed => ?_⟩
  rw [ten] at feed
  exact absurd (dateLength_dated found '\n' feed) (by decide)

theorem currencySuffix_oneLine (currencies : List String) (chars : List Char) (code : String)
    (count : Nat) (found : currencySuffix? currencies chars = some (code, count)) :
    OneLine count chars := by
  unfold currencySuffix? at found
  dsimp only at found
  split at found
  · cases found
    exact .append (.takeWhile isInlineBlank chars (by decide)) (.takeWhile Text.isLetter _ (by decide))
  · cases found

theorem wordLength_oneLine (chars : List Char) : OneLine (wordLength chars) chars :=
  .takeWhile isWordChar chars (by decide)

theorem wordLength_positive (c : Char) (rest : List Char)
    (begins : (Text.isLetter c || c = '_') = true) : 0 < wordLength (c :: rest) := by
  have word : isWordChar c = true := by
    unfold isWordChar
    rcases Bool.or_eq_true_iff.mp begins with letter | underscore
    · rw [letter_alphanumeric c letter, Bool.true_or]
    · rw [underscore, Bool.or_true]
  rw [wordLength, List.takeWhile_cons, if_pos word]
  exact Nat.succ_pos _

namespace StringBody

theorem precedeEscape_length (c : Char) (body : StringBody) :
    (body.precedeEscape c).length = 2 + body.length := by
  unfold precedeEscape
  split <;> rfl

theorem precedeEscape_closed (c : Char) (body : StringBody) :
    (body.precedeEscape c).closed = body.closed := by
  unfold precedeEscape
  split <;> rfl

theorem inline_oneLine (quote : Char) (other : quote ≠ '\n') (chars : List Char) :
    OneLine (inline quote chars).length chars := by
  fun_induction inline quote chars with
  | case1 => exact .zero _
  | case2 rest => exact .cons (by decide) (.zero _)
  | case3 c rest plain ih =>
      rw [precedeEscape_length, Nat.add_comm]
      exact .cons (by decide) (.cons plain ih)
  | case4 rest => exact .cons other (.zero _)
  | case5 => exact .zero _
  | case6 => exact .cons (by decide) (.zero _)
  | case7 c rest _ _ plain _ ih =>
      rw [precede, Nat.add_comm]
      exact .cons plain ih

theorem multiline_unclosed (quote : Char) (chars : List Char)
    (opened : (multiline quote chars).closed = false) :
    (multiline quote chars).length = chars.length := by
  fun_induction multiline quote chars with
  | case1 => rfl
  | case2 rest ih =>
      have rest := ih opened
      simp only [withBadEscape, precede, rest, List.length_cons]
      omega
  | case3 c rest _ ih =>
      rw [precedeEscape_closed] at opened
      rw [precedeEscape_length, ih opened]
      simp only [List.length_cons]
      omega
  | case4 => cases opened
  | case5 rest _ _ ih =>
      have rest := ih opened
      simp only [withBadEscape, precede, rest, List.length_cons]
      omega
  | case6 c rest _ _ _ ih =>
      have rest := ih opened
      simp only [precede, rest, List.length_cons]
      omega

end StringBody

theorem triviaFrom_open (mode : TriviaMode) (length : Nat) (chars : List Char) (start : Nat)
    (inside : ∀ first, mode = .block first → first < length)
    (opened : (triviaFrom mode length chars).openComment = some start) :
    start < (triviaFrom mode length chars).length ∧
      (triviaFrom mode length chars).length = length + chars.length := by
  fun_induction triviaFrom mode length chars with
  | case1 length rest ih =>
      have found := ih (by rintro _ ⟨⟩; omega) opened
      simp only [List.length_cons]
      omega
  | case2 length rest _ ih | case3 length c rest _ _ _ ih | case7 length c rest _ ih
  | case9 _ length rest ih =>
      have found := ih (by rintro _ ⟨⟩) opened
      simp only [List.length_cons]
      omega
  | case4 | case5 | case6 | case8 => cases opened
  | case10 first length c rest _ ih =>
      have bound := inside first rfl
      have found := ih (by rintro _ ⟨⟩; omega) opened
      simp only [List.length_cons]
      omega
  | case11 first length =>
      cases opened
      have bound := inside start rfl
      exact ⟨bound, rfl⟩

theorem trivia_open (chars : List Char) (start : Nat)
    (opened : (trivia chars).openComment = some start) :
    start < chars.length ∧ (trivia chars).length = chars.length := by
  have found := triviaFrom_open .between 0 chars start (by rintro _ ⟨⟩) opened
  unfold trivia
  omega

def commentMark : List Char := ['#', '#', '#']

def isSpace (c : Char) : Bool := isInlineBlank c || c = '\r' || c = '\n'

inductive Spacing (after : List Char) : List Char → Prop where
  | nothing : Spacing after []
  | space (c : Char) (rest : List Char) (blank : isSpace c = true) (later : Spacing after rest) :
      Spacing after (c :: rest)
  | line (body rest : List Char) (other : ¬ commentMark <+: '#' :: body) (inline : '\n' ∉ body)
      (ended : (rest ++ after).head?.all (· = '\n') = true) (later : Spacing after rest) :
      Spacing after ('#' :: body ++ rest)
  | block (body rest : List Char) (first : ¬ commentMark <:+: body ++ commentMark.dropLast)
      (later : Spacing after rest) : Spacing after (commentMark ++ body ++ commentMark ++ rest)

namespace Spacing

theorem append {first second after : List Char} (before : Spacing (second ++ after) first)
    (behind : Spacing after second) : Spacing after (first ++ second) := by
  induction before with
  | nothing => exact behind
  | space c rest blank _ ih => exact .space c (rest ++ second) blank ih
  | line body rest other inline ended _ ih =>
      rw [List.append_assoc]
      refine .line body (rest ++ second) other inline ?_ ih
      rwa [List.append_assoc]
  | block body rest first _ ih =>
      rw [List.append_assoc]
      exact .block body (rest ++ second) first ih

end Spacing

def TriviaMode.Passes (chars : List Char) (count : Nat) : TriviaMode → Prop
  | .between => Spacing (chars.drop count) (chars.take count)
  | .line => '\n' ∉ chars.take count ∧ (chars.drop count).head?.all (· = '\n') = true
  | .block _ => ∃ body rest, chars.take count = body ++ commentMark ++ rest ∧
      (¬ commentMark <:+: body ++ commentMark.dropLast) ∧ Spacing (chars.drop count) rest

namespace Trivia

def stop (trivia : Trivia) : Nat := trivia.openComment.getD trivia.length

end Trivia

theorem TriviaMode.Passes.blank {c : Char} {rest : List Char} {count : Nat}
    (blank : (isInlineBlank c || c = '\r') = true) (later : TriviaMode.Passes rest count .between) :
    TriviaMode.Passes (c :: rest) (count + 1) .between :=
  .space c _ (by rw [isSpace, blank]; rfl) later

theorem TriviaMode.Passes.lineComment {rest : List Char} {count : Nat}
    (other : ¬ commentMark <+: '#' :: rest) (later : TriviaMode.Passes rest count .line) :
    TriviaMode.Passes ('#' :: rest) (count + 1) .between := by
  have all : Spacing (rest.drop count) ('#' :: rest.take count ++ []) := by
    refine .line _ _ (fun mark => other ?_) later.1 later.2 .nothing
    exact mark.trans (List.prefix_cons_inj _ |>.mpr (List.take_prefix count rest))
  rwa [List.append_nil] at all

theorem TriviaMode.Passes.blockComment {start : Nat} {rest : List Char} {count : Nat}
    (later : TriviaMode.Passes rest count (.block start)) :
    TriviaMode.Passes (commentMark ++ rest) (count + 3) .between := by
  obtain ⟨body, others, taken, first, spacing⟩ := later
  have all := Spacing.block body others first spacing
  change Spacing (rest.drop count) (commentMark ++ rest.take count)
  rw [taken]
  simpa only [List.append_assoc] using all

theorem mark_later {c : Char} {body : List Char} (begins : ¬ commentMark <+: c :: body ++ commentMark)
    (later : ¬ commentMark <:+: body ++ commentMark.dropLast) :
    ¬ commentMark <:+: c :: body ++ commentMark.dropLast := by
  intro found
  rcases List.infix_cons_iff.mp found with first | within
  · refine begins (first.trans ?_)
    exact List.prefix_append_right_inj (c :: body) |>.mpr (List.dropLast_prefix _)
  · exact later within

theorem triviaFrom_passes (mode : TriviaMode) (length : Nat) (chars : List Char) :
    (∃ start, mode = .block start ∧ (triviaFrom mode length chars).openComment = some start) ∨
      ∃ count, (triviaFrom mode length chars).stop = length + count ∧ mode.Passes chars count := by
  fun_induction triviaFrom mode length chars with
  | case1 length rest ih =>
      rcases ih with ⟨start, same, opened⟩ | ⟨count, stop, passes⟩
      · cases same
        exact .inr ⟨0, by rw [Trivia.stop, opened]; rfl, .nothing⟩
      · exact .inr ⟨count + 3, by omega, passes.blockComment⟩
  | case2 length rest other ih =>
      rcases ih with ⟨start, same, _⟩ | ⟨count, stop, passes⟩
      · cases same
      · refine .inr ⟨count + 1, by omega, .lineComment ?_ passes⟩
        rintro ⟨tail, same⟩
        cases same
        exact other tail rfl
  | case3 length c rest _ _ blank ih =>
      rcases ih with ⟨start, same, _⟩ | ⟨count, stop, passes⟩
      · cases same
      · exact .inr ⟨count + 1, by omega, .blank blank passes⟩
  | case4 | case5 => exact .inr ⟨0, rfl, .nothing⟩
  | case6 length rest => exact .inr ⟨0, rfl, by simp, rfl⟩
  | case7 length c rest inline ih =>
      rcases ih with ⟨start, same, _⟩ | ⟨count, stop, passes⟩
      · cases same
      · refine .inr ⟨count + 1, by omega, ?_, passes.2⟩
        rw [List.take_succ_cons, List.mem_cons, not_or]
        exact ⟨Ne.symm inline, passes.1⟩
  | case8 length => exact .inr ⟨0, rfl, by simp, rfl⟩
  | case9 start length rest ih =>
      rcases ih with ⟨_, same, _⟩ | ⟨count, stop, passes⟩
      · cases same
      · refine .inr ⟨count + 3, by omega, [], rest.take count, rfl, by decide, passes⟩
  | case10 start length c rest other ih =>
      rcases ih with ⟨first, same, opened⟩ | ⟨count, stop, body, others, taken, first, spacing⟩
      · cases same
        exact .inl ⟨start, rfl, opened⟩
      · refine .inr ⟨count + 1, by omega, c :: body, others, by rw [List.take_succ_cons, taken]; rfl, ?_, spacing⟩
        have whole : body ++ commentMark ++ others <+: rest := by
          rw [← taken]
          exact List.take_prefix count rest
        have ahead : c :: body ++ commentMark <+: c :: rest :=
          (List.prefix_cons_inj c).mpr ((List.prefix_append (body ++ commentMark) others).trans whole)
        refine mark_later (fun mark => ?_) first
        obtain ⟨tail, same⟩ := mark.trans ahead
        cases same
        exact other tail rfl rfl
  | case11 start length => exact .inl ⟨start, rfl, rfl⟩

theorem trivia_spacing (chars : List Char) :
    Spacing (chars.drop (trivia chars).stop) (chars.take (trivia chars).stop) := by
  rcases triviaFrom_passes .between 0 chars with ⟨_, same, _⟩ | ⟨count, stop, passes⟩
  · cases same
  · have same : (trivia chars).stop = count := by
      rw [trivia, stop]
      omega
    rw [same]
    exact passes

end Fiscal.Token
