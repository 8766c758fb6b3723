import Fiscal.Proofs.Token.Completion
import Fiscal.Proofs.Number.Written

set_option autoImplicit false

namespace Fiscal.Token

open Number (Written WrittenPower PlainDigits)

inductive Ends : List Char → Prop where
  | nothing : Ends []
  | comma (rest : List Char) : Ends (',' :: ' ' :: rest)
  | bracket (rest : List Char) : Ends (']' :: rest)
  | brace (rest : List Char) : Ends (' ' :: '\x7d' :: rest)

section Lengths

variable {digits tail rest : List Char} (grouping : Bool)

theorem digitRun_plain (plain : ∀ c ∈ digits, c.isDigit = true) (tail : List Char) :
    digitRun grouping (digits ++ tail) = digits.length + digitRun grouping tail := by
  induction digits with
  | nil => exact (Nat.zero_add _).symm
  | cons c others ih =>
      obtain ⟨digit, later⟩ := List.forall_mem_cons.mp plain
      rw [List.cons_append, digitRun, if_pos (Text.digit_of_ascii digit), ih later, List.length_cons]
      omega

theorem takeWhile_plain (plain : ∀ c ∈ digits, c.isDigit = true)
    (stop : ∀ c, tail.head? = some c → Text.isDigit c = false) :
    (digits ++ tail).takeWhile Text.isDigit = digits := by
  rw [List.takeWhile_append_of_pos fun c member => Text.digit_of_ascii (plain c member)]
  cases tail with
  | nil => exact List.append_nil _
  | cons c others => rw [List.takeWhile_cons_of_neg (by simp [stop c rfl]), List.append_nil]

theorem Ends.head (ends : Ends rest) (c : Char) (begins : rest.head? = some c) : c = ',' ∨ c = ']' ∨ c = ' ' := by
  cases ends with
  | nothing => cases begins
  | comma => exact .inl (Option.some.inj begins).symm
  | bracket => exact .inr (.inl (Option.some.inj begins).symm)
  | brace => exact .inr (.inr (Option.some.inj begins).symm)

theorem Ends.no_digit (ends : Ends rest) (c : Char) (begins : rest.head? = some c) : Text.isDigit c = false := by
  rcases ends.head c begins with rfl | rfl | rfl <;> decide

theorem Ends.digitRun (ends : Ends rest) : digitRun grouping rest = 0 := by
  cases ends with
  | nothing => rfl
  | comma rest => cases grouping <;> rfl
  | bracket rest => cases grouping <;> rfl
  | brace rest => cases grouping <;> rfl

theorem Ends.exponentLength (ends : Ends rest) : exponentLength rest = 0 := by
  cases ends <;> rfl

theorem Ends.fractionLength (ends : Ends rest) : fractionLength grouping rest = 0 := by
  cases ends <;> rfl

theorem Ends.currencySuffix (ends : Ends rest) (currencies : List String) : currencySuffix? currencies rest = none := by
  cases ends <;> rfl

theorem signed_exponent (sign : Char) (signs : isSign sign = true) (plain : PlainDigits digits) (ends : Ends rest) :
    exponentLength ('e' :: sign :: digits ++ rest) = digits.length + 2 := by
  obtain ⟨first, others, rfl⟩ := List.exists_cons_of_ne_nil plain.1
  have digit : Text.isDigit first = true := Text.digit_of_ascii (plain.2 first List.mem_cons_self)
  have whole := takeWhile_plain plain.2 ends.no_digit
  have unsigned : digitAt (sign :: (first :: others ++ rest)) 0 = false := by
    rcases (by simpa [isSign] using signs : sign = '+' ∨ sign = '-') with rfl | rfl <;> rfl
  have behind : digitAt (sign :: (first :: others ++ rest)) 1 = true := digit
  change exponentLength ('e' :: (sign :: (first :: others ++ rest))) = _
  rw [exponentLength, unsigned, behind, List.drop_succ_cons, List.drop_zero, whole, List.head?_cons, Option.any_some,
    signs]
  rfl

theorem power_lengths {power : List Char} {exponent : Int} (powered : WrittenPower power exponent) (ends : Ends rest) :
    digitRun grouping (power ++ rest) = 0 ∧ fractionLength grouping (power ++ rest) = 0 ∧
      exponentLength (power ++ rest) = power.length := by
  cases powered with
  | none => exact ⟨ends.digitRun grouping, ends.fractionLength grouping, ends.exponentLength⟩
  | up digits plain => exact ⟨by cases grouping <;> rfl, rfl, signed_exponent '+' rfl plain ends⟩
  | down digits plain => exact ⟨by cases grouping <;> rfl, rfl, signed_exponent '-' rfl plain ends⟩

end Lengths

section Numbers

variable {text rest : List Char} {d : Number.Decimal}

theorem written_length (written : Written text d) (ends : Ends rest) (grouping : Bool) :
    numberLength grouping (text ++ rest) = text.length := by
  cases written with
  | whole digits power exponent plain powered =>
      obtain ⟨none, pointless, length⟩ := power_lengths grouping powered ends
      unfold numberLength
      dsimp only
      rw [List.append_assoc, digitRun_plain grouping plain.2, none, Nat.add_zero, List.drop_left, pointless,
        Nat.add_zero, List.drop_left, length, List.length_append]
  | point digits fraction power exponent plain also powered =>
      obtain ⟨none, _, length⟩ := power_lengths grouping powered ends
      obtain ⟨first, others, rfl⟩ := List.exists_cons_of_ne_nil also.1
      have digit : digitAt (first :: others ++ (power ++ rest)) 0 = true :=
        Text.digit_of_ascii (also.2 first List.mem_cons_self)
      have stop : digitRun grouping ('.' :: (first :: others ++ (power ++ rest))) = 0 := by cases grouping <;> rfl
      have fraction : fractionLength grouping ('.' :: (first :: others ++ (power ++ rest))) =
          (first :: others).length + 1 := by
        rw [fractionLength, if_pos digit, digitRun_plain grouping also.2, none, Nat.add_zero]
      have split : digits ++ '.' :: (first :: others) ++ power ++ rest =
          digits ++ '.' :: (first :: others ++ (power ++ rest)) := by simp
      have behind : (digits ++ '.' :: (first :: others ++ (power ++ rest))).drop
          (digits.length + ((first :: others).length + 1)) = power ++ rest := by
        rw [List.drop_length_add_append, List.drop_succ_cons, List.drop_left]
      unfold numberLength
      dsimp only
      rw [split, digitRun_plain grouping plain.2, stop, Nat.add_zero, List.drop_left, fraction, behind, length]
      simp only [List.length_append, List.length_cons]

theorem written_kept (written : Written text d) : numberText text = String.ofList text := by
  have digits {chars : List Char} (plain : PlainDigits chars) : chars.filter isKept = chars :=
    kept_digits plain.digits.2
  have power {chars : List Char} {exponent : Int} (powered : WrittenPower chars exponent) :
      chars.filter isKept = chars := by
    cases powered with
    | none => rfl
    | up _ plain => simp [isKept, digits plain]
    | down _ plain => simp [isKept, digits plain]
  have kept : text.filter isKept = text := by
    cases written with
    | whole _ _ _ plain powered => rw [List.filter_append, digits plain, power powered]
    | point _ _ _ _ plain also powered =>
        rw [List.filter_append, List.filter_append, List.filter_cons_of_pos (by rfl), digits plain, digits also,
          power powered]
  exact congrArg String.ofList kept

theorem dateLength_none {digits tail : List Char} (plain : PlainDigits digits)
    (stop : ∀ c, tail.head? = some c → Text.isDecimal c = false ∧ c ≠ '-') : dateLength? (digits ++ tail) = none := by
  refine Option.eq_none_iff_forall_ne_some.mpr fun count found => ?_
  obtain ⟨long, shape⟩ := dateLength_shape found
  by_cases many : 4 < digits.length
  · have here : (digits ++ tail)[4]? = some digits[4] := by
      rw [List.getElem?_append_left many, List.getElem?_eq_getElem many]
    have hyphen := shape 4 _ (by decide) here
    rw [if_pos (.inl rfl)] at hyphen
    have digit := plain.2 _ (List.getElem_mem many)
    rw [hyphen] at digit
    cases digit
  · rw [List.length_append] at long
    obtain ⟨c, others, rfl⟩ := List.exists_cons_of_length_pos (show 0 < tail.length by omega)
    have here : (digits ++ c :: others)[digits.length]? = some c := by
      rw [List.getElem?_append_right (Nat.le_refl _), Nat.sub_self]
      rfl
    obtain ⟨letter, other⟩ := stop c rfl
    have own := shape digits.length c (by omega) here
    split at own
    · exact other own
    · rw [letter] at own
      cases own

theorem written_no_date (written : Written text d) (ends : Ends rest) : dateLength? (text ++ rest) = none := by
  have behind {power : List Char} {exponent : Int} (powered : WrittenPower power exponent) (c : Char)
      (begins : (power ++ rest).head? = some c) : Text.isDecimal c = false ∧ c ≠ '-' := by
    cases powered with
    | none => rcases ends.head c begins with rfl | rfl | rfl <;> decide
    | up =>
        cases begins
        decide
    | down =>
        cases begins
        decide
  cases written with
  | whole digits power exponent plain powered =>
      rw [List.append_assoc]
      exact dateLength_none plain (behind powered)
  | point digits fraction power exponent plain also powered =>
      rw [List.append_assoc, List.append_assoc]
      refine dateLength_none plain fun c begins => ?_
      cases begins
      decide

end Numbers

open Source

def keyword (kind : TokenKind) (lexeme : String) : Token := ⟨kind, .none, lexeme, default⟩

def mark (kind : TokenKind) (lexeme : String) : Token := ⟨kind, .text lexeme, lexeme, default⟩

def numeral (amount : Float) (lexeme : String) : Token := ⟨.number, .number amount, lexeme, default⟩

namespace Scan

structure Continues (scan : Scan) (rest : List Char) (groups : Groups) (tokens : List Token) (next : Scan) : Prop where
  ahead : next.ahead = rest
  inline : next.lineStart = false
  indents : next.indents = scan.indents
  groups : next.groups = groups
  tokens : next.tokens.map Token.bare = tokens.reverse ++ scan.tokens.map Token.bare
  reports : next.reports = scan.reports

section Rounds

variable {dialect : Dialect} {scan middle next : Scan} {rest behind : List Char} {groups others : Groups}
  {first second : List Token}

theorem Continues.trans (one : Continues scan rest groups first middle)
    (two : Continues middle behind others second next) : Continues scan behind others (first ++ second) next where
  ahead := two.ahead
  inline := two.inline
  indents := two.indents.trans one.indents
  groups := two.groups
  tokens := by rw [two.tokens, one.tokens, List.reverse_append, List.append_assoc]
  reports := two.reports.trans one.reports

def isCode (c : Char) : Bool := !isInlineBlank c && c != '\r' && c != '#'

theorem trivia_code {c : Char} (code : isCode c = true) {gap : List Char} (blank : gap = [] ∨ gap = [' '])
    (rest : List Char) : trivia (gap ++ c :: rest) = ⟨gap.length, none⟩ := by
  simp only [isCode, Bool.and_eq_true, Bool.not_eq_true', bne_iff_ne] at code
  obtain ⟨⟨visible, line⟩, other⟩ := code
  have stops (length : Nat) : triviaFrom .between length (c :: rest) = ⟨length, none⟩ := by
    rw [triviaFrom.eq_3 _ _ _ (fun _ sign => absurd sign other) other, if_neg (by simp [visible, line])]
  rcases blank with rfl | rfl
  · exact stops 0
  · have passed : triviaFrom .between 0 ([' '] ++ c :: rest) = triviaFrom .between 1 (c :: rest) := by
      rw [List.cons_append, List.nil_append, triviaFrom.eq_3 _ _ _ (fun _ sign => by cases sign) (by decide),
        if_pos (by decide)]
    exact passed.trans (stops 1)

theorem round_inline (inline : scan.lineStart = false) {gap : List Char} (blank : gap = [] ∨ gap = [' ']) {c : Char}
    {chars : List Char} (code : isCode c = true) (ahead : scan.ahead = gap ++ c :: chars) :
    scan.round dialect = (scan.advance gap.length).readToken dialect := by
  have skipped := trivia_code code blank chars
  rw [round_closed dialect scan (by rw [ahead, skipped]), passed, if_neg (by rw [inline]; decide), ahead, skipped]

theorem piece_read (inline : scan.lineStart = false) {gap : List Char} (blank : gap = [] ∨ gap = [' ']) {c : Char}
    {chars : List Char} (code : isCode c = true) (line : '\n' ∉ c :: chars)
    (ahead : scan.ahead = gap ++ (c :: chars ++ rest)) (kind : TokenKind) (payload : Payload)
    (reads : (scan.advance gap.length).readToken dialect =
      .ok ({ scan.advance gap.length with groups }.read kind payload (c :: chars).length)) :
    ∃ next, Reaches dialect scan next ∧
      Continues scan rest groups [⟨kind, payload, String.ofList (c :: chars), default⟩] next := by
  have ran := (round_inline inline blank code ahead).trans reads
  have here : (scan.advance gap.length).ahead = c :: chars ++ rest := by
    rw [advance_ahead, ahead, List.drop_left]
  have taken : (scan.advance gap.length).ahead.take (c :: chars).length = c :: chars := by rw [here, List.take_left]
  have calm : (scan.advance gap.length).lineStart = false := by
    have passed : scan.ahead.take gap.length = gap := by rw [ahead, List.take_left]
    change (scan.lineStart || (scan.ahead.take gap.length).contains '\n') = false
    rw [inline, passed]
    rcases blank with rfl | rfl <;> rfl
  refine ⟨_, .step scan _ _ (by rw [ahead]; simp) ran (.refl _), ?_, ?_, rfl, rfl, ?_, rfl⟩
  · change (scan.advance gap.length).ahead.drop (c :: chars).length = rest
    rw [here, List.drop_left]
  · change ((scan.advance gap.length).lineStart ||
      ((scan.advance gap.length).ahead.take (c :: chars).length).contains '\n') = false
    rw [calm, taken]
    simpa using line
  · change Token.bare ⟨kind, payload, String.ofList ((scan.advance gap.length).ahead.take (c :: chars).length), _⟩ ::
      scan.tokens.map Token.bare = _
    rw [taken]
    rfl

end Rounds

section Symbols

variable {dialect : Dialect} {scan here : Scan} {gap rest : List Char} {c : Char}

theorem readToken_symbol
    (symbol : (c = '\n' || (c = '"' || c = '\'') || Text.isDigit c || (Text.isLetter c || c = '_')) = false)
    (ahead : here.ahead = c :: rest) : here.readToken dialect = .ok (here.readSymbol dialect c rest.head?) := by
  simp only [Bool.or_eq_false_iff, decide_eq_false_iff_not] at symbol
  obtain ⟨⟨⟨inline, double, single⟩, digit⟩, letter, line⟩ := symbol
  unfold readToken
  rw [ahead]
  dsimp only
  rw [if_neg inline, if_neg (by simp [double, single]), if_neg (by simp [digit]), if_neg (by simp [letter, line])]

theorem symbol_read (inline : scan.lineStart = false) (blank : gap = [] ∨ gap = [' ']) {kind : TokenKind}
    {groups : Groups} (ahead : scan.ahead = gap ++ c :: rest) (code : isCode c = true)
    (symbol : (c = '\n' || (c = '"' || c = '\'') || Text.isDigit c || (Text.isLetter c || c = '_')) = false)
    (reads : (scan.advance gap.length).readSymbol dialect c rest.head? =
      { scan.advance gap.length with groups }.readText kind 1) :
    ∃ next, Reaches dialect scan next ∧ Continues scan rest groups [mark kind (String.ofList [c])] next := by
  have here : (scan.advance gap.length).ahead = c :: rest := by rw [advance_ahead, ahead, List.drop_left]
  have text : { scan.advance gap.length with groups }.readText kind 1 =
      { scan.advance gap.length with groups }.read kind (.text (String.ofList [c])) 1 := by
    rw [readText]
    change _ = read _ (.text (String.ofList ((c :: rest).take 1))) _ _
    rw [← here]
  have line : '\n' ∉ [c] := by
    intro member
    obtain rfl := List.mem_singleton.mp member
    exact absurd symbol (by decide)
  exact piece_read inline blank code line ahead kind _
    ((readToken_symbol symbol here).trans (congrArg Except.ok (reads.trans text)))

theorem single_read (inline : scan.lineStart = false) (blank : gap = [] ∨ gap = [' ']) {kind : TokenKind}
    (ahead : scan.ahead = gap ++ c :: rest)
    (alone : c = ',' ∧ kind = .comma ∨ c = ':' ∧ kind = .colon ∨ c = '-' ∧ kind = .minus ∧ rest.head? ≠ some '>') :
    ∃ next, Reaches dialect scan next ∧ Continues scan rest scan.groups [mark kind (String.ofList [c])] next := by
  have reads : (scan.advance gap.length).readSymbol dialect c rest.head? =
      (scan.advance gap.length).readText kind 1 := by
    unfold readSymbol
    rcases alone with ⟨rfl, rfl⟩ | ⟨rfl, rfl⟩ | ⟨rfl, rfl, other⟩
    · cases rest <;> rfl
    · cases rest <;> rfl
    · cases rest with
      | nil => rfl
      | cons next others =>
          have single : pairKind? '-' next = none := by
            unfold pairKind?
            split <;> simp_all
          rw [List.head?_cons, Option.bind_some, single]
          rfl
  have code : isCode c = true ∧
      (c = '\n' || (c = '"' || c = '\'') || Text.isDigit c || (Text.isLetter c || c = '_')) = false := by
    rcases alone with ⟨rfl, rfl⟩ | ⟨rfl, rfl⟩ | ⟨rfl, rfl, other⟩ <;> decide
  exact symbol_read inline blank ahead code.1 code.2 reads

section Brackets

variable {place : Location} {outer : List Location}

theorem bracket_opens (dialect : Dialect) (inline : scan.lineStart = false) (blank : gap = [] ∨ gap = [' '])
    (ahead : scan.ahead = gap ++ '[' :: rest) :
    ∃ next place, Reaches dialect scan next ∧
      Continues scan rest { scan.groups with brackets := place :: scan.groups.brackets } [mark .leftBracket "["]
        next := by
  have opens : (scan.advance gap.length).readSymbol dialect '[' rest.head? =
      { scan.advance gap.length with
        groups := { scan.groups with brackets := (scan.advance gap.length).place :: scan.groups.brackets } }.readText
          .leftBracket 1 := by
    cases rest <;> rfl
  obtain ⟨next, reads⟩ := symbol_read inline blank ahead (by decide) (by decide) opens
  exact ⟨next, _, reads⟩

theorem bracket_closes (inline : scan.lineStart = false) (blank : gap = [] ∨ gap = [' '])
    (ahead : scan.ahead = gap ++ ']' :: rest) (opened : scan.groups.brackets = place :: outer) :
    ∃ next, Reaches dialect scan next ∧
      Continues scan rest { scan.groups with brackets := outer } [mark .rightBracket "]"] next := by
  refine symbol_read inline blank ahead (by decide) (by decide) ?_
  have closes : (scan.advance gap.length).readSymbol dialect ']' rest.head? =
      (scan.advance gap.length).closeGroup dialect .rightBracket "bracket" scan.groups.brackets
        { scan.groups with brackets := scan.groups.brackets.tail } := by
    cases rest <;> rfl
  rw [closes, opened]
  rfl

theorem brace_opens (dialect : Dialect) (inline : scan.lineStart = false) (blank : gap = [] ∨ gap = [' '])
    (ahead : scan.ahead = gap ++ '\x7b' :: rest) :
    ∃ next place, Reaches dialect scan next ∧
      Continues scan rest { scan.groups with braces := place :: scan.groups.braces } [mark .leftBrace "\x7b"] next := by
  have opens : (scan.advance gap.length).readSymbol dialect '\x7b' rest.head? =
      { scan.advance gap.length with
        groups := { scan.groups with braces := (scan.advance gap.length).place :: scan.groups.braces } }.readText
          .leftBrace 1 := by
    cases rest <;> rfl
  obtain ⟨next, reads⟩ := symbol_read inline blank ahead (by decide) (by decide) opens
  exact ⟨next, _, reads⟩

theorem brace_closes (inline : scan.lineStart = false) (blank : gap = [] ∨ gap = [' '])
    (ahead : scan.ahead = gap ++ '\x7d' :: rest) (opened : scan.groups.braces = place :: outer) :
    ∃ next, Reaches dialect scan next ∧
      Continues scan rest { scan.groups with braces := outer } [mark .rightBrace "\x7d"] next := by
  refine symbol_read inline blank ahead (by decide) (by decide) ?_
  have closes : (scan.advance gap.length).readSymbol dialect '\x7d' rest.head? =
      (scan.advance gap.length).closeGroup dialect .rightBrace "brace" scan.groups.braces
        { scan.groups with braces := scan.groups.braces.tail } := by
    cases rest <;> rfl
  rw [closes, opened]
  rfl

end Brackets

end Symbols

section Words

variable {dialect : Dialect} {scan here : Scan} {gap word rest text : List Char}

structure Wordlike (word : List Char) : Prop where
  begins : ∃ c others, word = c :: others ∧ Text.isDigit c = false ∧ (Text.isLetter c || c = '_') = true
  whole : ∀ c ∈ word, isWordChar c = true

def wordToken (word : String) : Token :=
  match TokenKind.ofWord? word with
  | some kind => keyword kind word
  | none => mark .identifier word

structure Apart (rest : List Char) : Prop where
  stops : ∀ c, rest.head? = some c → isWordChar c = false
  unpriced : digitAt rest (rest.takeWhile isInlineBlank).length = false

theorem begins_code {c : Char} (begins : (Text.isLetter c || c = '_') = true) : isCode c = true := by
  simp only [isCode, Bool.and_eq_true, Bool.not_eq_true', bne_iff_ne]
  refine ⟨⟨Bool.eq_false_iff.mpr fun blank => ?_, ?_⟩, ?_⟩
  · rcases (by simpa [isInlineBlank] using blank : c = ' ' ∨ c = '\t') with rfl | rfl
    · revert begins
      decide
    · revert begins
      decide
  · rintro rfl
    revert begins
    decide
  · rintro rfl
    revert begins
    decide

theorem readToken_word (like : Wordlike word) (apart : Apart rest) (ahead : here.ahead = word ++ rest) :
    here.readToken dialect =
      .ok (here.read (wordToken (String.ofList word)).kind (wordToken (String.ofList word)).payload word.length) := by
  obtain ⟨c, others, rfl, digit, begins⟩ := like.begins
  obtain ⟨feed, quote⟩ := begins_visible begins
  have length : wordLength here.ahead = (c :: others).length := by
    rw [ahead, wordLength, List.takeWhile_append_of_pos like.whole]
    cases rest with
    | nil => simp
    | cons next more => rw [List.takeWhile_cons_of_neg (by simp [apart.stops next rfl]), List.append_nil]
  have unpriced : (dialect.currencies.contains (String.ofList (c :: others)) &&
      digitAt rest (rest.takeWhile isInlineBlank).length) = false := by
    rw [apart.unpriced, Bool.and_false]
  unfold readToken
  rw [ahead, List.cons_append]
  dsimp only
  rw [if_neg feed, if_neg (by simp [quote]), if_neg (by simp [digit]), if_pos begins]
  unfold readWord
  dsimp only
  rw [length, ahead, List.take_left, List.drop_left, if_neg (by rw [unpriced]; decide)]
  unfold wordToken
  cases TokenKind.ofWord? (String.ofList (c :: others)) with
  | some kind => rfl
  | none =>
      dsimp only
      rw [readText, ahead, List.take_left]
      rfl

theorem word_read (inline : scan.lineStart = false) (blank : gap = [] ∨ gap = [' ']) (like : Wordlike word)
    (apart : Apart rest) (ahead : scan.ahead = gap ++ (word ++ rest)) :
    ∃ next, Reaches dialect scan next ∧
      Continues scan rest scan.groups [wordToken (String.ofList word)] next := by
  obtain ⟨c, others, same, digit, begins⟩ := like.begins
  have here : (scan.advance gap.length).ahead = word ++ rest := by rw [advance_ahead, ahead, List.drop_left]
  have line : '\n' ∉ word := fun member => absurd (like.whole _ member) (by decide)
  have reads : (scan.advance gap.length).readToken dialect = _ := readToken_word like apart here
  have token : (⟨(wordToken (String.ofList word)).kind, (wordToken (String.ofList word)).payload, String.ofList word,
      default⟩ : Token) = wordToken (String.ofList word) := by
    unfold wordToken
    split <;> rfl
  rw [← token]
  subst same
  exact piece_read inline blank (begins_code begins) line ahead _ _ reads

theorem digit_code {c : Char} (digit : Text.isDigit c = true) : isCode c = true := by
  have carriage := Number.digit_apart digit '\r' (by decide)
  have sign := Number.digit_apart digit '#' (by decide)
  simp [isCode, inlineBlank_not_digit digit, carriage, sign]

theorem number_read {d : Number.Decimal} (inline : scan.lineStart = false) (blank : gap = [] ∨ gap = [' '])
    (written : Number.Written text d) (ends : Ends rest) (ahead : scan.ahead = gap ++ (text ++ rest)) :
    ∃ next, Reaches dialect scan next ∧
      Continues scan rest scan.groups [numeral (d.toFloat false) (String.ofList text)] next := by
  have here : (scan.advance gap.length).ahead = text ++ rest := by rw [advance_ahead, ahead, List.drop_left]
  obtain ⟨c, others, same, digit⟩ := written.numeral.begins
  have line : '\n' ∉ text := by
    have oneLine := numberLength_oneLine true (text ++ rest)
    rw [written_length written ends, OneLine, List.take_left] at oneLine
    exact oneLine
  have reads : (scan.advance gap.length).readToken dialect =
      .ok ((scan.advance gap.length).read .number (.number (d.toFloat false)) text.length) := by
    have first : digitAt (scan.advance gap.length).ahead 0 = true := by
      rw [here, same]
      exact digit
    rw [readToken_number first, readNumber, here, written_no_date written ends]
    dsimp only
    rw [written_length written ends, List.take_left, List.drop_left, written_kept written, written.read]
    dsimp only
    rw [ends.currencySuffix]
  subst same
  exact piece_read inline blank (digit_code digit) line ahead _ _ reads

end Words

end Scan

end Fiscal.Token
