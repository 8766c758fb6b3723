import Fiscal.Proofs.Token.Append
import Fiscal.Proofs.Token.Numeral

set_option autoImplicit false

namespace Fiscal.Token

open Source

namespace Scan

-- A known currency code, blanks and a number with a digit that has no place value.
structure Stuck (dialect : Dialect) (here : Scan) (word blanks numeral rest : List Char) : Prop where
  ahead : here.ahead = word ++ (blanks ++ (numeral ++ rest))
  begins : ∃ c, word.head? = some c ∧ Text.isDigit c = false ∧ (Text.isLetter c || c = '_') = true
  whole : wordLength here.ahead = word.length
  known : String.ofList word ∈ dialect.currencies
  blank : ∀ c ∈ blanks, isInlineBlank c = true
  digit : digitAt numeral 0 = true
  number : (numeral ++ rest).take (numberLength (here.groups.depth == 0) (numeral ++ rest)) = numeral
  spoiled : ∃ c ∈ numeral, Text.isDigit c = true ∧ Text.isDecimal c = false

section Failing

variable {dialect : Dialect} {scan : Scan} {fault : Fault}

theorem readWord_error_cases {word blanks digits : List Char} (ahead : scan.ahead = word ++ (blanks ++ digits))
    (whole : wordLength scan.ahead = word.length) (blank : (blanks ++ digits).takeWhile isInlineBlank = blanks) :
    scan.readWord dialect = .error fault ↔
      let numeral := digits.take (numberLength (scan.groups.depth == 0) digits)
      String.ofList word ∈ dialect.currencies ∧ digitAt digits 0 = true ∧
        Number.read? (numberText numeral) = none ∧ fault = .unreadableNumber (numberText numeral) := by
  have taken : scan.ahead.take word.length = word := by rw [ahead, List.take_left]
  have dropped : scan.ahead.drop word.length = blanks ++ digits := by rw [ahead, List.drop_left]
  have first : digitAt (blanks ++ digits) blanks.length = digitAt digits 0 := by
    unfold digitAt
    rw [List.getElem?_append_right (Nat.le_refl _), Nat.sub_self]
  unfold readWord
  dsimp only
  rw [whole, taken, dropped, blank, first, List.drop_left]
  by_cases priced : (dialect.currencies.contains (String.ofList word) && digitAt digits 0) = true
  · rw [if_pos priced]
    rw [Bool.and_eq_true, List.contains_iff_mem] at priced
    split
    · rename_i amount read
      rw [read]
      constructor
      · intro failed
        cases failed
      · rintro ⟨_, _, none, _⟩
        cases none
    · rename_i read
      rw [Except.error.injEq]
      constructor
      · intro same
        exact ⟨priced.1, priced.2, read, same.symm⟩
      · rintro ⟨_, _, _, same⟩
        exact same.symm
  · rw [if_neg priced]
    rw [Bool.and_eq_true, List.contains_iff_mem] at priced
    constructor
    · intro failed
      split at failed <;> cases failed
    · rintro ⟨known, digit, _⟩
      exact absurd ⟨known, digit⟩ priced

theorem wordChar_begins {c : Char} (begins : (Text.isLetter c || c = '_') = true) : isWordChar c = true := by
  unfold isWordChar
  rcases Bool.or_eq_true_iff.mp begins with letter | underscore
  · rw [letter_alphanumeric c letter, Bool.true_or]
  · rw [underscore, Bool.or_true]

theorem digitAt_take {chars : List Char} {count : Nat} (digit : digitAt chars 0 = true) (positive : 0 < count) :
    digitAt (chars.take count) 0 = true := by
  unfold digitAt at digit ⊢
  rwa [List.getElem?_take_of_lt positive]

theorem numberLength_digit {grouping : Bool} {chars : List Char} (digit : digitAt chars 0 = true) :
    0 < numberLength grouping chars := by
  cases chars with
  | nil => cases digit
  | cons c rest => exact numberLength_positive grouping c rest digit

theorem inlineBlank_not_digit {c : Char} (digit : Text.isDigit c = true) : isInlineBlank c = false := by
  refine Bool.eq_false_iff.mpr fun blank => ?_
  rcases (by simpa [isInlineBlank] using blank : c = ' ' ∨ c = '\t') with rfl | rfl
  · revert digit
    decide
  · revert digit
    decide

theorem takeWhile_blanks {blanks chars : List Char} (blank : ∀ c ∈ blanks, isInlineBlank c = true)
    (digit : digitAt chars 0 = true) : (blanks ++ chars).takeWhile isInlineBlank = blanks := by
  rw [List.takeWhile_append_of_pos blank]
  cases chars with
  | nil => cases digit
  | cons c rest =>
      have stop : isInlineBlank c = false := inlineBlank_not_digit digit
      rw [List.takeWhile_cons_of_neg (by simp [stop]), List.append_nil]

theorem word_split {c : Char} {others : List Char} (ahead : scan.ahead = c :: others)
    (begins : (Text.isLetter c || c = '_') = true) :
    ∃ word blanks digits, scan.ahead = word ++ (blanks ++ digits) ∧ wordLength scan.ahead = word.length ∧
      (blanks ++ digits).takeWhile isInlineBlank = blanks ∧ word.head? = some c := by
  have behind := List.takeWhile_append_dropWhile (p := isInlineBlank) (l := scan.ahead.dropWhile isWordChar)
  refine ⟨scan.ahead.takeWhile isWordChar, _, _, ?_, rfl, by rw [behind], ?_⟩
  · rw [behind, List.takeWhile_append_dropWhile]
  · rw [ahead, List.takeWhile_cons_of_pos (wordChar_begins begins)]
    rfl

theorem readWord_error_iff (c : Char) (others : List Char) (ahead : scan.ahead = c :: others)
    (plain : Text.isDigit c = false) (begins : (Text.isLetter c || c = '_') = true) :
    scan.readWord dialect = .error fault ↔
      ∃ word blanks numeral rest, Stuck dialect scan word blanks numeral rest ∧
        fault = .unreadableNumber (numberText numeral) := by
  constructor
  · intro failed
    obtain ⟨word, blanks, digits, split, whole, blank, first⟩ := word_split ahead begins
    obtain ⟨known, digit, read, same⟩ := (readWord_error_cases split whole blank).mp failed
    have all : ∀ c ∈ blanks, isInlineBlank c = true := by
      rw [← blank]
      exact List.all_eq_true.mp List.all_takeWhile
    have parts := List.take_append_drop (numberLength (scan.groups.depth == 0) digits) digits
    refine ⟨word, blanks, _, digits.drop (numberLength (scan.groups.depth == 0) digits), ⟨?_, ⟨c, first, plain, begins⟩,
      whole, known, all, digitAt_take digit (numberLength_digit digit), ?_, (read_literal_none_iff _ _ digit).mp read⟩, same⟩
    · rw [parts]
      exact split
    · rw [parts]
  · rintro ⟨word, blanks, numeral, rest, stuck, same⟩
    have digit : digitAt (numeral ++ rest) 0 = true := by
      have some := stuck.digit
      unfold digitAt at some ⊢
      cases numeral with
      | nil => cases some
      | cons => exact some
    refine (readWord_error_cases stuck.ahead stuck.whole (takeWhile_blanks stuck.blank digit)).mpr ?_
    rw [stuck.number]
    refine ⟨stuck.known, digit, ?_, same⟩
    have read := read_literal_none_iff (scan.groups.depth == 0) (numeral ++ rest) digit
    rw [stuck.number] at read
    exact read.mpr stuck.spoiled

theorem begins_visible {c : Char} (begins : (Text.isLetter c || c = '_') = true) :
    c ≠ '\n' ∧ (c = '"' || c = '\'') = false := by
  constructor
  · rintro rfl
    revert begins
    decide
  · refine Bool.eq_false_iff.mpr fun quote => ?_
    rcases (by simpa using quote : c = '"' ∨ c = '\'') with rfl | rfl
    · revert begins
      decide
    · revert begins
      decide

theorem readToken_error_iff :
    scan.readToken dialect = .error fault ↔
      ∃ word blanks numeral rest, Stuck dialect scan word blanks numeral rest ∧
        fault = .unreadableNumber (numberText numeral) := by
  constructor
  · intro failed
    unfold readToken at failed
    split at failed
    · cases failed
    · rename_i c rest ahead
      split at failed
      · cases failed
      · split at failed
        · cases failed
        · split at failed
          · cases failed
          · rename_i plain
            split at failed
            · rename_i begins
              exact (readWord_error_iff c rest ahead (by simpa using plain) begins).mp failed
            · cases failed
  · rintro ⟨word, blanks, numeral, rest, stuck, same⟩
    obtain ⟨c, first, plain, begins⟩ := stuck.begins
    obtain ⟨others, rfl⟩ := List.head?_eq_some_iff.mp first
    obtain ⟨inline, unquoted⟩ := begins_visible begins
    have ahead : scan.ahead = c :: (others ++ (blanks ++ (numeral ++ rest))) := stuck.ahead
    have word : scan.readToken dialect = scan.readWord dialect := by
      unfold readToken
      rw [ahead]
      dsimp only
      rw [if_neg inline, if_neg (by simp [unquoted]), if_neg (by simp [plain]), if_pos begins]
    rw [word]
    exact (readWord_error_iff c _ ahead plain begins).mpr ⟨_, blanks, numeral, rest, stuck, same⟩

theorem round_error_iff :
    scan.round dialect = .error fault ↔
      (trivia scan.ahead).openComment = none ∧
        ∃ word blanks numeral rest, Stuck dialect (scan.passed dialect) word blanks numeral rest ∧
          fault = .unreadableNumber (numberText numeral) := by
  cases closed : (trivia scan.ahead).openComment with
  | none =>
      rw [round_closed dialect scan closed, readToken_error_iff]
      simp
  | some offset =>
      constructor
      · intro failed
        rw [round] at failed
        dsimp only at failed
        rw [closed] at failed
        cases failed
      · rintro ⟨impossible, _⟩
        cases impossible

theorem rounds_error_iff (count : Nat) (enough : scan.ahead.length ≤ count) :
    scan.rounds dialect count = .error fault ↔
      ∃ moment, Reaches dialect scan moment ∧ moment.ahead ≠ [] ∧ moment.round dialect = .error fault := by
  constructor
  · intro failed
    clear enough
    induction count generalizing scan with
    | zero => cases failed
    | succ count ih =>
        rw [Scan.rounds] at failed
        split at failed
        · cases failed
        · rename_i more
          have ahead : scan.ahead ≠ [] := by simpa using more
          cases ran : scan.round dialect with
          | error other =>
              rw [ran] at failed
              cases failed
              exact ⟨scan, .refl scan, ahead, ran⟩
          | ok next =>
              rw [ran] at failed
              obtain ⟨moment, reaches, still, stops⟩ := ih failed
              exact ⟨moment, .step scan next moment ahead ran reaches, still, stops⟩
  · rintro ⟨moment, reaches, more, failed⟩
    induction reaches generalizing count with
    | refl scan =>
        cases count with
        | zero => exact absurd (List.length_eq_zero_iff.mp (Nat.le_zero.mp enough)) more
        | succ count =>
            rw [Scan.rounds, if_neg (by simpa using more), failed]
            rfl
    | step scan next last ahead ran _ ih =>
        have shorter := round_shorter dialect scan next ran ahead
        cases count with
        | zero => omega
        | succ count =>
            rw [Scan.rounds, if_neg (by simpa using ahead), ran]
            exact ih count (by omega) more failed

end Failing

def piece (scan : Scan) (count : Nat) : Span := ⟨scan.place, (scan.advance count).place⟩

def quotes (quote : Char) (chars : List Char) : Nat := if chars.take 3 = [quote, quote, quote] then 3 else 1

def quoted (quote : Char) (chars : List Char) : StringBody :=
  if chars.take 3 = [quote, quote, quote] then .multiline quote (chars.drop 3) else .inline quote (chars.drop 1)

def unterminated (quote : Char) (chars : List Char) : Issue :=
  if chars.take 3 = [quote, quote, quote] then .unterminatedMultilineString else .unterminatedString

inductive Unopened (groups : Groups) : Char → String → Prop where
  | paren (none : groups.parens = []) : Unopened groups ')' "parenthesis"
  | bracket (none : groups.brackets = []) : Unopened groups ']' "bracket"
  | brace (none : groups.braces = []) : Unopened groups '\x7d' "brace"

structure Strange (c : Char) (next : Option Char) : Prop where
  inline : c ≠ '\n'
  unquoted : (c = '"' || c = '\'') = false
  number : Text.isDigit c = false
  word : (Text.isLetter c || c = '_') = false
  pair : next.bind (pairKind? c) = none
  bracket : c ∉ ['(', ')', '[', ']', '\x7b', '\x7d']
  single : singleKind? c = none

inductive Flawed (here : Scan) : Issue → Span → Option String → Prop where
  | number (digit : digitAt here.ahead 0 = true) (dateless : dateLength? here.ahead = none) (count : Nat)
      (length : numberLength (here.groups.depth == 0) here.ahead = count)
      (spoiled : ∃ c ∈ here.ahead.take count, Text.isDigit c = true ∧ Text.isDecimal c = false) :
      Flawed here (.invalidNumber (numberText (here.ahead.take count))) (here.piece count)
        (some (String.ofList (here.ahead.take count)))
  | string (quote : Char) (rest : List Char) (ahead : here.ahead = quote :: rest)
      (opens : (quote = '"' || quote = '\'') = true) (count : Nat)
      (length : quotes quote here.ahead + (quoted quote here.ahead).length = count)
      (unclosed : (quoted quote here.ahead).closed = false) :
      Flawed here (unterminated quote here.ahead) (here.piece count) (some (String.ofList (here.ahead.take count)))
  | escape (quote : Char) (rest : List Char) (ahead : here.ahead = quote :: rest)
      (opens : (quote = '"' || quote = '\'') = true) (position : Nat) (c : Option Char) (first : Location)
      (bad : (position, c) ∈ (quoted quote here.ahead).badEscapes)
      (place : here.place.afterAll (here.ahead.take (quotes quote here.ahead + position)) = first) :
      Flawed here (.invalidEscape c) ⟨first, (c.map first.after).getD first⟩ none
  | character (c : Char) (rest : List Char) (ahead : here.ahead = c :: rest) (strange : Strange c rest.head?) :
      Flawed here (.unexpectedCharacter c) (here.piece 1) (some (String.ofList [c]))
  | group (c : Char) (rest : List Char) (name : String) (ahead : here.ahead = c :: rest)
      (unopened : Unopened here.groups c name) : Flawed here (.unopenedGroup name) (here.piece 1) none

structure Shows (dialect : Dialect) (issue : Issue) (span : Span) (replaced : Option String)
    (tokens : List Token) (reports : List Diagnostic) : Prop where
  reported : ⟨issue, some span, Text.line? dialect.lines span.start.line⟩ ∈ reports
  marked : ∀ lexeme, replaced = some lexeme → ⟨.invalid, .text lexeme, lexeme, span⟩ ∈ tokens

section Showing

variable {dialect : Dialect} {here next : Scan} {issue : Issue} {span : Span} {replaced : Option String}

theorem readInvalid_shows (dialect : Dialect) (issue : Issue) (here : Scan) (count : Nat) :
    Shows dialect issue (here.piece count) (some (String.ofList (here.ahead.take count)))
      (here.readInvalid dialect issue count).tokens (here.readInvalid dialect issue count).reports where
  reported := List.mem_cons_self
  marked lexeme same := by
    cases same
    exact List.mem_cons_self

theorem reportEscapes_shows (dialect : Dialect) (offset : Nat) (escapes : List (Nat × Option Char)) (here : Scan)
    (position : Nat) (c : Option Char) (bad : (position, c) ∈ escapes) (first : Location)
    (place : here.place.afterAll (here.ahead.take (offset + position)) = first) :
    ⟨.invalidEscape c, some ⟨first, (c.map first.after).getD first⟩, Text.line? dialect.lines first.line⟩ ∈
      (here.reportEscapes dialect offset escapes).reports := by
  induction escapes generalizing here with
  | nil => cases bad
  | cons escape others ih =>
      unfold reportEscapes
      dsimp only
      rcases List.mem_cons.mp bad with rfl | later
      · obtain ⟨reports, same, grown⟩ := reportEscapes_eq dialect offset others
          (here.reportAt dialect (.invalidEscape c)
            ⟨here.place.afterAll (here.ahead.take (offset + position)),
              (c.map (here.place.afterAll (here.ahead.take (offset + position))).after).getD
                (here.place.afterAll (here.ahead.take (offset + position)))⟩)
        rw [same]
        refine grown.mem ?_
        rw [place]
        exact List.mem_cons_self
      · exact ih _ later place

theorem readString_eq (dialect : Dialect) (quote : Char) (here : Scan) :
    ∃ kind, here.readString dialect quote =
      let body := quoted quote here.ahead
      let reported := here.reportEscapes dialect (quotes quote here.ahead) body.badEscapes
      let count := quotes quote here.ahead + body.length
      if body.closed then reported.read kind (.text (String.ofList body.value)) count
      else reported.readInvalid dialect (unterminated quote here.ahead) count := by
  unfold readString quoted quotes unterminated
  by_cases triple : here.ahead.take 3 = [quote, quote, quote]
  · simp only [triple, if_true]
    exact ⟨.multilineString, rfl⟩
  · simp only [triple, if_false]
    exact ⟨.string, rfl⟩

theorem readString_shows (quote : Char) (count : Nat)
    (length : quotes quote here.ahead + (quoted quote here.ahead).length = count)
    (unclosed : (quoted quote here.ahead).closed = false) :
    Shows dialect (unterminated quote here.ahead) (here.piece count) (some (String.ofList (here.ahead.take count)))
      (here.readString dialect quote).tokens (here.readString dialect quote).reports := by
  obtain ⟨kind, same⟩ := readString_eq dialect quote here
  obtain ⟨reports, reported, _⟩ := reportEscapes_eq dialect (quotes quote here.ahead)
    (quoted quote here.ahead).badEscapes here
  rw [same]
  dsimp only
  rw [if_neg (by simp [unclosed]), length, reported]
  exact readInvalid_shows dialect _ { here with reports := reports } count

theorem readString_escape (quote : Char) (position : Nat) (c : Option Char) (first : Location)
    (bad : (position, c) ∈ (quoted quote here.ahead).badEscapes)
    (place : here.place.afterAll (here.ahead.take (quotes quote here.ahead + position)) = first) :
    ⟨.invalidEscape c, some ⟨first, (c.map first.after).getD first⟩, Text.line? dialect.lines first.line⟩ ∈
      (here.readString dialect quote).reports := by
  obtain ⟨kind, same⟩ := readString_eq dialect quote here
  have reported := reportEscapes_shows dialect _ _ here position c bad first place
  rw [same]
  dsimp only
  by_cases closed : (quoted quote here.ahead).closed = true
  · rw [if_pos closed]
    exact reported
  · rw [if_neg closed]
    exact List.mem_cons_of_mem _ reported

theorem readToken_string {quote : Char} {rest : List Char} (ahead : here.ahead = quote :: rest)
    (opens : (quote = '"' || quote = '\'') = true) :
    here.readToken dialect = .ok (here.readString dialect quote) := by
  have inline : quote ≠ '\n' := by
    rintro rfl
    revert opens
    decide
  unfold readToken
  rw [ahead]
  dsimp only
  rw [if_neg inline, if_pos opens]

theorem readToken_number (digit : digitAt here.ahead 0 = true) :
    here.readToken dialect = .ok (here.readNumber dialect) := by
  cases ahead : here.ahead with
  | nil =>
      rw [ahead] at digit
      cases digit
  | cons c rest =>
      rw [ahead] at digit
      have first : Text.isDigit c = true := digit
      have double := Number.digit_apart first '"' (by decide)
      have single := Number.digit_apart first '\'' (by decide)
      unfold readToken
      rw [ahead]
      dsimp only
      rw [if_neg (Number.digit_apart first '\n' (by decide)), if_neg (by simp [double, single]), if_pos first]

theorem readToken_strange {c : Char} {rest : List Char} (ahead : here.ahead = c :: rest)
    (strange : Strange c rest.head?) :
    here.readToken dialect = .ok (here.readInvalid dialect (.unexpectedCharacter c) 1) := by
  unfold readToken
  rw [ahead]
  dsimp only
  rw [if_neg strange.inline, if_neg (by simp [strange.unquoted]), if_neg (by simp [strange.number]),
    if_neg (by simp [strange.word])]
  have bracket := strange.bracket
  unfold readSymbol
  rw [strange.pair]
  dsimp only
  split
  · simp at bracket
  · simp at bracket
  · simp at bracket
  · simp at bracket
  · simp at bracket
  · simp at bracket
  · rw [strange.single]

theorem readToken_unopened {c : Char} {rest : List Char} {name : String} (ahead : here.ahead = c :: rest)
    (unopened : Unopened here.groups c name) :
    ∃ kind, here.readToken dialect =
      .ok ((here.readText kind 1).reportAt dialect (.unopenedGroup name) (here.piece 1)) := by
  have alone (next : Option Char) : next.bind (pairKind? c) = none := by
    cases next with
    | none => rfl
    | some other => cases unopened <;> simp [pairKind?]
  unfold readToken
  rw [ahead]
  dsimp only
  cases unopened with
  | paren none =>
      rw [if_neg (by decide), if_neg (by decide), if_neg (by decide), if_neg (by decide), readSymbol, alone]
      dsimp only
      rw [none]
      exact ⟨.rightParen, rfl⟩
  | bracket none =>
      rw [if_neg (by decide), if_neg (by decide), if_neg (by decide), if_neg (by decide), readSymbol, alone]
      dsimp only
      rw [none]
      exact ⟨.rightBracket, rfl⟩
  | brace none =>
      rw [if_neg (by decide), if_neg (by decide), if_neg (by decide), if_neg (by decide), readSymbol, alone]
      dsimp only
      rw [none]
      exact ⟨.rightBrace, rfl⟩

theorem readToken_shows (ran : here.readToken dialect = .ok next) (flawed : Flawed here issue span replaced) :
    Shows dialect issue span replaced next.tokens next.reports := by
  cases flawed with
  | number digit dateless count length spoiled =>
      rw [readToken_number digit, readNumber, dateless] at ran
      dsimp only at ran
      rw [length] at ran
      have unread : Number.read? (numberText (here.ahead.take count)) = none := by
        rw [← length] at spoiled ⊢
        exact (read_literal_none_iff _ _ digit).mpr spoiled
      rw [unread] at ran
      cases ran
      exact readInvalid_shows dialect _ here count
  | string quote rest ahead opens count length unclosed =>
      rw [readToken_string ahead opens] at ran
      cases ran
      exact readString_shows quote count length unclosed
  | escape quote rest ahead opens position c first bad place =>
      rw [readToken_string ahead opens] at ran
      cases ran
      exact ⟨readString_escape quote position c first bad place, fun lexeme none => by cases none⟩
  | character c rest ahead strange =>
      rw [readToken_strange ahead strange] at ran
      cases ran
      have shows := readInvalid_shows dialect (.unexpectedCharacter c) here 1
      rw [ahead] at shows
      exact shows
  | group c rest name ahead unopened =>
      obtain ⟨kind, same⟩ := readToken_unopened ahead unopened
      rw [same] at ran
      cases ran
      exact ⟨List.mem_cons_self, fun lexeme none => by cases none⟩

end Showing

-- What is malformed at the next place where a scan reads: a comment without an end, or a piece of code.
inductive Malformed (dialect : Dialect) (scan : Scan) : Issue → Span → Option String → Prop where
  | comment (offset count : Nat) (opened : (trivia scan.ahead).openComment = some offset)
      (length : (trivia scan.ahead).length - offset = count) :
      Malformed dialect scan .unterminatedComment ((scan.advance offset).piece count)
        (some (String.ofList ((scan.advance offset).ahead.take count)))
  | code (issue : Issue) (span : Span) (replaced : Option String)
      (closed : (trivia scan.ahead).openComment = none)
      (flawed : Flawed (scan.passed dialect) issue span replaced) : Malformed dialect scan issue span replaced

-- A bracket that is open at the end of the text.
inductive LeftOpen (groups : Groups) : String → Location → Prop where
  | paren (place : Location) (member : place ∈ groups.parens) : LeftOpen groups "parenthesis" place
  | bracket (place : Location) (member : place ∈ groups.brackets) : LeftOpen groups "bracket" place
  | brace (place : Location) (member : place ∈ groups.braces) : LeftOpen groups "brace" place

section Reporting

variable {dialect : Dialect} {scan next last : Scan} {issue : Issue} {span : Span} {replaced : Option String}

theorem round_shows (ran : scan.round dialect = .ok next) (malformed : Malformed dialect scan issue span replaced) :
    Shows dialect issue span replaced next.tokens next.reports := by
  cases malformed with
  | comment offset count opened length =>
      rw [round] at ran
      dsimp only at ran
      rw [opened] at ran
      cases ran
      rw [length]
      exact readInvalid_shows dialect _ (scan.advance offset) count
  | code _ _ _ closed flawed =>
      rw [round_closed dialect scan closed] at ran
      exact readToken_shows ran flawed

theorem malformed_ahead (malformed : Malformed dialect scan issue span replaced) : scan.ahead ≠ [] := by
  intro none
  cases malformed with
  | comment offset count opened =>
      rw [none] at opened
      cases opened
  | code _ _ _ closed flawed =>
      have empty : (scan.passed dialect).ahead = [] := by rw [passed_ahead, none, List.drop_nil]
      cases flawed with
      | number digit =>
          rw [empty] at digit
          cases digit
      | string _ _ ahead => cases empty.symm.trans ahead
      | escape _ _ ahead => cases empty.symm.trans ahead
      | character _ _ ahead => cases empty.symm.trans ahead
      | group _ _ _ ahead => cases empty.symm.trans ahead

theorem Shows.later {tokens more : List Token} {reports others : List Diagnostic}
    (shows : Shows dialect issue span replaced tokens reports) (grown : tokens <:+ more) (longer : reports <:+ others) :
    Shows dialect issue span replaced more others where
  reported := longer.mem shows.reported
  marked lexeme same := grown.mem (shows.marked lexeme same)

-- There is only one way to go on, so the end is reached from every place that is.
theorem Reaches.onto {moment ended : Scan} (reaches : Reaches dialect scan moment)
    (goes : Reaches dialect scan ended) (empty : ended.ahead = []) : Reaches dialect moment ended := by
  induction reaches with
  | refl => exact goes
  | step scan next moment more ran _ ih =>
      cases goes with
      | refl => exact absurd empty more
      | step _ other _ _ also later =>
          cases ran.symm.trans also
          exact ih later

theorem Reaches.shows {moment ended : Scan} (reaches : Reaches dialect moment ended) (empty : ended.ahead = [])
    (malformed : Malformed dialect moment issue span replaced) :
    Shows dialect issue span replaced ended.tokens ended.reports := by
  cases reaches with
  | refl => exact absurd empty (malformed_ahead malformed)
  | step _ next _ _ ran later => exact (round_shows ran malformed).later later.grows.1 later.grows.2

theorem reportUnclosed_reports (scan : Scan) (name : String) (places : List Location) :
    (scan.reportUnclosed name places).reports =
      places.map (fun place => ⟨.unclosedGroup name, some (Span.point place), none⟩) ++ scan.reports := by
  have folded (some : List Location) (scan : Scan) :
      (some.foldl (fun scan place => scan.report ⟨.unclosedGroup name, .some (Span.point place), none⟩) scan).reports =
        some.reverse.map (fun place => ⟨.unclosedGroup name, .some (Span.point place), none⟩) ++ scan.reports := by
    induction some generalizing scan with
    | nil => rfl
    | cons place others ih =>
        rw [List.foldl_cons, ih]
        simp [report]
  unfold reportUnclosed
  rw [folded, List.reverse_reverse]

theorem finish_unclosed (scan : Scan) (name : String) (place : Location) (unclosed : LeftOpen scan.groups name place) :
    ⟨.unclosedGroup name, some (Span.point place), none⟩ ∈ scan.finish.reports := by
  rw [finish_reports, reportUnclosed_reports, reportUnclosed_reports, reportUnclosed_reports]
  simp only [List.mem_append]
  cases unclosed with
  | paren _ member => exact .inr (.inr (.inl (List.mem_map.mpr ⟨place, member, rfl⟩)))
  | bracket _ member => exact .inr (.inl (List.mem_map.mpr ⟨place, member, rfl⟩))
  | brace _ member => exact .inl (List.mem_map.mpr ⟨place, member, rfl⟩)

theorem finish_grows (scan : Scan) : scan.reports <:+ scan.finish.reports := by
  rw [finish_reports, reportUnclosed_reports, reportUnclosed_reports, reportUnclosed_reports]
  exact (List.suffix_append _ _).trans ((List.suffix_append _ _).trans (List.suffix_append _ _))

end Reporting

end Scan

open Scan (Reaches Stuck Malformed Shows LeftOpen)

section Streams

variable {tabWidth : Nat} {currencies : List String} {file : Option String} {source : String} {stream : Stream}

theorem scan_error_iff (fault : Fault) :
    scan tabWidth currencies file source = .error fault ↔
      ∃ moment word blanks numeral rest,
        Reaches (dialectOf tabWidth currencies source) (Scan.start file source) moment ∧
        (trivia moment.ahead).openComment = none ∧
        Stuck (dialectOf tabWidth currencies source) (moment.passed (dialectOf tabWidth currencies source)) word blanks
          numeral rest ∧
        fault = .unreadableNumber (numberText numeral) := by
  have failed : scan tabWidth currencies file source = .error fault ↔
      (Scan.start file source).rounds (dialectOf tabWidth currencies source)
        (Scan.start file source).ahead.length = .error fault := by
    change ((Scan.start file source).rounds (dialectOf tabWidth currencies source)
      (Scan.start file source).ahead.length).map _ = .error fault ↔ _
    cases (Scan.start file source).rounds (dialectOf tabWidth currencies source)
        (Scan.start file source).ahead.length with
    | ok ended => simp [Except.map]
    | error other => simp [Except.map]
  rw [failed, Scan.rounds_error_iff _ (Nat.le_refl _)]
  simp only [Scan.round_error_iff]
  constructor
  · rintro ⟨moment, reaches, _, closed, word, blanks, numeral, rest, stuck, same⟩
    exact ⟨moment, word, blanks, numeral, rest, reaches, closed, stuck, same⟩
  · rintro ⟨moment, word, blanks, numeral, rest, reaches, closed, stuck, same⟩
    refine ⟨moment, reaches, fun none => ?_, closed, word, blanks, numeral, rest, stuck, same⟩
    obtain ⟨c, first, _⟩ := stuck.begins
    have empty : (moment.passed (dialectOf tabWidth currencies source)).ahead = [] := by
      rw [Scan.passed_ahead, none, List.drop_nil]
    have gone := stuck.ahead.symm.trans empty
    obtain ⟨others, rfl⟩ := List.head?_eq_some_iff.mp first
    cases gone

end Streams

-- A scan fails exactly if it comes to a currency code before a number that a digit without a place value
-- spoils. Otherwise it ends with the end of the file, and has reported all that is malformed on its way
-- and the brackets left open.
theorem scan_outcomes (tabWidth : Nat) (currencies : List String) (file : Option String)
    (source : String) :
    (∀ fault, scan tabWidth currencies file source = .error fault ↔
      ∃ moment word blanks numeral rest,
        Reaches (dialectOf tabWidth currencies source) (Scan.start file source) moment ∧
        (trivia moment.ahead).openComment = none ∧
        Stuck (dialectOf tabWidth currencies source) (moment.passed (dialectOf tabWidth currencies source))
          word blanks numeral rest ∧
        fault = .unreadableNumber (numberText numeral)) ∧
    ∀ stream, scan tabWidth currencies file source = .ok stream →
      WellFormed (dialectOf tabWidth currencies source) file source stream ∧
      (∀ moment issue span replaced,
        Reaches (dialectOf tabWidth currencies source) (Scan.start file source) moment →
        Malformed (dialectOf tabWidth currencies source) moment issue span replaced →
        Shows (dialectOf tabWidth currencies source) issue span replaced stream.tokens stream.reports) ∧
      ∃ ended, Reaches (dialectOf tabWidth currencies source) (Scan.start file source) ended ∧ ended.ahead = [] ∧
        ∀ name place, LeftOpen ended.groups name place →
          ⟨.unclosedGroup name, some (Span.point place), none⟩ ∈ stream.reports := by
  refine ⟨fun fault => scan_error_iff fault, fun stream scanned => ⟨?_, ?_, ?_⟩⟩
  · exact stream_well_formed tabWidth currencies file source stream scanned
  · intro moment issue span replaced reaches malformed
    obtain ⟨ended, goes, empty, tokens, reports⟩ := scan_ended.mp scanned
    have shows := (reaches.onto goes empty).shows empty malformed
    rw [tokens, reports]
    refine ⟨List.mem_reverse.mpr (ended.finish_grows.mem shows.reported), fun lexeme same => ?_⟩
    simp only [List.mem_append, List.mem_reverse]
    exact .inl (.inl (shows.marked lexeme same))
  · obtain ⟨ended, goes, empty, _, reports⟩ := scan_ended.mp scanned
    refine ⟨ended, goes, empty, fun name place unclosed => ?_⟩
    rw [reports, List.mem_reverse]
    exact ended.finish_unclosed name place unclosed

end Fiscal.Token
