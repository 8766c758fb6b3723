import Fiscal.Proofs.Token.Append

set_option autoImplicit false

namespace Fiscal.Token

open Source

-- Every line feed with a carriage return in front of it.
def withReturns (chars : List Char) : List Char := chars.flatMap fun c => if c = '\n' then ['\r', '\n'] else [c]

-- A token with the lines on which it begins and ends, and nothing else about its place.
def lined (token : Token) : Token × Nat × Nat := (token.bare, token.span.start.line, token.span.stop.line)

inductive Resumes : List Char → List Char → Prop where
  | ended : Resumes [] []
  | feed (rest : List Char) : Resumes ('\n' :: rest) ('\n' :: withReturns rest)
  | code (c : Char) (rest : List Char) (inline : c ≠ '\n') : Resumes (c :: rest) (c :: withReturns rest)

section Texts

variable {c : Char} {chars rest : List Char} {count : Nat}

theorem withReturns_feed (rest : List Char) : withReturns ('\n' :: rest) = '\r' :: '\n' :: withReturns rest := rfl

theorem withReturns_cons (inline : c ≠ '\n') (rest : List Char) : withReturns (c :: rest) = c :: withReturns rest := by
  rw [withReturns, List.flatMap_cons, if_neg inline]
  rfl

theorem withReturns_sameLine (chars : List Char) : SameLine chars (withReturns chars) := by
  induction chars with
  | nil => exact .nothing
  | cons c rest ih =>
      by_cases feed : c = '\n'
      · rw [feed, withReturns_feed]
        exact .ended '\r' (.inr rfl) _ _
      · rw [withReturns_cons feed]
        exact .cons c ih

theorem withReturns_drop (line : OneLine count chars) :
    (withReturns chars).drop count = withReturns (chars.drop count) := by
  induction chars generalizing count with
  | nil => rw [List.drop_nil, show withReturns [] = [] from rfl, List.drop_nil]
  | cons c rest ih =>
      cases count with
      | zero => rfl
      | succ count =>
          have inline : c ≠ '\n' := by
            rintro rfl
            exact line List.mem_cons_self
          rw [withReturns_cons inline, List.drop_succ_cons, List.drop_succ_cons]
          exact ih fun feed => line (List.mem_cons_of_mem c feed)

theorem withReturns_signs {others : List Char} (signs : withReturns chars = '#' :: '#' :: others) :
    ∃ rest, chars = '#' :: '#' :: rest := by
  have same := withReturns_sameLine chars
  rw [signs] at same
  cases same with
  | cons _ later =>
      cases later with
      | cons => exact ⟨_, rfl⟩
      | ended _ ends => exact absurd ends (by decide)
  | ended _ ends => exact absurd ends (by decide)

theorem indentWidth_returns (tabWidth : Nat) (chars : List Char) :
    indentWidth tabWidth (withReturns chars) = indentWidth tabWidth chars := by
  fun_induction indentWidth tabWidth chars with
  | case1 rest ih | case2 rest ih | case3 rest ih => rw [withReturns_cons (by decide), indentWidth, ih]
  | case4 chars space tab back =>
      cases chars with
      | nil => rfl
      | cons c rest =>
          by_cases feed : c = '\n'
          · rw [feed]
            rfl
          · rw [withReturns_cons feed]
            unfold indentWidth
            split <;> simp_all

end Texts

theorem Resumes.head {first second : List Char} (resumes : Resumes first second) : second.head? = first.head? := by
  cases resumes <;> rfl

theorem lined_same {span other : Span} (kind : TokenKind) (payload : Payload) (lexeme : String)
    (start : other.start.line = span.start.line) (stop : other.stop.line = span.stop.line) :
    lined ⟨kind, payload, lexeme, other⟩ = lined ⟨kind, payload, lexeme, span⟩ := by
  simp only [lined, Token.bare, start, stop]

section Skipping

inductive TriviaMode.Alike : TriviaMode → TriviaMode → Prop where
  | between : Alike .between .between
  | line : Alike .line .line
  | block (start other : Nat) : Alike (.block start) (.block other)

def Skips (mode modeOther : TriviaMode) (length lengthOther : Nat) (chars charsOther : List Char) : Prop :=
  ∃ passed passedOther rest restOther, chars = passed ++ rest ∧ charsOther = passedOther ++ restOther ∧
    Resumes rest restOther ∧ passedOther.count '\n' = passed.count '\n' ∧
    triviaFrom mode length chars = ⟨length + passed.length, none⟩ ∧
    triviaFrom modeOther lengthOther charsOther = ⟨lengthOther + passedOther.length, none⟩

variable {mode modeOther next nextOther : TriviaMode} {length lengthOther : Nat} {chars charsOther : List Char}

theorem Skips.behind (front frontOther : List Char)
    (later : Skips next nextOther (length + front.length) (lengthOther + frontOther.length) chars charsOther)
    (feeds : frontOther.count '\n' = front.count '\n')
    (here : triviaFrom mode length (front ++ chars) = triviaFrom next (length + front.length) chars)
    (there : triviaFrom modeOther lengthOther (frontOther ++ charsOther) =
      triviaFrom nextOther (lengthOther + frontOther.length) charsOther) :
    Skips mode modeOther length lengthOther (front ++ chars) (frontOther ++ charsOther) := by
  obtain ⟨passed, passedOther, rest, restOther, rfl, rfl, resumes, same, first, second⟩ := later
  refine ⟨front ++ passed, frontOther ++ passedOther, rest, restOther, by simp, by simp, resumes, ?_, ?_, ?_⟩
  · rw [List.count_append, List.count_append, feeds, same]
  · rw [here, first, List.length_append, Nat.add_assoc]
  · rw [there, second, List.length_append, Nat.add_assoc]

theorem Skips.stop (front : List Char) (back : front.count '\n' = 0) (resumes : Resumes chars charsOther)
    (here : triviaFrom mode length chars = ⟨length, none⟩)
    (there : triviaFrom modeOther lengthOther (front ++ charsOther) = ⟨lengthOther + front.length, none⟩) :
    Skips mode modeOther length lengthOther chars (front ++ charsOther) :=
  ⟨[], front, chars, charsOther, rfl, rfl, resumes, back, here, there⟩

theorem triviaFrom_returns (mode : TriviaMode) (length : Nat) (chars : List Char) (alike : mode.Alike modeOther)
    (closed : (triviaFrom mode length chars).openComment = none) :
    Skips mode modeOther length lengthOther chars (withReturns chars) := by
  fun_induction triviaFrom mode length chars generalizing modeOther lengthOther with
  | case1 length rest ih =>
      cases alike
      exact .behind ['#', '#', '#'] ['#', '#', '#'] (ih (.block _ _) closed) rfl rfl rfl
  | case2 length rest fewer ih =>
      cases alike
      refine .behind ['#'] ['#'] (ih .line closed) rfl (triviaFrom.eq_2 _ _ fewer) (triviaFrom.eq_2 _ _ ?_)
      intro others signs
      obtain ⟨_, same⟩ := withReturns_signs signs
      exact fewer _ same
  | case3 length c rest _ other blank ih =>
      cases alike
      have inline : c ≠ '\n' := by
        rintro rfl
        revert blank
        decide
      have blanks (length : Nat) (rest : List Char) :
          triviaFrom .between length (c :: rest) = triviaFrom .between (length + 1) rest := by
        rw [triviaFrom.eq_3 _ _ _ (fun _ sign => (other sign).elim) other, if_pos blank]
      rw [withReturns_cons inline]
      exact .behind [c] [c] (ih .between closed) rfl (blanks _ _) (blanks _ _)
  | case4 length c rest _ other code =>
      cases alike
      have stops (length : Nat) (rest : List Char) : triviaFrom .between length (c :: rest) = ⟨length, none⟩ := by
        rw [triviaFrom.eq_3 _ _ _ (fun _ sign => (other sign).elim) other, if_neg code]
      by_cases feed : c = '\n'
      · subst feed
        exact .stop ['\r'] rfl (.feed rest) (stops _ _) rfl
      · rw [withReturns_cons feed]
        exact .stop [] rfl (.code c rest feed) (stops _ _) (stops _ _)
  | case5 length =>
      cases alike
      exact .stop [] rfl .ended rfl rfl
  | case6 length rest =>
      cases alike
      exact .stop ['\r'] rfl (.feed rest) rfl rfl
  | case7 length c rest inline ih =>
      cases alike
      have goes (length : Nat) (rest : List Char) :
          triviaFrom .line length (c :: rest) = triviaFrom .line (length + 1) rest := by
        rw [triviaFrom, if_neg inline]
      rw [withReturns_cons inline]
      exact .behind [c] [c] (ih .line closed) rfl (goes _ _) (goes _ _)
  | case8 length =>
      cases alike
      exact .stop [] rfl .ended rfl rfl
  | case9 start length rest ih =>
      cases alike
      exact .behind ['#', '#', '#'] ['#', '#', '#'] (ih .between closed) rfl rfl rfl
  | case10 start length c rest fewer ih =>
      cases alike with
      | block _ other =>
        by_cases feed : c = '\n'
        · subst feed
          exact .behind ['\n'] ['\r', '\n'] (ih (.block _ _) closed) rfl rfl rfl
        · rw [withReturns_cons feed]
          refine .behind [c] [c] (ih (.block _ _) closed) rfl (triviaFrom.eq_8 _ _ _ _ fewer)
            (triviaFrom.eq_8 _ _ _ _ fun others sign signs => ?_)
          obtain ⟨_, same⟩ := withReturns_signs signs
          exact fewer _ sign same
  | case11 => cases closed

end Skipping

namespace Scan

-- Two scans of a text, without the carriage returns and with them: nothing but columns and offsets differs.
structure Matches (first second : Scan) : Prop where
  line : second.place.line = first.place.line
  lineStart : second.lineStart = first.lineStart
  indents : second.indents = first.indents
  groups : second.groups.bare = first.groups.bare
  tokens : second.tokens.map lined = first.tokens.map lined
  issues : second.reports.map (·.issue) = first.reports.map (·.issue)

namespace Matches

variable {first second : Scan} {count countOther : Nat}

theorem depth (same : Matches first second) : second.groups.depth = first.groups.depth := by
  rw [← Groups.bare_depth, same.groups, Groups.bare_depth]

theorem advance (same : Matches first second)
    (feeds : (second.ahead.take countOther).count '\n' = (first.ahead.take count).count '\n') :
    Matches (first.advance count) (second.advance countOther) := by
  refine ⟨?_, ?_, same.indents, same.groups, same.tokens, same.issues⟩
  · change (second.place.afterAll _).line = (first.place.afterAll _).line
    rw [Location.afterAll_line, Location.afterAll_line, feeds, same.line]
  · have fed (chars : List Char) : chars.contains '\n' = decide (0 < chars.count '\n') := by
      rw [Bool.eq_iff_iff, List.contains_iff_mem, decide_eq_true_eq, List.count_pos_iff]
    rw [advance_lineStart, advance_lineStart, fed, fed, feeds, same.lineStart]

theorem emit (same : Matches first second) {token other : Token} (equal : lined other = lined token) :
    Matches (first.emit token) (second.emit other) :=
  ⟨same.line, same.lineStart, same.indents, same.groups, by simpa [Scan.emit, equal] using same.tokens, same.issues⟩

theorem settleIndent (same : Matches first second) (width : Nat) {place placeOther : Location}
    (line : placeOther.line = place.line) :
    Matches (first.settleIndent width place) (second.settleIndent width placeOther) := by
  have spans (kind : TokenKind) : lined ⟨kind, .none, "", ⟨placeOther, second.place⟩⟩ =
      lined ⟨kind, .none, "", ⟨place, first.place⟩⟩ := lined_same kind .none "" line same.line
  unfold Scan.settleIndent
  rw [same.indents]
  split
  · have deeper : Matches { first with indents := width :: first.indents }
        { second with indents := width :: first.indents } :=
      ⟨same.line, same.lineStart, rfl, same.groups, same.tokens, same.issues⟩
    exact deeper.emit (spans .indent)
  · refine ⟨same.line, same.lineStart, rfl, same.groups, ?_, same.issues⟩
    dsimp only
    rw [List.map_append, List.map_append, List.map_replicate, List.map_replicate, spans, same.tokens]

theorem startLine (same : Matches first second) (code : second.atCode = first.atCode) (width : Nat)
    {place placeOther : Location} (line : placeOther.line = place.line) :
    Matches (first.startLine width place) (second.startLine width placeOther) := by
  unfold Scan.startLine
  dsimp only
  rw [code, same.depth]
  split
  · have begun : Matches { first with lineStart := false } { second with lineStart := false } :=
      ⟨same.line, rfl, same.indents, same.groups, same.tokens, same.issues⟩
    split
    · exact begun.settleIndent width line
    · exact begun
  · exact same

end Matches

section Reading

variable {first second next other : Scan} {dialect dialectOther : Dialect} {c : Char} {rest : List Char}

theorem ReadAlike.matches (alike : ReadAlike first second next other) (same : Matches first second)
    (ahead : second.ahead = withReturns first.ahead) :
    Matches next other ∧ other.ahead = withReturns next.ahead := by
  cases alike with
  | token kind payload count reports others new line here there =>
      have passed := (withReturns_sameLine first.ahead).take line
      rw [← ahead] at passed
      have groups : (second.groups.after second.place kind).bare = (first.groups.after first.place kind).bare := by
        rw [Groups.bare_after, Groups.bare_after, same.groups]
      have reported : Matches { first with groups := first.groups.after first.place kind, reports := reports }
          { second with groups := second.groups.after second.place kind, reports := others } :=
        ⟨same.line, same.lineStart, same.indents, groups, same.tokens, by rw [here, there, same.issues]⟩
      have advanced := reported.advance (congrArg (List.count '\n') passed)
      refine ⟨advanced.emit ?_, ?_⟩
      · rw [passed]
        exact lined_same kind payload _ same.line advanced.line
      · change second.ahead.drop count = withReturns (first.ahead.drop count)
        rw [ahead, withReturns_drop line]

theorem Matches.readNewline (same : Matches first second) (ahead : first.ahead = '\n' :: rest)
    (aheadOther : second.ahead = '\n' :: withReturns rest) :
    Matches first.readNewline second.readNewline ∧ second.readNewline.ahead = withReturns first.readNewline.ahead := by
  have advanced : Matches (first.advance 1) (second.advance 1) := same.advance (by simp [ahead, aheadOther])
  refine ⟨?_, by simp [ahead, aheadOther]⟩
  unfold Scan.readNewline
  dsimp only
  rw [same.depth]
  split
  · exact advanced.emit (lined_same .newline .none _ same.line advanced.line)
  · exact advanced

theorem readInvalid_loud (scan : Scan) (dialect : Dialect) (issue : Issue) (count : Nat) :
    (scan.readInvalid dialect issue count).reports ≠ [] := List.cons_ne_nil _ _

theorem reportEscapes_clean {offset : Nat} {escapes : List (Nat × Option Char)}
    (quiet : (first.reportEscapes dialect offset escapes).reports = []) : escapes = [] := by
  have grown := (reportEscapes_kept first dialect offset escapes).2
  rw [quiet, List.length_nil] at grown
  exact List.eq_nil_of_length_eq_zero (by omega)

structure Clean (scan : Scan) : Prop where
  quiet : scan.reports = []
  inline : ∀ token ∈ scan.tokens, token.kind ≠ .multilineString

theorem Clean.earlier (clean : next.Clean) (tokens : first.tokens <:+ next.tokens)
    (reports : first.reports <:+ next.reports) : first.Clean :=
  ⟨List.suffix_nil.mp (clean.quiet ▸ reports), fun token member => clean.inline token (tokens.subset member)⟩

theorem readString_clean (clean : (first.readString dialect c).Clean) :
    first.ahead.take 3 ≠ [c, c, c] ∧ (StringBody.inline c (first.ahead.drop 1)).closed = true ∧
      (StringBody.inline c (first.ahead.drop 1)).badEscapes = [] := by
  by_cases triple : first.ahead.take 3 = [c, c, c]
  · refine absurd clean ?_
    unfold readString
    simp only [triple, if_true]
    split
    · exact fun clean => clean.inline _ List.mem_cons_self rfl
    · exact fun clean => readInvalid_loud _ _ _ _ clean.quiet
  · by_cases closed : (StringBody.inline c (first.ahead.drop 1)).closed = true
    · have quiet := clean.quiet
      unfold readString at quiet
      simp only [triple, if_false, closed, if_true] at quiet
      exact ⟨triple, closed, reportEscapes_clean quiet⟩
    · refine absurd clean ?_
      unfold readString
      simp only [triple, if_false, closed, Bool.false_eq_true]
      exact fun clean => readInvalid_loud _ _ _ _ clean.quiet

theorem readString_alike (ahead : first.ahead = c :: rest) {restOther : List Char}
    (aheadOther : second.ahead = c :: restOther) (later : SameLine rest restOther) (quotes : c = '"' ∨ c = '\'')
    (clean : (first.readString dialect c).Clean) :
    ReadAlike first second (first.readString dialect c) (second.readString dialectOther c) := by
  have inline : c ≠ '\n' := by rcases quotes with rfl | rfl <;> decide
  have same : SameLine first.ahead second.ahead := by
    rw [ahead, aheadOther]
    exact .cons c later
  obtain ⟨untripled, closed, known⟩ := readString_clean clean
  have body : StringBody.inline c (second.ahead.drop 1) = StringBody.inline c (first.ahead.drop 1) :=
    SameLine.inline quotes (same.drop (single_oneLine ahead inline)) closed
  have line : OneLine (1 + (StringBody.inline c (first.ahead.drop 1)).length) first.ahead := by
    rw [ahead, Nat.add_comm]
    exact .cons inline (StringBody.inline_oneLine c inline _)
  rw [readString_closed dialect untripled closed known,
    readString_closed dialectOther (mt (SameLine.triple quotes same).mp untripled) (by rw [body, closed])
      (by rw [body, known]), body]
  exact .read line rfl _

theorem Matches.readToken (same : Matches first second) (known : dialectOther.currencies = dialect.currencies)
    (resumes : Resumes first.ahead second.ahead) (ran : first.readToken dialect = .ok next) (clean : next.Clean) :
    ∃ other, second.readToken dialectOther = .ok other ∧ Matches next other ∧ other.ahead = withReturns next.ahead := by
  generalize here : first.ahead = chars at resumes
  generalize there : second.ahead = charsOther at resumes
  cases resumes with
  | ended =>
      rw [readToken_ended dialect here] at ran
      cases ran
      exact ⟨second, readToken_ended dialectOther there, same, by rw [here, there]; rfl⟩
  | feed rest =>
      rw [readToken_feed dialect here] at ran
      cases ran
      obtain ⟨matched, ahead⟩ := same.readNewline here there
      exact ⟨_, readToken_feed dialectOther there, matched, ahead⟩
  | code c rest inline =>
      have later := withReturns_sameLine rest
      have ahead : second.ahead = withReturns first.ahead := by rw [there, here, withReturns_cons inline]
      by_cases quotes : c = '"' ∨ c = '\''
      · rw [readToken_quote dialect here quotes] at ran
        cases ran
        have alike : ReadAlike first second _ (second.readString dialectOther c) :=
          readString_alike here there later quotes clean
        exact ⟨_, readToken_quote dialectOther there quotes, alike.matches same ahead⟩
      · obtain ⟨other, ranOther, alike⟩ := readToken_alike known same.groups here there later inline quotes ran
        exact ⟨other, ranOther, alike.matches same ahead⟩

end Reading

section Rounds

variable {first second next last : Scan} {dialect dialectOther : Dialect}

theorem Matches.passed (same : Matches first second) (tabs : dialectOther.tabWidth = dialect.tabWidth)
    (ahead : second.ahead = withReturns first.ahead) (closed : (trivia first.ahead).openComment = none) :
    (trivia second.ahead).openComment = none ∧ Matches (first.passed dialect) (second.passed dialectOther) ∧
      Resumes (first.passed dialect).ahead (second.passed dialectOther).ahead := by
  obtain ⟨blanks, blanksOther, rest, restOther, here, there, resumes, feeds, skipped, skippedOther⟩ :
      Skips .between .between 0 0 first.ahead (withReturns first.ahead) :=
    triviaFrom_returns .between 0 first.ahead .between closed
  rw [Nat.zero_add] at skipped skippedOther
  rw [← ahead] at there skippedOther
  have length : (trivia first.ahead).length = blanks.length := congrArg Trivia.length skipped
  have lengthOther : (trivia second.ahead).length = blanksOther.length := congrArg Trivia.length skippedOther
  have left : first.ahead.drop (trivia first.ahead).length = rest := by rw [length, here, List.drop_left]
  have leftOther : second.ahead.drop (trivia second.ahead).length = restOther := by
    rw [lengthOther, there, List.drop_left]
  have advanced :
      Matches (first.advance (trivia first.ahead).length) (second.advance (trivia second.ahead).length) := by
    refine same.advance ?_
    rw [length, lengthOther, here, there, List.take_left, List.take_left, feeds]
  refine ⟨congrArg Trivia.openComment skippedOther, ?_, by rwa [passed_ahead, passed_ahead, left, leftOther]⟩
  have code : (second.advance (trivia second.ahead).length).atCode =
      (first.advance (trivia first.ahead).length).atCode := by
    rw [atCode, atCode, advance_ahead, advance_ahead, left, leftOther, resumes.head]
  unfold Scan.passed
  rw [same.lineStart, show indentWidth dialectOther.tabWidth second.ahead = indentWidth dialect.tabWidth first.ahead by
    rw [tabs, ahead, indentWidth_returns]]
  split
  · exact advanced.startLine code _ same.line
  · exact advanced

theorem Matches.round (same : Matches first second) (tabs : dialectOther.tabWidth = dialect.tabWidth)
    (known : dialectOther.currencies = dialect.currencies) (ahead : second.ahead = withReturns first.ahead)
    (ran : first.round dialect = .ok next) (clean : next.Clean) :
    ∃ other, second.round dialectOther = .ok other ∧ Matches next other ∧ other.ahead = withReturns next.ahead := by
  cases closed : (trivia first.ahead).openComment with
  | none =>
      obtain ⟨closedOther, passed, resumes⟩ := same.passed tabs ahead closed
      rw [round_closed dialect first closed] at ran
      rw [round_closed dialectOther second closedOther]
      exact passed.readToken known resumes ran clean
  | some offset =>
      -- A comment that is left open is reported.
      rw [Scan.round, closed] at ran
      cases ran
      exact absurd clean.quiet (readInvalid_loud _ _ _ _)

-- Round by round, as long as nothing is reported and no string has line ends in it.
theorem Reaches.matches (reaches : Reaches dialect first last) (clean : last.Clean)
    (tabs : dialectOther.tabWidth = dialect.tabWidth) (known : dialectOther.currencies = dialect.currencies)
    (same : Matches first second) (ahead : second.ahead = withReturns first.ahead) :
    ∃ other, Reaches dialectOther second other ∧ Matches last other ∧ other.ahead = withReturns last.ahead := by
  induction reaches generalizing second with
  | refl => exact ⟨second, .refl _, same, ahead⟩
  | step first next last more ran later ih =>
      obtain ⟨middle, ranOther, still, left⟩ :=
        same.round tabs known ahead ran (clean.earlier later.grows.1 later.grows.2)
      obtain ⟨other, reached, done⟩ := ih clean still left
      refine ⟨other, .step second middle other ?_ ranOther reached, done⟩
      intro none
      have line := withReturns_sameLine first.ahead
      rw [← ahead, none] at line
      generalize first.ahead = chars at more line
      cases line
      exact more rfl

theorem Matches.closing (same : Matches first second) :
    second.closing.map lined = first.closing.map lined ∧ lined second.ending = lined first.ending := by
  have placed (kind : TokenKind) : lined ⟨kind, .none, "", ⟨second.place, second.place⟩⟩ =
      lined ⟨kind, .none, "", ⟨first.place, first.place⟩⟩ := lined_same kind .none "" same.line same.line
  have opened : second.lineOpen = first.lineOpen := by
    have bare (tokens : List Token) : tokens.map Token.bare = (tokens.map lined).map (·.1) := by
      rw [List.map_map]
      rfl
    rw [lineOpen_bare, lineOpen_bare, bare, bare, same.tokens]
  refine ⟨?_, placed .endOfFile⟩
  unfold Scan.closing
  rw [opened, same.indents, List.map_append, List.map_append, List.map_replicate, List.map_replicate, placed]
  split
  · rw [List.map_singleton, List.map_singleton, placed]
  · rfl

end Rounds

end Scan

-- A text that is scanned without a report and has no string in triple quotes: with a carriage return in front
-- of each line feed it is scanned without a report too, to the same tokens on the same lines.
theorem line_ends_immaterial (tabWidth : Nat) (currencies : List String) (file : Option String) (source : String)
    (stream : Stream) (scanned : scan tabWidth currencies file source = .ok stream) (quiet : stream.reports = [])
    (inline : ∀ token ∈ stream.tokens, token.kind ≠ .multilineString) :
    ∃ other, scan tabWidth currencies file (String.ofList (withReturns source.toList)) = .ok other ∧
      other.reports = [] ∧ other.tokens.map lined = stream.tokens.map lined := by
  obtain ⟨ended, reaches, empty, tokens, reports⟩ := scan_ended.mp scanned
  obtain ⟨silent, outside⟩ := Scan.finish_quiet (List.reverse_eq_nil_iff.mp (reports.symm.trans quiet))
  have clean : ended.Clean := by
    refine ⟨silent, fun token member => inline token ?_⟩
    rw [tokens, List.append_assoc]
    exact List.mem_append_left _ (List.mem_reverse.mpr member)
  obtain ⟨last, reached, same, left⟩ :
      ∃ last, Scan.Reaches (dialectOf tabWidth currencies (String.ofList (withReturns source.toList)))
        (Scan.start file (String.ofList (withReturns source.toList))) last ∧
        Scan.Matches ended last ∧ last.ahead = withReturns ended.ahead :=
    reaches.matches clean rfl rfl ⟨rfl, rfl, rfl, rfl, rfl, rfl⟩ String.toList_ofList
  have quietOther : last.finish.reports = [] := by
    have earlier := same.issues
    have issues := last.finish_issues
    rw [silent, List.map_nil] at earlier
    rw [earlier, Groups.none_of_depth (same.depth.trans outside)] at issues
    exact List.map_eq_nil_iff.mp issues
  refine ⟨⟨last.tokens.reverse ++ last.closing ++ [last.ending], last.finish.reports.reverse⟩,
    scan_ended.mpr ⟨last, reached, by rw [left, empty]; rfl, rfl, rfl⟩, by rw [quietOther]; rfl, ?_⟩
  obtain ⟨closing, ending⟩ := same.closing
  simp only [tokens, List.map_append, List.map_reverse, same.tokens, closing, List.map_singleton, ending]

theorem returned_lines_scanned :
    let source := "### a\nb ###\nx = [1,000\n  2.5\n]\n\n  'y' # z\n    USD 7\n12,345\n678 EUR\nv\n2024-01-15"
    let kinds : List TokenKind := [.newline, .identifier, .equal, .leftBracket, .number, .comma, .number, .number,
      .rightBracket, .newline, .newline, .indent, .string, .newline, .indent, .money, .newline, .dedent, .dedent,
      .number, .newline, .money, .newline, .identifier, .newline, .date, .newline, .endOfFile]
    ∃ stream other, scan 4 [] none source = .ok stream ∧ stream.tokens.map (·.kind) = kinds ∧
      scan 4 [] none (String.ofList (withReturns source.toList)) = .ok other ∧ other.reports = [] ∧
      other.tokens.map lined = stream.tokens.map lined := by
  intro source kinds
  obtain ⟨stream, scanned, facts⟩ := scanned_such (scan 4 [] none source)
    (fun stream => stream.reports.isEmpty && stream.tokens.map (·.kind) == kinds) (by decide +kernel)
  obtain ⟨quiet, same⟩ := Bool.and_eq_true_iff.mp facts
  have inline : ∀ token ∈ stream.tokens, token.kind ≠ .multilineString := by
    intro token member multiline
    have among := List.mem_map_of_mem (f := (·.kind)) member
    rw [eq_of_beq same, multiline] at among
    exact absurd among (by decide)
  obtain ⟨other, scannedOther, quietOther, lines⟩ :=
    line_ends_immaterial 4 [] none source stream scanned (List.isEmpty_iff.mp quiet) inline
  exact ⟨stream, other, scanned, eq_of_beq same, scannedOther, quietOther, lines⟩

end Fiscal.Token
