import Fiscal.Proofs.Program.Bare
import Fiscal.Proofs.Token.Layout
import Fiscal.Proofs.Token.Lookahead

set_option autoImplicit false

namespace Fiscal.Token

open Source

namespace Groups

def bare (groups : Groups) : Groups :=
  ⟨groups.parens.map fun _ => default, groups.brackets.map fun _ => default, groups.braces.map fun _ => default⟩

@[simp] theorem bare_depth (groups : Groups) : groups.bare.depth = groups.depth := by
  simp [bare, depth]

theorem bare_after (groups : Groups) (place : Location) (kind : TokenKind) :
    (groups.after place kind).bare = groups.bare.after default kind := by
  cases kind <;> simp [after, bare]

end Groups

namespace Scan

section Lines

variable {first second next : Scan} {dialect dialectOther : Dialect} {count : Nat} {c : Char}
  {rest restOther : List Char}

inductive ReadAlike (first second : Scan) : Scan → Scan → Prop where
  | token (kind : TokenKind) (payload : Payload) (count : Nat) (reports others : List Diagnostic) (new : List Issue)
      (line : OneLine count first.ahead) (here : reports.map (·.issue) = new ++ first.reports.map (·.issue))
      (there : others.map (·.issue) = new ++ second.reports.map (·.issue)) :
      ReadAlike first second (first.reading kind payload count reports) (second.reading kind payload count others)

theorem reading_plain (scan : Scan) {kind : TokenKind} (plain : kind.isBracket = false) (payload : Payload)
    (count : Nat) (reports : List Diagnostic) :
    scan.reading kind payload count reports = { scan with reports := reports }.read kind payload count := by
  rw [reading, Groups.after_other _ _ _ plain]

namespace ReadAlike

theorem silent (line : OneLine count first.ahead) (kind : TokenKind) (payload : Payload) :
    ReadAlike first second (first.reading kind payload count first.reports)
      (second.reading kind payload count second.reports) :=
  .token kind payload count _ _ [] line rfl rfl

theorem read (line : OneLine count first.ahead) {kind : TokenKind} (plain : kind.isBracket = false)
    (payload : Payload) : ReadAlike first second (first.read kind payload count) (second.read kind payload count) := by
  have alike : ReadAlike first second _ _ := silent line kind payload
  rwa [reading_plain first plain, reading_plain second plain] at alike

theorem text (same : SameLine first.ahead second.ahead) (line : OneLine count first.ahead) (kind : TokenKind) :
    ReadAlike first second ({ first with groups := first.groups.after first.place kind }.readText kind count)
      ({ second with groups := second.groups.after second.place kind }.readText kind count) := by
  have alike : ReadAlike first second _ _ := silent line kind (.text (String.ofList (first.ahead.take count)))
  have payload : Payload.text (String.ofList (second.ahead.take count)) =
      .text (String.ofList (first.ahead.take count)) := by rw [same.take line]
  unfold readText
  dsimp only
  rw [payload]
  exact alike

theorem plainText (same : SameLine first.ahead second.ahead) (line : OneLine count first.ahead) {kind : TokenKind}
    (plain : kind.isBracket = false) :
    ReadAlike first second (first.readText kind count) (second.readText kind count) := by
  have alike := text same line kind
  rwa [Groups.after_other _ _ _ plain, Groups.after_other _ _ _ plain] at alike

theorem invalid (same : SameLine first.ahead second.ahead) (line : OneLine count first.ahead) (issue : Issue) :
    ReadAlike first second (first.readInvalid dialect issue count) (second.readInvalid dialectOther issue count) := by
  have there : second.readInvalid dialectOther issue count =
      second.reading .invalid (.text (String.ofList (first.ahead.take count))) count
        (⟨issue, some ⟨second.place, (second.advance count).place⟩, Text.line? dialectOther.lines second.place.line⟩ ::
          second.reports) := by
    rw [← same.take line]
    rfl
  rw [there]
  exact .token .invalid _ count (_ :: first.reports) _ [issue] line rfl rfl

end ReadAlike

theorem readNumber_alike (known : dialectOther.currencies = dialect.currencies)
    (depth : second.groups.depth = first.groups.depth) (same : SameLine first.ahead second.ahead) :
    ReadAlike first second (first.readNumber dialect) (second.readNumber dialectOther) := by
  have line := numberLength_oneLine (first.groups.depth == 0) first.ahead
  unfold readNumber
  rw [same.dateLength]
  split
  · rename_i count found
    exact .plainText same (dateLength_eq first.ahead count found).2 rfl
  · dsimp only
    rw [depth, same.numberLength, same.take line, known, (same.drop line).currencySuffix]
    split
    · exact .invalid same line _
    · split
      · rename_i code suffix found
        exact .read (line.append (currencySuffix_oneLine dialect.currencies _ code suffix found)) rfl _
      · exact .read line rfl _

theorem readWord_alike (known : dialectOther.currencies = dialect.currencies)
    (depth : second.groups.depth = first.groups.depth) (same : SameLine first.ahead second.ahead)
    (ran : first.readWord dialect = .ok next) :
    ∃ other, second.readWord dialectOther = .ok other ∧ ReadAlike first second next other := by
  have line := wordLength_oneLine first.ahead
  have behind := same.drop line
  have blanks := OneLine.takeWhile isInlineBlank (first.ahead.drop (wordLength first.ahead)) (by decide)
  have digits := numberLength_oneLine (first.groups.depth == 0) ((first.ahead.drop (wordLength first.ahead)).drop
    ((first.ahead.drop (wordLength first.ahead)).takeWhile isInlineBlank).length)
  unfold readWord at ran ⊢
  dsimp only at ran ⊢
  rw [same.wordLength, same.take line, behind.takeWhile SameLine.blanks_refuse, known, behind.digitAt_line blanks, depth,
    (behind.drop blanks).numberLength, (behind.drop blanks).take digits]
  split at ran
  · rename_i money
    rw [if_pos money]
    split at ran
    · cases ran
      refine ⟨_, rfl, .read ((line.append blanks).append ?_) rfl _⟩
      rw [← List.drop_drop]
      exact digits
    · cases ran
  · rename_i plain
    rw [if_neg plain]
    split at ran
    · rename_i kind found
      cases ran
      exact ⟨_, rfl, .read line (TokenKind.keyword_read _ kind found).2 _⟩
    · cases ran
      exact ⟨_, rfl, .plainText same line rfl⟩

theorem closeGroup_alike (groups : second.groups.bare = first.groups.bare) (same : SameLine first.ahead second.ahead)
    (line : OneLine 1 first.ahead) (kind : TokenKind) (name : String) (stack : Groups → List Location)
    (lengths : ∀ groups, (stack groups.bare).length = (stack groups).length)
    (unopened : ∀ groups place, stack groups = [] → groups.after place kind = groups) :
    ReadAlike first second
      (first.closeGroup dialect kind name (stack first.groups) (first.groups.after first.place kind))
      (second.closeGroup dialectOther kind name (stack second.groups) (second.groups.after second.place kind)) := by
  have many : (stack second.groups).length = (stack first.groups).length := by rw [← lengths, groups, lengths]
  have reported (scan : Scan) (dialect : Dialect) (none : stack scan.groups = []) :
      scan.closeGroup dialect kind name [] (scan.groups.after scan.place kind) =
        scan.reading kind (.text (String.ofList (scan.ahead.take 1))) 1
          (⟨.unopenedGroup name, some ⟨scan.place, scan.place.afterAll (scan.ahead.take 1)⟩,
            Text.line? dialect.lines scan.place.line⟩ :: scan.reports) := by
    rw [reading, unopened _ _ none]
    rfl
  cases here : stack first.groups with
  | nil =>
      rw [here] at many
      have there := List.eq_nil_of_length_eq_zero many
      rw [there, reported first dialect here, reported second dialectOther there, same.take line]
      exact .token kind _ 1 _ _ [.unopenedGroup name] line rfl rfl
  | cons place others =>
      rw [here] at many
      obtain ⟨placeOther, rest, there⟩ := List.exists_cons_of_length_eq_add_one many
      rw [there]
      exact .text same line kind

theorem pairKind_mark (c : Char) {mark : Char} (ends : mark = '\n' ∨ mark = '\r') : pairKind? c mark = none := by
  refine Option.eq_none_iff_forall_ne_some.mpr fun kind found => ?_
  unfold pairKind? at found
  split at found <;> first | exact absurd ends (by decide) | cases found

theorem pair_alike (same : SameLine rest restOther) (c : Char) :
    restOther.head?.bind (pairKind? c) = rest.head?.bind (pairKind? c) := by
  cases same with
  | nothing => rfl
  | cons => rfl
  | ended mark ends =>
      rw [List.head?_cons, List.head?_cons, Option.bind_some, Option.bind_some, pairKind_mark c ends,
        pairKind_mark c (.inl rfl)]

theorem readSymbol_alike (groups : second.groups.bare = first.groups.bare) (ahead : first.ahead = c :: rest)
    (aheadOther : second.ahead = c :: restOther) (later : SameLine rest restOther) (inline : c ≠ '\n') :
    ReadAlike first second (first.readSymbol dialect c rest.head?)
      (second.readSymbol dialectOther c restOther.head?) := by
  have same : SameLine first.ahead second.ahead := by
    rw [ahead, aheadOther]
    exact .cons c later
  have line := single_oneLine ahead inline
  unfold readSymbol
  rw [pair_alike later]
  split
  · rename_i kind found
    obtain ⟨next, head, pair⟩ := Option.bind_eq_some_iff.mp found
    obtain ⟨_, plain, _, _, behind⟩ := pairKind_read c next kind pair
    obtain ⟨others, rfl⟩ := List.head?_eq_some_iff.mp head
    refine .plainText same ?_ plain
    rw [ahead]
    exact .cons inline (.cons behind (.zero _))
  · dsimp only
    split
    · exact .text same line .leftParen
    · exact .text same line .leftBracket
    · exact .text same line .leftBrace
    · refine closeGroup_alike groups same line .rightParen _ (·.parens) (by simp [Groups.bare]) fun groups _ none => ?_
      rw [Groups.after, none, List.tail_nil, ← none]
    · refine closeGroup_alike groups same line .rightBracket _ (·.brackets) (by simp [Groups.bare])
        fun groups _ none => ?_
      rw [Groups.after, none, List.tail_nil, ← none]
    · refine closeGroup_alike groups same line .rightBrace _ (·.braces) (by simp [Groups.bare]) fun groups _ none => ?_
      rw [Groups.after, none, List.tail_nil, ← none]
    · split
      · rename_i kind found
        exact .plainText same line (singleKind_read c kind found).2.1
      · exact .invalid same line _

theorem readToken_ended (dialect : Dialect) (ahead : first.ahead = []) : first.readToken dialect = .ok first := by
  unfold readToken
  rw [ahead]

theorem readToken_feed (dialect : Dialect) (ahead : first.ahead = '\n' :: rest) :
    first.readToken dialect = .ok first.readNewline := by
  unfold readToken
  rw [ahead]
  rfl

theorem readToken_quote (dialect : Dialect) (ahead : first.ahead = c :: rest) (quotes : c = '"' ∨ c = '\'') :
    first.readToken dialect = .ok (first.readString dialect c) := by
  have inline : c ≠ '\n' := by rcases quotes with rfl | rfl <;> decide
  unfold readToken
  rw [ahead]
  dsimp only
  rw [if_neg inline, if_pos (by simpa using quotes)]

theorem readString_closed (dialect : Dialect) (untripled : first.ahead.take 3 ≠ [c, c, c])
    (closed : (StringBody.inline c (first.ahead.drop 1)).closed = true)
    (known : (StringBody.inline c (first.ahead.drop 1)).badEscapes = []) :
    first.readString dialect c =
      first.read .string (.text (String.ofList (StringBody.inline c (first.ahead.drop 1)).value))
        (1 + (StringBody.inline c (first.ahead.drop 1)).length) := by
  unfold readString
  simp only [untripled, if_false, closed, if_true, known, reportEscapes]

theorem readToken_alike (known : dialectOther.currencies = dialect.currencies)
    (groups : second.groups.bare = first.groups.bare) (ahead : first.ahead = c :: rest)
    (aheadOther : second.ahead = c :: restOther) (later : SameLine rest restOther) (inline : c ≠ '\n')
    (unquoted : ¬ (c = '"' ∨ c = '\'')) (ran : first.readToken dialect = .ok next) :
    ∃ other, second.readToken dialectOther = .ok other ∧ ReadAlike first second next other := by
  have same : SameLine first.ahead second.ahead := by
    rw [ahead, aheadOther]
    exact .cons c later
  have depth : second.groups.depth = first.groups.depth := by rw [← Groups.bare_depth, groups, Groups.bare_depth]
  unfold readToken at ran ⊢
  rw [ahead] at ran
  rw [aheadOther]
  dsimp only at ran ⊢
  rw [if_neg inline, if_neg (by simpa using unquoted)] at ran ⊢
  split at ran
  · rename_i digit
    cases ran
    rw [if_pos digit]
    exact ⟨_, rfl, readNumber_alike known depth same⟩
  · rename_i other
    rw [if_neg other]
    split at ran
    · rename_i begins
      rw [if_pos begins]
      exact readWord_alike known depth same ran
    · rename_i symbol
      cases ran
      rw [if_neg symbol]
      exact ⟨_, rfl, readSymbol_alike groups ahead aheadOther later inline⟩

end Lines

end Scan

namespace Scan

-- The second scan has `more` text ahead than the first. Both have read the same on top of some tokens.
structure Beside (more : List Char) (base baseOther : List Token) (first second : Scan) : Prop where
  ahead : second.ahead = first.ahead ++ more
  lineStart : second.lineStart = first.lineStart
  groups : second.groups.bare = first.groups.bare
  tokens : ∃ new, first.tokens.map Token.bare = new ++ base ∧ second.tokens.map Token.bare = new ++ baseOther
  issues : second.reports.map (·.issue) = first.reports.map (·.issue)

structure LineEnded (scan : Scan) : Prop where
  ended : scan.ahead = []
  lineStart : scan.lineStart = true
  newline : scan.groups.depth = 0 → ∃ token earlier, scan.tokens = token :: earlier ∧ token.kind = .newline

structure Onward (more : List Char) (base baseOther : List Token) (first second : Scan) : Prop where
  beside : Beside more base baseOther first second
  bounded : Bounded more first.ahead ∨ first.LineEnded

namespace Beside

variable {more : List Char} {base baseOther : List Token} {first second : Scan} {count : Nat}
  {dialect dialectOther : Dialect}

theorem depth (beside : Beside more base baseOther first second) : second.groups.depth = first.groups.depth := by
  rw [← Groups.bare_depth, beside.groups, Groups.bare_depth]

theorem advance (beside : Beside more base baseOther first second)
    (fits : more = [] ∨ count ≤ first.ahead.length) :
    Beside more base baseOther (first.advance count) (second.advance count) := by
  have passed : second.ahead.take count = first.ahead.take count := by
    rw [beside.ahead, Bounded.take_append fits]
  refine ⟨?_, ?_, beside.groups, beside.tokens, beside.issues⟩
  · rw [advance_ahead, advance_ahead, beside.ahead, Bounded.drop_append fits]
  · change (second.lineStart || _) = (first.lineStart || _)
    rw [passed, beside.lineStart]

theorem emit (beside : Beside more base baseOther first second) {token other : Token}
    (same : other.bare = token.bare) : Beside more base baseOther (first.emit token) (second.emit other) := by
  obtain ⟨new, here, there⟩ := beside.tokens
  refine ⟨beside.ahead, beside.lineStart, beside.groups, ⟨token.bare :: new, ?_, ?_⟩, beside.issues⟩
  · exact congrArg (List.cons _) here
  · change other.bare :: second.tokens.map Token.bare = token.bare :: (new ++ baseOther)
    rw [same, there]

theorem reportAt (beside : Beside more base baseOther first second) (issue : Issue) {span spanOther : Span} :
    Beside more base baseOther (first.reportAt dialect issue span) (second.reportAt dialectOther issue spanOther) :=
  ⟨beside.ahead, beside.lineStart, beside.groups, beside.tokens, congrArg (List.cons issue) beside.issues⟩

theorem lexeme (beside : Beside more base baseOther first second) (fits : more = [] ∨ count ≤ first.ahead.length) :
    String.ofList (second.ahead.take count) = String.ofList (first.ahead.take count) := by
  rw [beside.ahead, Bounded.take_append fits]

theorem read (beside : Beside more base baseOther first second) (kind : TokenKind) (payload : Payload)
    (fits : more = [] ∨ count ≤ first.ahead.length) :
    Beside more base baseOther (first.read kind payload count) (second.read kind payload count) := by
  refine (beside.advance fits).emit ?_
  rw [Token.bare, Token.bare, beside.lexeme fits]

theorem readInvalid (beside : Beside more base baseOther first second) (issue : Issue)
    (fits : more = [] ∨ count ≤ first.ahead.length) :
    Beside more base baseOther (first.readInvalid dialect issue count) (second.readInvalid dialectOther issue count) := by
  have reported : Beside more base baseOther
      ((first.advance count).reportAt dialect issue ⟨first.place, (first.advance count).place⟩)
      ((second.advance count).reportAt dialectOther issue ⟨second.place, (second.advance count).place⟩) :=
    (beside.advance fits).reportAt issue
  refine reported.emit ?_
  rw [Token.bare, Token.bare, beside.lexeme fits]

theorem reportEscapes (beside : Beside more base baseOther first second) (offset : Nat)
    (escapes : List (Nat × Option Char)) :
    Beside more base baseOther (first.reportEscapes dialect offset escapes)
      (second.reportEscapes dialectOther offset escapes) := by
  induction escapes generalizing first second with
  | nil => exact beside
  | cons escape others ih => exact ih (beside.reportAt _)

end Beside

section Reading

variable {more : List Char} {base baseOther : List Token} {first second next : Scan} {count : Nat} {c : Char}
  {rest : List Char} {dialect dialectOther : Dialect}

theorem Onward.read (beside : Beside more base baseOther first second) (bounded : Bounded more first.ahead)
    (kind : TokenKind) (payload : Payload) (within : more = [] ∨ count < first.ahead.length) :
    Onward more base baseOther (first.read kind payload count) (second.read kind payload count) :=
  ⟨beside.read kind payload (within.imp_right Nat.le_of_lt), .inl (bounded.drop_within within)⟩

theorem Onward.readInvalid (beside : Beside more base baseOther first second) (bounded : Bounded more first.ahead)
    (issue : Issue) (within : more = [] ∨ count < first.ahead.length) :
    Onward more base baseOther (first.readInvalid dialect issue count) (second.readInvalid dialectOther issue count) :=
  ⟨beside.readInvalid issue (within.imp_right Nat.le_of_lt), .inl (bounded.drop_within within)⟩

theorem ReadAlike.onward {other : Scan} (alike : ReadAlike first second next other)
    (beside : Beside more base baseOther first second) (bounded : Bounded more first.ahead) :
    Onward more base baseOther next other := by
  cases alike with
  | token kind payload count reports others new line here there =>
      have groups : (second.groups.after second.place kind).bare = (first.groups.after first.place kind).bare := by
        rw [Groups.bare_after, Groups.bare_after, beside.groups]
      have reported : Beside more base baseOther
          { first with groups := first.groups.after first.place kind, reports := reports }
          { second with groups := second.groups.after second.place kind, reports := others } :=
        ⟨beside.ahead, beside.lineStart, groups, beside.tokens, by rw [here, there, beside.issues]⟩
      exact .read reported bounded kind payload (bounded.within line)

theorem reportEscapes_kept (scan : Scan) (dialect : Dialect) (offset : Nat) (escapes : List (Nat × Option Char)) :
    (scan.reportEscapes dialect offset escapes).ahead = scan.ahead ∧
      (scan.reportEscapes dialect offset escapes).reports.length = scan.reports.length + escapes.length := by
  induction escapes generalizing scan with
  | nil => exact ⟨rfl, rfl⟩
  | cons escape others ih =>
      obtain ⟨ahead, length⟩ := ih (scan.reportAt dialect (.invalidEscape escape.2) _)
      refine ⟨ahead, length.trans ?_⟩
      simp only [reportAt, report, List.length_cons]
      omega

theorem readInvalid_length (scan : Scan) (dialect : Dialect) (issue : Issue) (count : Nat) :
    (scan.readInvalid dialect issue count).reports.length = scan.reports.length + 1 := rfl

theorem body_onward (beside : Beside more base baseOther first second) (bounded : Bounded more first.ahead)
    (opening : Nat) (body : StringBody) (kind : TokenKind) (issue : Issue)
    (within : more = [] ∨ opening + body.length < first.ahead.length) :
    Onward more base baseOther
      (if body.closed = true then
        (first.reportEscapes dialect opening body.badEscapes).read kind (.text (String.ofList body.value))
          (opening + body.length)
      else (first.reportEscapes dialect opening body.badEscapes).readInvalid dialect issue (opening + body.length))
      (if body.closed = true then
        (second.reportEscapes dialectOther opening body.badEscapes).read kind (.text (String.ofList body.value))
          (opening + body.length)
      else
        (second.reportEscapes dialectOther opening body.badEscapes).readInvalid dialectOther issue
          (opening + body.length)) := by
  have escaped : Beside more base baseOther (first.reportEscapes dialect opening body.badEscapes)
      (second.reportEscapes dialectOther opening body.badEscapes) := beside.reportEscapes opening body.badEscapes
  have same := (reportEscapes_kept first dialect opening body.badEscapes).1
  rw [← same] at bounded within
  split
  · exact .read escaped bounded kind _ within
  · exact .readInvalid escaped bounded issue within

theorem readString_onward (beside : Beside more base baseOther first second) (bounded : Bounded more first.ahead)
    (ahead : first.ahead = c :: rest) (quote : c = '"' ∨ c = '\'')
    (quiet : more = [] ∨ (first.readString dialect c).reports = first.reports) :
    Onward more base baseOther (first.readString dialect c) (second.readString dialectOther c) := by
  have inline : c ≠ '\n' := by rcases quote with rfl | rfl <;> decide
  have triples : second.ahead.take 3 = [c, c, c] ↔ first.ahead.take 3 = [c, c, c] := by
    rw [beside.ahead]
    exact bounded.sameLine.triple quote
  unfold readString at quiet ⊢
  by_cases triple : first.ahead.take 3 = [c, c, c]
  · simp only [triple, triples.mpr triple, if_true] at quiet ⊢
    have line : OneLine 3 first.ahead := by
      rw [OneLine, triple]
      simpa using Ne.symm inline
    have behind := bounded.drop line
    rw [beside.ahead, Bounded.drop_append (bounded.fits line)]
    by_cases closed : (StringBody.multiline c (first.ahead.drop 3)).closed = true
    · rw [StringBody.multiline_append closed]
      refine body_onward beside bounded 3 _ .multilineString .unterminatedMultilineString ?_
      refine (StringBody.multiline_within behind inline closed).imp_right fun within => ?_
      rw [List.length_drop] at within
      omega
    · -- A string that is left open is reported, so nothing follows.
      have none : more = [] := by
        refine quiet.resolve_right fun silent => ?_
        rw [if_neg closed] at silent
        have grown := (reportEscapes_kept first dialect 3 (StringBody.multiline c (first.ahead.drop 3)).badEscapes).2
        have same := congrArg List.length silent
        rw [readInvalid_length] at same
        omega
      subst none
      rw [List.append_nil]
      exact body_onward beside bounded 3 _ .multilineString .unterminatedMultilineString (.inl rfl)
  · simp only [triple, mt triples.mp triple, if_false] at quiet ⊢
    have line : OneLine (1 + (StringBody.inline c (first.ahead.drop 1)).length) first.ahead := by
      rw [ahead, Nat.add_comm]
      exact .cons inline (StringBody.inline_oneLine c inline _)
    have later : Bounded more (first.ahead.drop 1) := bounded.drop (single_oneLine ahead inline)
    rw [beside.ahead, Bounded.drop_append (.inr (by simp [ahead])), StringBody.inline_append later]
    exact body_onward beside bounded 1 _ .string .unterminatedString (bounded.within line)

theorem readNewline_onward (beside : Beside more base baseOther first second) (bounded : Bounded more first.ahead)
    (ahead : first.ahead = '\n' :: rest) : Onward more base baseOther first.readNewline second.readNewline := by
  have passed : Beside more base baseOther (first.advance 1) (second.advance 1) :=
    beside.advance (.inr (by simp [ahead]))
  have starts : (first.advance 1).lineStart = true := by
    change (first.lineStart || (first.ahead.take 1).contains '\n') = true
    simp [ahead]
  have left : (first.advance 1).ahead = rest := by simp [ahead]
  have next : Bounded more rest ∨ rest = [] := by
    cases rest with
    | nil => exact .inr rfl
    | cons =>
        rw [ahead] at bounded
        exact .inl (bounded.tail_of (List.cons_ne_nil _ _))
  unfold readNewline
  dsimp only
  rw [beside.depth]
  split
  · refine ⟨passed.emit rfl, next.imp (fun bounded => ?_) fun ended => ?_⟩
    · exact left.symm ▸ bounded
    · exact ⟨left.trans ended, starts, fun _ => ⟨_, _, rfl, rfl⟩⟩
  · rename_i inside
    refine ⟨passed, next.imp (fun bounded => left.symm ▸ bounded) fun ended => ?_⟩
    exact ⟨left.trans ended, starts, fun outside => absurd outside inside⟩

theorem readToken_onward (known : dialectOther.currencies = dialect.currencies)
    (beside : Beside more base baseOther first second) (bounded : Bounded more first.ahead)
    (ran : first.readToken dialect = .ok next) (quiet : more = [] ∨ next.reports = first.reports) :
    ∃ other, second.readToken dialectOther = .ok other ∧ Onward more base baseOther next other := by
  have same := beside.ahead
  cases ahead : first.ahead with
  | nil =>
      rw [readToken_ended dialect ahead] at ran
      cases ran
      have none := bounded
      rw [ahead] at none
      rw [ahead, none.nil] at same
      exact ⟨_, readToken_ended dialectOther same, beside, .inl bounded⟩
  | cons c rest =>
      rw [ahead, List.cons_append] at same
      by_cases feed : c = '\n'
      · subst feed
        rw [readToken_feed dialect ahead] at ran
        cases ran
        exact ⟨_, readToken_feed dialectOther same, readNewline_onward beside bounded ahead⟩
      · by_cases quote : c = '"' ∨ c = '\''
        · rw [readToken_quote dialect ahead quote] at ran
          cases ran
          exact ⟨_, readToken_quote dialectOther same quote, readString_onward beside bounded ahead quote quiet⟩
        · have later : Bounded more rest := by
            rw [ahead] at bounded
            exact bounded.tail feed
          obtain ⟨other, ranOther, alike⟩ :=
            readToken_alike known beside.groups ahead same later.sameLine feed quote ran
          exact ⟨other, ranOther, alike.onward beside bounded⟩

end Reading

section Rounds

variable {more : List Char} {base baseOther : List Token} {first second next : Scan}
  {dialect dialectOther : Dialect}

theorem Beside.atCode (beside : Beside more base baseOther first second) (bounded : Bounded more first.ahead) :
    second.atCode = first.atCode := by
  rw [Scan.atCode, Scan.atCode, beside.ahead, bounded.head_append]

theorem Beside.dedents (beside : Beside more base baseOther first second) {token other : Token}
    (same : other.bare = token.bare) (count : Nat) (indents indentsOther : List Nat) :
    Beside more base baseOther
      { first with indents := indents, tokens := List.replicate count token ++ first.tokens }
      { second with indents := indentsOther, tokens := List.replicate count other ++ second.tokens } := by
  obtain ⟨new, here, there⟩ := beside.tokens
  refine ⟨beside.ahead, beside.lineStart, beside.groups, ⟨List.replicate count token.bare ++ new, ?_, ?_⟩,
    beside.issues⟩
  · simp [here]
  · simp [there, same]

theorem settleIndent_beside (beside : Beside more base baseOther first second) (level : second.indents = first.indents)
    (width : Nat) (place placeOther : Location) :
    Beside more base baseOther (first.settleIndent width place) (second.settleIndent width placeOther) ∧
      (second.settleIndent width placeOther).indents = (first.settleIndent width place).indents := by
  unfold settleIndent
  rw [level]
  split
  · have deeper : Beside more base baseOther { first with indents := width :: first.indents }
        { second with indents := width :: first.indents } :=
      ⟨beside.ahead, beside.lineStart, beside.groups, beside.tokens, beside.issues⟩
    exact ⟨deeper.emit rfl, rfl⟩
  · refine ⟨beside.dedents ?_ _ _ _, rfl⟩
    rfl

theorem startLine_beside (beside : Beside more base baseOther first second) (bounded : Bounded more first.ahead)
    (level : second.indents = first.indents) (width : Nat) (place placeOther : Location) :
    Beside more base baseOther (first.startLine width place) (second.startLine width placeOther) ∧
      (second.startLine width placeOther).indents = (first.startLine width place).indents := by
  unfold startLine
  dsimp only
  rw [beside.atCode bounded, beside.depth]
  split
  · have begun : Beside more base baseOther { first with lineStart := false } { second with lineStart := false } :=
      ⟨beside.ahead, rfl, beside.groups, beside.tokens, beside.issues⟩
    split
    · exact settleIndent_beside begun level width place placeOther
    · exact ⟨begun, level⟩
  · exact ⟨beside, level⟩

theorem Reads.indents {scan next : Scan} (reads : scan.Reads next) : next.indents = scan.indents := by
  cases reads with
  | nothing => rfl
  | newline => exact readNewline_indents scan
  | token => rfl

theorem startLine_reports (scan : Scan) (width : Nat) (place : Location) :
    (scan.startLine width place).reports = scan.reports := by
  unfold startLine settleIndent
  dsimp only
  split
  · split
    · split <;> rfl
    · rfl
  · rfl

def passed (dialect : Dialect) (scan : Scan) : Scan :=
  if scan.lineStart then
    (scan.advance (trivia scan.ahead).length).startLine (indentWidth dialect.tabWidth scan.ahead) scan.place
  else scan.advance (trivia scan.ahead).length

theorem round_closed (dialect : Dialect) (scan : Scan) (closed : (trivia scan.ahead).openComment = none) :
    scan.round dialect = (scan.passed dialect).readToken dialect := by
  rw [round]
  dsimp only
  rw [closed]
  rfl

theorem passed_reports (dialect : Dialect) (scan : Scan) : (scan.passed dialect).reports = scan.reports := by
  unfold passed
  split
  · exact startLine_reports _ _ _
  · rfl

theorem passed_ahead (dialect : Dialect) (scan : Scan) :
    (scan.passed dialect).ahead = scan.ahead.drop (trivia scan.ahead).length := by
  unfold passed
  split
  · exact startLine_ahead _ _ _
  · rfl

theorem passed_beside (tabs : dialectOther.tabWidth = dialect.tabWidth)
    (beside : Beside more base baseOther first second) (bounded : Bounded more first.ahead)
    (level : second.indents = first.indents) (closed : (trivia first.ahead).openComment = none) :
    Beside more base baseOther (first.passed dialect) (second.passed dialectOther) ∧
      (second.passed dialectOther).indents = (first.passed dialect).indents := by
  obtain ⟨same, within⟩ := trivia_append bounded closed
  have advanced := beside.advance (within.imp_right Nat.le_of_lt)
  unfold passed
  rw [beside.lineStart, beside.ahead, same, bounded.indentWidth_append, tabs]
  split
  · exact startLine_beside advanced (bounded.drop_within within) level _ _ _
  · exact ⟨advanced, level⟩

theorem round_onward (tabs : dialectOther.tabWidth = dialect.tabWidth)
    (known : dialectOther.currencies = dialect.currencies) (beside : Beside more base baseOther first second)
    (bounded : Bounded more first.ahead) (level : second.indents = first.indents)
    (ran : first.round dialect = .ok next) (quiet : more = [] ∨ next.reports = first.reports) :
    ∃ other, second.round dialectOther = .ok other ∧ Onward more base baseOther next other ∧
      other.indents = next.indents := by
  cases closed : (trivia first.ahead).openComment with
  | none =>
      obtain ⟨same, within⟩ := trivia_append bounded closed
      have closedOther : (trivia second.ahead).openComment = none := by rw [beside.ahead, same, closed]
      rw [round_closed dialect first closed] at ran
      rw [round_closed dialectOther second closedOther]
      obtain ⟨passed, still⟩ := passed_beside tabs beside bounded level closed
      have behind : Bounded more (first.passed dialect).ahead := by
        rw [passed_ahead]
        exact bounded.drop_within within
      obtain ⟨other, ranOther, onward⟩ := readToken_onward known passed behind ran (by rwa [passed_reports])
      refine ⟨other, ranOther, onward, ?_⟩
      rw [(readToken_reads dialect _ next ran).indents, (readToken_reads dialectOther _ other ranOther).indents, still]
  | some offset =>
      -- A comment that is left open is reported, so nothing follows.
      have loud : first.round dialect =
          .ok ((first.advance offset).readInvalid dialect .unterminatedComment
            ((trivia first.ahead).length - offset)) := by
        rw [round]
        dsimp only
        rw [closed]
      cases loud.symm.trans ran
      have none : more = [] := by
        refine quiet.resolve_right fun silent => ?_
        have same := congrArg List.length silent
        rw [readInvalid_length] at same
        exact absurd same (Nat.succ_ne_self _)
      subst none
      have same : second.ahead = first.ahead := by rw [beside.ahead, List.append_nil]
      refine ⟨(second.advance offset).readInvalid dialectOther .unterminatedComment
        ((trivia first.ahead).length - offset), ?_, ⟨?_, .inl (.inl rfl)⟩, level⟩
      · rw [round, same]
        dsimp only
        rw [closed]
      · exact (beside.advance (.inl rfl)).readInvalid _ (.inl rfl)

end Rounds

end Scan

end Fiscal.Token
