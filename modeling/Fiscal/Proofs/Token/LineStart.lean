import Fiscal.Proofs.Token.Stream

set_option autoImplicit false

namespace Fiscal.Source.Location

theorem afterAll_line (place : Location) (chars : List Char) :
    (place.afterAll chars).line = place.line + chars.count '\n' := by
  unfold afterAll
  induction chars generalizing place with
  | nil => rfl
  | cons c rest ih =>
      rw [List.foldl_cons, ih, after, List.count_cons]
      by_cases feed : c = '\n'
      · simp only [feed, if_true, beq_self_eq_true]
        omega
      · simp [feed]

theorem afterAll_later (place : Location) (chars : List Char) (feeds : chars.contains '\n' = true) :
    place.line < (place.afterAll chars).line := by
  have positive : 0 < chars.count '\n' := List.count_pos_iff.mpr (List.contains_iff_mem.mp feeds)
  rw [afterAll_line]
  omega

theorem after_offset (place : Location) (c : Char) : (place.after c).offset = place.offset + 1 := by
  unfold after
  split <;> rfl

theorem afterAll_offset (place : Location) (chars : List Char) :
    (place.afterAll chars).offset = place.offset + chars.length := by
  unfold afterAll
  induction chars generalizing place with
  | nil => rfl
  | cons c rest ih =>
      rw [List.foldl_cons, ih, after_offset, List.length_cons]
      omega

end Fiscal.Source.Location

namespace Fiscal.Token

open Source

def Changes (token : Token) : Prop := token.kind = .indent ∨ token.kind = .dedent

def blanksAt (source : List Char) (place : Location) : List Char :=
  (source.drop place.offset).take (trivia (source.drop place.offset)).length

section Places

variable (source : List Char)

-- The tokens, latest first, after which a scan takes itself to be at the start of a line.
inductive LineStart : List Token → Prop where
  | first : LineStart []
  | line (latest : Token) (earlier : List Token)
      (ended : latest.kind = .newline ∨ latest.kind = .dedent) : LineStart (latest :: earlier)
  -- A string that goes over the end of a line.
  | string (latest : Token) (earlier : List Token) (kind : latest.kind = .multilineString)
      (feeds : latest.span.start.line < latest.span.stop.line) : LineStart (latest :: earlier)
  -- A token with comments over the end of a line between it and the token before.
  | comment (latest before : Token) (earlier : List Token) (read : latest.kind.isRead = true)
      (also : before.kind.isRead = true)
      (behind : latest.span.start = before.span.stop.afterAll (blanksAt source before.span.stop))
      (feeds : '\n' ∈ blanksAt source before.span.stop) : LineStart (latest :: before :: earlier)
  -- A NUL leaves the start of a line as it is.
  | nul (latest : Token) (earlier : List Token) (kind : latest.kind = .invalid)
      (lexeme : latest.lexeme = "\x00") (still : LineStart earlier) : LineStart (latest :: earlier)

def Placed (tokens : List Token) : Prop :=
  ∀ token earlier, token :: earlier <:+ tokens → Changes token → LineStart source earlier

end Places

namespace Placed

variable {source : List Char}

theorem nil : Placed source [] := by
  intro token earlier before
  cases List.suffix_nil.mp before

theorem cons {tokens : List Token} (placed : Placed source tokens) (latest : Token)
    (starts : Changes latest → LineStart source tokens) : Placed source (latest :: tokens) := by
  intro token earlier before changes
  rcases List.suffix_cons_iff.mp before with same | sooner
  · cases same
    exact starts changes
  · exact placed token earlier sooner changes

theorem dedents {tokens : List Token} (placed : Placed source tokens) (starts : LineStart source tokens)
    (token : Token) (kind : token.kind = .dedent) (count : Nat) :
    Placed source (List.replicate count token ++ tokens) := by
  have all : Placed source (List.replicate count token ++ tokens) ∧
      LineStart source (List.replicate count token ++ tokens) := by
    induction count with
    | zero => exact ⟨placed, starts⟩
    | succ count ih =>
        rw [List.replicate_succ, List.cons_append]
        exact ⟨ih.1.cons token fun _ => ih.2, .line token _ (.inr kind)⟩
  exact all.1

end Placed

theorem read_unchanging (token : Token) (read : token.kind.isRead = true) : ¬ Changes token := by
  rintro (kind | kind) <;> rw [kind] at read <;> cases read

theorem layout_cases (token : Token) (layout : token.kind.isLayout = true) :
    token.kind = .newline ∨ Changes token := by
  unfold Changes
  revert layout
  cases token.kind <;> decide

namespace Scan

section Invariant

variable (source : List Char) (scan : Scan)

def Follows : Prop :=
  ∃ latest earlier, scan.tokens = latest :: earlier ∧ latest.kind.isRead = true ∧
    latest.span.stop = scan.place

def PastComment : Prop :=
  ∃ latest earlier, scan.tokens = latest :: earlier ∧ latest.kind.isRead = true ∧
    scan.place = latest.span.stop.afterAll (blanksAt source latest.span.stop) ∧
    '\n' ∈ blanksAt source latest.span.stop

def Level : Prop := ∀ latest ∈ scan.tokens.head?, ¬ Changes latest

-- What holds between two rounds.
structure Tidy : Prop where
  ahead : scan.ahead = source.drop scan.place.offset
  placed : Placed source scan.tokens
  level : scan.Level
  quiet : scan.lineStart = false → scan.ahead ≠ [] → scan.Follows
  starts : scan.lineStart = true → scan.groups.depth = 0 → scan.ahead ≠ [] →
    LineStart source scan.tokens

structure Passed : Prop where
  ahead : scan.ahead = source.drop scan.place.offset
  placed : Placed source scan.tokens
  level : scan.atCode = false → scan.Level

def Pending : Prop :=
  scan.PastComment source ∨
    scan.atCode = false ∧ (scan.groups.depth = 0 → scan.ahead ≠ [] → LineStart source scan.tokens)

end Invariant

variable {source : List Char}

theorem advance_lineStart (scan : Scan) (count : Nat) :
    (scan.advance count).lineStart = (scan.lineStart || (scan.ahead.take count).contains '\n') := rfl

theorem advance_ahead_at (scan : Scan) (count : Nat)
    (ahead : scan.ahead = source.drop scan.place.offset) :
    (scan.advance count).ahead = source.drop (scan.advance count).place.offset := by
  change scan.ahead.drop count = source.drop (scan.place.afterAll (scan.ahead.take count)).offset
  rw [Location.afterAll_offset, ← List.drop_drop, ← ahead, List.length_take]
  rcases Nat.le_total count scan.ahead.length with within | beyond
  · rw [Nat.min_eq_left within]
  · rw [Nat.min_eq_right beyond, List.drop_length, List.drop_eq_nil_of_le beyond]

theorem advance_passed (scan : Scan) (count : Nat) (tidy : scan.Tidy source) :
    (scan.advance count).Passed source :=
  ⟨advance_ahead_at scan count tidy.ahead, tidy.placed, fun _ => tidy.level⟩

theorem advance_pending (scan : Scan) (tidy : scan.Tidy source) (more : scan.ahead ≠ [])
    (quiet : scan.lineStart = false)
    (pending : (scan.advance (trivia scan.ahead).length).lineStart = true) :
    (scan.advance (trivia scan.ahead).length).PastComment source := by
  rw [advance_lineStart, quiet, Bool.false_or] at pending
  obtain ⟨latest, earlier, tokens, read, stop⟩ := tidy.quiet quiet more
  have blanks : blanksAt source latest.span.stop = scan.ahead.take (trivia scan.ahead).length := by
    rw [blanksAt, stop, ← tidy.ahead]
  refine ⟨latest, earlier, tokens, read, ?_, ?_⟩
  · rw [blanks, stop]
    rfl
  · rw [blanks]
    exact List.contains_iff_mem.mp pending

theorem settleIndent_placed (scan : Scan) (width : Nat) (first : Location)
    (placed : Placed source scan.tokens) (starts : LineStart source scan.tokens) :
    Placed source (scan.settleIndent width first).tokens := by
  unfold settleIndent
  split
  · exact placed.cons _ fun _ => starts
  · exact placed.dedents starts _ rfl _

theorem startLine_code (scan : Scan) (width : Nat) (first : Location) (code : scan.atCode = true) :
    (scan.startLine width first).lineStart = false := by
  unfold startLine settleIndent
  rw [if_pos code]
  dsimp only
  split
  · split <;> rfl
  · rfl

@[simp] theorem startLine_place (scan : Scan) (width : Nat) (first : Location) :
    (scan.startLine width first).place = scan.place := by
  unfold startLine settleIndent
  dsimp only
  split
  · split
    · split <;> rfl
    · rfl
  · rfl

theorem startLine_placed (scan : Scan) (width : Nat) (first : Location) (code : scan.atCode = true)
    (placed : Placed source scan.tokens) (starts : scan.groups.depth = 0 → LineStart source scan.tokens) :
    Placed source (scan.startLine width first).tokens := by
  unfold startLine
  rw [if_pos code]
  dsimp only
  split
  · rename_i outside
    exact settleIndent_placed _ width first placed (starts outside)
  · exact placed

theorem newline_tidy (scan : Scan) (rest : List Char) (ahead : scan.ahead = '\n' :: rest)
    (passed : scan.Passed source) : scan.readNewline.Tidy source := by
  have waiting : scan.atCode = false := by
    rw [atCode, ahead]
    rfl
  have begun : (scan.advance 1).lineStart = true := by
    rw [advance_lineStart, ahead]
    simp
  have place := advance_ahead_at scan 1 passed.ahead
  unfold readNewline
  dsimp only
  split
  · refine ⟨place, passed.placed.cons _ ?_, ?_, ?_, fun _ _ _ => .line _ _ (.inl rfl)⟩
    · rintro (kind | kind) <;> cases kind
    · rintro latest same (kind | kind) <;> cases same <;> cases kind
    · intro quiet
      cases quiet.symm.trans begun
  · rename_i within
    refine ⟨place, passed.placed, passed.level waiting, fun quiet => ?_,
      fun _ outside => absurd outside within⟩
    cases quiet.symm.trans begun

theorem waiting_nul (scan : Scan) (c : Char) (rest : List Char) (count : Nat)
    (ahead : scan.ahead = c :: rest) (positive : 0 < count) (waiting : scan.atCode = false)
    (inline : '\n' ∉ scan.ahead.take count) : c = '\x00' := by
  have visible : c ≠ '\n' := by
    rintro rfl
    refine inline ?_
    rw [ahead, List.take_cons positive]
    exact List.mem_cons_self
  rw [atCode, ahead] at waiting
  simpa [visible] using waiting

theorem nul_starts (scan : Scan) (rest : List Char) (payload : Payload) (reports : List Diagnostic)
    (ahead : scan.ahead = '\x00' :: rest)
    (starts : scan.groups.depth = 0 → scan.ahead ≠ [] → LineStart source scan.tokens)
    (outside : (scan.reading .invalid payload 1 reports).groups.depth = 0) :
    LineStart source (scan.reading .invalid payload 1 reports).tokens := by
  have same : scan.groups.after scan.place .invalid = scan.groups := Groups.after_other _ _ _ rfl
  have depth : scan.groups.depth = 0 := by
    rw [← same]
    exact outside
  refine .nul _ _ rfl ?_ (starts depth (by rw [ahead]; exact List.cons_ne_nil _ _))
  change String.ofList (scan.ahead.take 1) = _
  rw [ahead]
  rfl

-- A token read within a line leaves no start of a line pending, but for a string over several lines,
-- a comment before it, and a NUL.
theorem token_starts (scan : Scan) (c : Char) (rest : List Char) (kind : TokenKind) (payload : Payload)
    (count : Nat) (reports : List Diagnostic) (ahead : scan.ahead = c :: rest) (read : kind.isRead = true)
    (positive : 0 < count)
    (lines : OneLine count scan.ahead ∨ kind = .multilineString ∨ scan.ahead.length ≤ count)
    (nul : c = '\x00' → kind = .invalid ∧ count = 1 ∨ scan.ahead.length ≤ count)
    (pending : scan.lineStart = true → scan.Pending source)
    (still : (scan.reading kind payload count reports).lineStart = true)
    (outside : (scan.reading kind payload count reports).groups.depth = 0)
    (more : (scan.reading kind payload count reports).ahead ≠ []) :
    LineStart source (scan.reading kind payload count reports).tokens := by
  have left : ¬ scan.ahead.length ≤ count := by
    intro all
    exact more (List.drop_eq_nil_iff.mpr all)
  change (scan.lineStart || (scan.ahead.take count).contains '\n') = true at still
  cases feeds : (scan.ahead.take count).contains '\n' with
  | true =>
      rcases lines with line | string | all
      · exact absurd (List.contains_iff_mem.mp feeds) line
      · exact .string _ _ string (scan.place.afterAll_later (scan.ahead.take count) feeds)
      · exact absurd all left
  | false =>
      rw [feeds, Bool.or_false] at still
      rcases pending still with ⟨before, earlier, tokens, also, behind, feed⟩ | ⟨waiting, starts⟩
      · change LineStart source (_ :: scan.tokens)
        rw [tokens]
        exact .comment _ before earlier read also behind feed
      · have zero := waiting_nul scan c rest count ahead positive waiting (by simpa using feeds)
        rcases nul zero with ⟨rfl, rfl⟩ | all
        · exact nul_starts scan rest payload reports (by rw [ahead, zero]) starts outside
        · exact absurd all left

theorem reads_tidy (scan next : Scan) (reads : scan.Reads next) (passed : scan.Passed source)
    (pending : next.ahead ≠ [] → scan.lineStart = true → scan.Pending source) : next.Tidy source := by
  cases reads with
  | nothing ended =>
      have waiting : scan.atCode = false := by
        rw [atCode, ended]
        rfl
      exact ⟨passed.ahead, passed.placed, passed.level waiting, fun _ more => absurd ended more,
        fun _ _ more => absurd ended more⟩
  | newline rest ahead => exact newline_tidy scan rest ahead passed
  | token c rest kind payload count reports ahead read positive lines nul =>
      refine ⟨advance_ahead_at scan count passed.ahead,
        passed.placed.cons _ fun changes => absurd changes (read_unchanging _ read), ?_,
        fun _ _ => ⟨_, _, rfl, read, rfl⟩, fun still outside more => ?_⟩
      · rintro latest same
        cases same
        exact read_unchanging _ read
      · exact token_starts scan c rest kind payload count reports ahead read positive lines nul
          (pending more) still outside more

theorem round_tidy (dialect : Dialect) (scan next : Scan) (ran : scan.round dialect = .ok next)
    (more : scan.ahead ≠ []) (tidy : scan.Tidy source) : next.Tidy source := by
  cases round_cases dialect scan next ran with
  | comment count _ reads ended =>
      exact reads_tidy _ next reads (advance_passed scan count tidy) fun more => absurd ended more
  | within _ quiet reads =>
      exact reads_tidy _ next reads (advance_passed scan _ tidy)
        fun _ pending => .inl (advance_pending scan tidy more quiet pending)
  | starts _ begun reads =>
      have passed := advance_passed scan (trivia scan.ahead).length tidy
      cases code : (scan.advance (trivia scan.ahead).length).atCode with
      | true =>
          have quiet := startLine_code _ (indentWidth dialect.tabWidth scan.ahead) scan.place code
          have placed := startLine_placed _ (indentWidth dialect.tabWidth scan.ahead) scan.place code
            passed.placed fun outside => tidy.starts begun outside more
          have same : ((scan.advance (trivia scan.ahead).length).startLine
              (indentWidth dialect.tabWidth scan.ahead) scan.place).atCode = true := by
            rw [atCode, startLine_ahead]
            exact code
          refine reads_tidy _ next reads ⟨?_, placed, fun waiting => ?_⟩ fun _ pending => ?_
          · rw [startLine_ahead, startLine_place]
            exact passed.ahead
          · cases waiting.symm.trans same
          · cases pending.symm.trans quiet
      | false =>
          rw [startLine, if_neg (by rw [code]; decide)] at reads
          exact reads_tidy _ next reads passed
            fun _ _ => .inr ⟨code, fun outside _ => tidy.starts begun outside more⟩

theorem rounds_tidy (dialect : Dialect) (file : Option String) (source : String) (count : Nat)
    (last : Scan) (ran : (start file source).rounds dialect count = .ok last) :
    last.Tidy source.toList := by
  have begun : (start file source).Tidy source.toList := by
    refine ⟨rfl, .nil, ?_, fun quiet => ?_, fun _ _ _ => .first⟩
    · rintro latest ⟨⟩
    · cases quiet
  exact rounds_keep dialect (Tidy source.toList)
    (fun scan next tidy more one => round_tidy dialect scan next one more tidy) count _ last begun ran

theorem closed_starts (scan : Scan) (tidy : scan.Tidy source) (closed : ¬ scan.lineOpen = true) :
    LineStart source scan.tokens := by
  cases tokens : scan.tokens with
  | nil => exact .first
  | cons latest earlier =>
      have layout : latest.kind.isLayout = true := by simpa [Scan.lineOpen, tokens] using closed
      have level := tidy.level latest (by rw [tokens]; rfl)
      rcases layout_cases latest layout with newline | changes
      · exact .line latest earlier (.inl newline)
      · exact absurd changes level

theorem closing_placed (scan : Scan) (tidy : scan.Tidy source) :
    Placed source (scan.closing.reverse ++ scan.tokens) := by
  have ended (tokens : List Token) (placed : Placed source tokens) (starts : LineStart source tokens) :
      Placed source (List.replicate (scan.indents.length - 1)
        ⟨.dedent, .none, "", ⟨scan.place, scan.place⟩⟩ ++ tokens) :=
    placed.dedents starts _ rfl _
  unfold closing
  by_cases lineOpen : scan.lineOpen = true
  · rw [if_pos lineOpen]
    have line : Placed source
        ((⟨.newline, .none, "", ⟨scan.place, scan.place⟩⟩ : Token) :: scan.tokens) := by
      refine tidy.placed.cons _ ?_
      rintro (kind | kind) <;> cases kind
    simpa using ended _ line (.line _ _ (.inl rfl))
  · rw [if_neg lineOpen]
    simpa using ended _ tidy.placed (closed_starts scan tidy lineOpen)

end Scan

-- Wherever the indentation changes, a line starts, or a scan has mistaken the place for the start of one.
theorem indentation_at_line_start (tabWidth : Nat) (currencies : List String) (file : Option String)
    (source : String) (stream : Stream)
    (scanned : scan tabWidth currencies file source = .ok stream) (before : List Token) (token : Token)
    (after : List Token) (split : stream.tokens = before ++ token :: after)
    (changes : token.kind = .indent ∨ token.kind = .dedent) :
    LineStart source.toList before.reverse := by
  obtain ⟨ended, ran, _, _, _, tokens⟩ := scan_cases tabWidth currencies file source stream scanned
  have placed := Scan.closing_placed ended (Scan.rounds_tidy _ file source _ ended ran)
  have all : Placed source.toList stream.tokens.reverse := by
    rw [tokens]
    simpa using placed.cons ended.ending (by rintro (kind | kind) <;> cases kind)
  refine all token before.reverse ⟨after.reverse, ?_⟩ changes
  rw [split]
  simp

theorem string_over_lines_indents :
    let source := "x = \"\"\"a\nb\"\"\" + 1"
    ∃ stream before token after, scan 4 [] none source = .ok stream ∧
      stream.tokens = before ++ token :: after ∧
      before.map (·.kind) = [.identifier, .equal, .multilineString] ∧ token.kind = .indent ∧
      after.map (·.kind) = [.plus, .number, .newline, .dedent, .endOfFile] ∧
      LineStart source.toList before.reverse := by
  intro source
  obtain ⟨stream, scanned, kinds⟩ := scanned_kinds (scan 4 [] none source)
    ([.identifier, .equal, .multilineString] ++ .indent :: [.plus, .number, .newline, .dedent, .endOfFile])
    (by decide +kernel)
  obtain ⟨before, others, split, first, later⟩ := List.map_eq_append_iff.mp kinds
  obtain ⟨token, after, rfl, indent, rest⟩ := List.map_eq_cons_iff.mp later
  exact ⟨stream, before, token, after, scanned, split, first, indent, rest,
    indentation_at_line_start 4 [] none source stream scanned before token after split (.inl indent)⟩

end Fiscal.Token
