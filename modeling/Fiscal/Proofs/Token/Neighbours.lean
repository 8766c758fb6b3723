import Fiscal.Proofs.Token.Coverage

set_option autoImplicit false

namespace Fiscal.Source.Location

theorem afterAll_column (place : Location) (chars : List Char) (inline : '\n' ∉ chars) :
    (place.afterAll chars).column = place.column + chars.length := by
  induction chars generalizing place with
  | nil => rfl
  | cons c rest ih =>
      rw [List.mem_cons, not_or] at inline
      have moved : (place.after c).column = place.column + 1 := by
        rw [after, if_neg (Ne.symm inline.1)]
      change ((place.after c).afterAll rest).column = _
      rw [ih _ inline.2, moved, List.length_cons]
      omega

theorem afterAll_same_line (place : Location) (chars : List Char) (inline : '\n' ∉ chars) :
    (place.afterAll chars).line = place.line := by
  rw [afterAll_line, List.count_eq_zero.mpr inline, Nat.add_zero]

end Fiscal.Source.Location

namespace Fiscal.Token

open Source

structure Opens (before : List Token) (token : Token) : Prop where
  read : token.kind.isRead = true
  first : ∀ earlier ∈ before, earlier.kind.isRead = true → earlier.span.stop.line < token.span.start.line
  outside : (openGroups before).depth = 0

-- Two code lines, each known by its first token, with no other code line between them.
structure Neighbours (before : List Token) (first : Token) (between : List Token) (second : Token) : Prop where
  upper : Opens before first
  lower : Opens (before ++ first :: between) second
  next : ∀ line token others, between = line ++ token :: others → ¬ Opens (before ++ first :: line) token

theorem Neighbours.of_layout {before between : List Token} {first second : Token} (upper : Opens before first)
    (lower : Opens (before ++ first :: between) second) (layout : ∀ token ∈ between, token.kind.isRead = false) :
    Neighbours before first between second := by
  refine ⟨upper, lower, fun line token others split opens => ?_⟩
  have unread := layout token (by simp [split])
  cases unread.symm.trans opens.read

section Widths

variable (tabWidth : Nat) (source : List Char)

def lineWidth (place : Location) : Nat :=
  indentWidth tabWidth (source.drop (place.offset - (place.column - 1)))

def changeWidths (widths : List Nat) (token : Token) : List Nat :=
  match token.kind with
  | .indent => lineWidth tabWidth source token.span.start :: widths
  | .dedent => widths.tail
  | _ => widths

-- The widths of the indentations that tokens leave open, innermost first, down to zero.
def openWidths (tokens : List Token) : List Nat := tokens.foldl (changeWidths tabWidth source) [0]

-- What a line of some width does to the open widths, and the tokens for it, latest first.
inductive Settles (width : Nat) : List Nat → List Token → List Nat → Prop where
  | deeper (level : Nat) (outer : List Nat) (indent : Token) (kind : indent.kind = .indent)
      (wide : lineWidth tabWidth source indent.span.start = width) (below : level < width) :
      Settles width (level :: outer) [indent] (width :: level :: outer)
  | back (left : List Nat) (level : Nat) (outer : List Nat) (dedents : List Token)
      (kinds : ∀ token ∈ dedents, token.kind = .dedent) (count : dedents.length = left.length)
      (above : ∀ other ∈ left, width < other) (fits : level ≤ width) (same : left = [] → level = width) :
      Settles width (left ++ level :: outer) dedents (level :: outer)

-- A line of a width that is on no level takes back the levels above it, down to the nearest one below.
inductive GoesBack (width : Nat) : List Nat → List Token → List Nat → Prop where
  | below (left : List Nat) (level : Nat) (outer : List Nat) (dedents : List Token) (some : dedents ≠ [])
      (kinds : ∀ token ∈ dedents, token.kind = .dedent) (count : dedents.length = left.length)
      (above : ∀ other ∈ left, width < other) (less : level < width) :
      GoesBack width (left ++ level :: outer) dedents (level :: outer)

-- Tokens, latest first, among which the indentation changes before the first tokens of code lines only.
inductive Lined : List Token → Prop where
  | nothing : Lined []
  | line (token : Token) (changes earlier : List Token) (widths : List Nat) (lined : Lined earlier)
      (settles : Settles tabWidth source (lineWidth tabWidth source token.span.start)
        (openWidths tabWidth source earlier.reverse) changes widths)
      (opens : Opens (changes ++ earlier).reverse token) : Lined (token :: (changes ++ earlier))
  | inside (token : Token) (earlier : List Token) (lined : Lined earlier) (level : ¬ Changes token)
      (within : ¬ Opens earlier.reverse token) : Lined (token :: earlier)

end Widths

section Lines

variable {tabWidth : Nat} {source : List Char} {width : Nat} {levels after : List Nat}
  {tokens changes : List Token}

theorem openWidths_cons (token : Token) (earlier : List Token) :
    openWidths tabWidth source (token :: earlier).reverse =
      changeWidths tabWidth source (openWidths tabWidth source earlier.reverse) token := by
  simp [openWidths]

theorem changeWidths_level (widths : List Nat) (token : Token) (level : ¬ Changes token) :
    changeWidths tabWidth source widths token = widths := by
  unfold changeWidths
  unfold Changes at level
  split <;> simp_all

theorem openWidths_level (line earlier : List Token) (level : ∀ token ∈ line, ¬ Changes token) :
    openWidths tabWidth source (line ++ earlier).reverse = openWidths tabWidth source earlier.reverse := by
  induction line with
  | nil => rfl
  | cons token rest ih =>
      obtain ⟨first, later⟩ := List.forall_mem_cons.mp level
      rw [List.cons_append, openWidths_cons, changeWidths_level _ token first, ih later]

theorem openWidths_dedents (dedents earlier : List Token) (kinds : ∀ token ∈ dedents, token.kind = .dedent) :
    openWidths tabWidth source (dedents ++ earlier).reverse =
      (openWidths tabWidth source earlier.reverse).drop dedents.length := by
  induction dedents with
  | nil => rfl
  | cons token rest ih =>
      obtain ⟨first, later⟩ := List.forall_mem_cons.mp kinds
      rw [List.cons_append, openWidths_cons, ih later, changeWidths, first]
      exact List.tail_drop

theorem Settles.changed (settles : Settles tabWidth source width levels changes after) :
    ∀ token ∈ changes, Changes token := by
  cases settles with
  | deeper level outer indent kind => exact List.forall_mem_singleton.mpr (.inl kind)
  | back left level outer dedents kinds => exact fun token member => .inr (kinds token member)

theorem Settles.widths (earlier : List Token)
    (settles : Settles tabWidth source width (openWidths tabWidth source earlier.reverse) changes after) :
    openWidths tabWidth source (changes ++ earlier).reverse = after := by
  generalize before : openWidths tabWidth source earlier.reverse = levels at settles
  cases settles with
  | deeper level outer indent kind wide =>
      rw [List.singleton_append, openWidths_cons, before, changeWidths, kind]
      exact congrArg (· :: level :: outer) wide
  | back left level outer dedents kinds count =>
      rw [openWidths_dedents _ _ kinds, before, count, List.drop_left]

theorem Settles.stacked (settles : Settles tabWidth source width levels changes after) (stacked : Stacked levels) :
    Stacked after := by
  cases settles with
  | deeper level outer indent kind wide below => exact stacked.push below
  | back left level outer =>
      refine ⟨(List.pairwise_append.mp stacked.falls).2.1, ?_⟩
      rw [← stacked.bottom, List.getLast?_append, List.getLast?_cons, Option.some_or]

theorem Settles.top (settles : Settles tabWidth source width levels changes after) :
    ∃ level outer, after = level :: outer ∧ level ≤ width ∧ (level < width → GoesBack width levels changes after) := by
  cases settles with
  | deeper level outer => exact ⟨width, level :: outer, rfl, Nat.le_refl _, fun less => absurd less (Nat.lt_irrefl _)⟩
  | back left level outer _ kinds count above fits same =>
      refine ⟨level, outer, rfl, fits, fun less => .below left level outer _ (fun none => ?_) kinds count above less⟩
      rw [none, List.length_nil] at count
      exact absurd (same (List.length_eq_zero_iff.mp count.symm)) (Nat.ne_of_lt less)

theorem GoesBack.reverse (back : GoesBack width levels changes after) : GoesBack width levels changes.reverse after := by
  cases back with
  | below left level outer _ some kinds count above less =>
      refine .below left level outer _ (by simpa using some) (fun token member => ?_) (by simpa using count) above less
      exact kinds token (List.mem_reverse.mp member)

-- A line as wide as the one that has been settled last changes nothing where its width is open, and else goes
-- one level deeper.
theorem Settles.again {first second : List Token} {middle last : List Nat}
    (once : Settles tabWidth source width levels first middle) (stacked : Stacked middle)
    (again : Settles tabWidth source width middle second last) :
    width ∈ middle ∧ second = [] ∨
      width ∉ middle ∧ GoesBack width levels first middle ∧ ∃ indent, second = [indent] ∧ indent.kind = .indent := by
  obtain ⟨top, under, settled, fits, taken⟩ := once.top
  cases again with
  | deeper level outer indent kind _ below =>
      obtain ⟨rfl, rfl⟩ := List.cons.inj settled
      refine .inr ⟨fun member => ?_, taken below, indent, rfl, kind⟩
      rcases List.mem_cons.mp member with same | deeper
      · exact Nat.lt_irrefl _ (same ▸ below)
      · have less := (List.pairwise_cons.mp stacked.falls).1 width deeper
        omega
  | back left level outer dedents _ count above _ same =>
      cases left with
      | nil => exact .inl ⟨by simp [same rfl], List.length_eq_zero_iff.mp count⟩
      | cons other more =>
          obtain ⟨rfl, _⟩ := List.cons.inj settled
          have less := above other List.mem_cons_self
          omega

theorem suffix_beyond {token : Token} {earlier rest : List Token} (within : token :: earlier <:+ changes ++ rest)
    (other : token ∉ changes) : token :: earlier <:+ rest := by
  induction changes with
  | nil => exact within
  | cons change others ih =>
      rw [List.mem_cons, not_or] at other
      obtain ⟨first, later⟩ := other
      rcases List.suffix_cons_iff.mp within with same | sooner
      · exact absurd (List.cons.inj same).1 first
      · exact ih sooner later

namespace Lined

theorem stacked (lined : Lined tabWidth source tokens) : Stacked (openWidths tabWidth source tokens.reverse) := by
  induction lined with
  | nothing => exact .zero
  | line token changes earlier widths _ settles opens ih =>
      rw [openWidths_cons, changeWidths_level _ token (read_unchanging token opens.read), settles.widths]
      exact settles.stacked ih
  | inside token earlier _ level _ ih => rwa [openWidths_cons, changeWidths_level _ token level]

theorem opened (lined : Lined tabWidth source tokens) (token : Token) (earlier : List Token)
    (within : token :: earlier <:+ tokens) (opens : Opens earlier.reverse token) :
    ∃ changes rest widths, earlier = changes ++ rest ∧ Lined tabWidth source rest ∧
      Settles tabWidth source (lineWidth tabWidth source token.span.start)
        (openWidths tabWidth source rest.reverse) changes widths := by
  induction lined with
  | nothing => cases List.suffix_nil.mp within
  | line other changes rest widths lined settles _ ih =>
      rcases List.suffix_cons_iff.mp within with same | sooner
      · cases same
        exact ⟨changes, rest, widths, rfl, lined, settles⟩
      · refine ih (suffix_beyond sooner fun member => ?_)
        exact read_unchanging token opens.read (settles.changed token member)
  | inside other rest _ _ closed ih =>
      rcases List.suffix_cons_iff.mp within with same | sooner
      · cases same
        exact absurd opens closed
      · exact ih sooner

theorem level_within (lined : Lined tabWidth source tokens) (line earlier : List Token)
    (split : tokens = line ++ earlier)
    (next : ∀ later token others, line = later ++ token :: others → ¬ Opens (others ++ earlier).reverse token) :
    ∀ token ∈ line, ¬ Changes token := by
  induction lined generalizing line with
  | nothing =>
      rw [(List.append_eq_nil_iff.mp split.symm).1]
      exact List.forall_mem_nil _
  | line token changes rest widths _ _ opens _ =>
      cases line with
      | nil => exact List.forall_mem_nil _
      | cons first others =>
          obtain ⟨rfl, same⟩ := List.cons.inj split
          rw [show changes ++ rest = others ++ earlier from same] at opens
          exact absurd opens (next [] token others rfl)
  | inside token rest _ level _ ih =>
      cases line with
      | nil => exact List.forall_mem_nil _
      | cons first others =>
          obtain ⟨rfl, same⟩ := List.cons.inj split
          refine List.forall_mem_cons.mpr ⟨level, ih others same fun later other behind among => ?_⟩
          exact next (token :: later) other behind (congrArg (token :: ·) among)

-- Of two code lines of one width the second goes on at the level of the first, if that level is theirs. Else
-- the first had gone back below it, and one indentation stands before the second.
theorem neighbours (lined : Lined tabWidth source tokens) (before between : List Token) (first second : Token)
    (within : second :: (between.reverse ++ first :: before.reverse) <:+ tokens)
    (near : Neighbours before first between second)
    (same : lineWidth tabWidth source first.span.start = lineWidth tabWidth source second.span.start) :
    lineWidth tabWidth source first.span.start ∈ openWidths tabWidth source before ∧
        (∀ token ∈ between, ¬ Changes token) ∨
      lineWidth tabWidth source first.span.start ∉ openWidths tabWidth source before ∧
        (∃ earlier dedents, before = earlier ++ dedents ∧
          GoesBack (lineWidth tabWidth source first.span.start) (openWidths tabWidth source earlier) dedents
            (openWidths tabWidth source before)) ∧
        ∃ line indent, between = line ++ [indent] ∧ indent.kind = .indent ∧ ∀ token ∈ line, ¬ Changes token := by
  have plain := read_unchanging first near.upper.read
  obtain ⟨changes, rest, _, split, linedRest, settles⟩ :=
    lined.opened second _ within (by simpa using near.lower)
  obtain ⟨changesFirst, restFirst, widths, splitFirst, linedFirst, settled⟩ :=
    lined.opened first before.reverse (((List.suffix_append between.reverse _).trans (List.suffix_cons _ _)).trans within)
      (by simpa using near.upper)
  obtain ⟨line, rfl⟩ := suffix_beyond ⟨between.reverse, split⟩ fun member => plain (settles.changed first member)
  have both : between.reverse = changes ++ line := by
    rw [← List.append_assoc] at split
    exact List.append_cancel_right split
  have between_eq : between = line.reverse ++ changes.reverse := by
    rw [← List.reverse_reverse between, both, List.reverse_append]
  have level : ∀ token ∈ line, ¬ Changes token := by
    refine linedRest.level_within line _ rfl fun later token others among opens => ?_
    refine near.next others.reverse token (later.reverse ++ changes.reverse) ?_ (by simpa using opens)
    rw [between_eq, among]
    simp
  have widthsFirst : openWidths tabWidth source before = widths := by
    rw [← List.reverse_reverse before, splitFirst]
    exact settled.widths
  have still : openWidths tabWidth source (line ++ first :: before.reverse).reverse = widths := by
    rw [openWidths_level line _ level, openWidths_cons, changeWidths_level _ first plain, List.reverse_reverse,
      widthsFirst]
  rw [still, ← same] at settles
  rw [widthsFirst]
  refine (settled.again (settled.stacked linedFirst.stacked) settles).imp ?_ ?_
  · rintro ⟨known, rfl⟩
    refine ⟨known, fun token member => level token ?_⟩
    simpa [between_eq] using member
  · rintro ⟨unknown, back, indent, rfl, deeper⟩
    refine ⟨unknown, ⟨restFirst.reverse, changesFirst.reverse, ?_, back.reverse⟩, line.reverse, indent, between_eq, deeper,
      fun token member => level token (List.mem_reverse.mp member)⟩
    rw [← List.reverse_reverse before, splitFirst, List.reverse_append]

end Lined

end Lines

def isMargin (c : Char) : Bool := isInlineBlank c || c = '\r'

theorem triviaFrom_inline (mode : TriviaMode) (length : Nat) (chars : List Char)
    (plain : match mode with
      | .between => ¬ commentMark <+: chars.dropWhile isMargin
      | .line => True
      | .block _ => False) :
    (triviaFrom mode length chars).openComment = none ∧
      ∃ count, (triviaFrom mode length chars).length = length + count ∧ OneLine count chars := by
  fun_induction triviaFrom mode length chars with
  | case1 length rest =>
      refine absurd ?_ plain
      exact List.prefix_append commentMark rest
  | case2 length rest _ ih =>
      obtain ⟨closed, count, same, line⟩ := ih trivial
      exact ⟨closed, count + 1, by omega, .cons (by decide) line⟩
  | case3 length c rest _ _ blank ih =>
      have margin : isMargin c = true := blank
      have inline : c ≠ '\n' := by
        rintro rfl
        revert margin
        decide
      dsimp only at plain ih
      rw [List.dropWhile_cons_of_pos margin] at plain
      obtain ⟨closed, count, same, line⟩ := ih plain
      exact ⟨closed, count + 1, by omega, .cons inline line⟩
  | case4 | case5 | case6 | case8 => exact ⟨rfl, 0, rfl, .zero _⟩
  | case7 length c rest inline ih =>
      obtain ⟨closed, count, same, line⟩ := ih trivial
      exact ⟨closed, count + 1, by omega, .cons inline line⟩
  | case9 | case10 | case11 => cases plain

theorem trivia_inline (chars : List Char) (plain : ¬ commentMark <+: chars.dropWhile isMargin) :
    (trivia chars).openComment = none ∧ OneLine (trivia chars).length chars := by
  obtain ⟨closed, count, same, line⟩ := triviaFrom_inline .between 0 chars plain
  rw [Nat.zero_add] at same
  exact ⟨closed, by rwa [trivia, same]⟩

theorem lineWidth_afterAll (tabWidth : Nat) (source : List Char) (place : Location) (chars : List Char)
    (inline : '\n' ∉ chars) (counted : 1 ≤ place.column) :
    lineWidth tabWidth source (place.afterAll chars) = lineWidth tabWidth source place := by
  have begins : place.offset + chars.length - (place.column + chars.length - 1) =
      place.offset - (place.column - 1) := by omega
  rw [lineWidth, lineWidth, Location.afterAll_column place chars inline, Location.afterAll_offset, begins]

namespace Scan

-- What holds between two rounds of a scan over flat lines: the tokens are lined and the stack is what they
-- leave open; at the start of a line no token of the line has been read, within a line one has.
structure Tracks (tabWidth : Nat) (source : List Char) (scan : Scan) : Prop where
  lies : scan.Lies source
  laid : scan.Laid
  lined : Lined tabWidth source scan.tokens
  widths : scan.indents = openWidths tabWidth source scan.tokens.reverse
  behind : ∀ token ∈ scan.tokens, token.kind.isRead = true → token.span.stop.line ≤ scan.place.line
  begun : scan.lineStart = true → scan.ahead ≠ [] → scan.place.column = 1 ∧
    ∀ token ∈ scan.tokens, token.kind.isRead = true → token.span.stop.line < scan.place.line
  going : scan.lineStart = false →
    ∃ token ∈ scan.tokens, token.kind.isRead = true ∧ token.span.stop.line = scan.place.line

section Steps

variable {tabWidth : Nat} {source : List Char} {scan next : Scan} {dialect : Dialect}

@[simp] theorem settleIndent_place (scan : Scan) (width : Nat) (first : Location) :
    (scan.settleIndent width first).place = scan.place := by
  unfold settleIndent
  split <;> rfl

@[simp] theorem settleIndent_lineStart (scan : Scan) (width : Nat) (first : Location) :
    (scan.settleIndent width first).lineStart = scan.lineStart := by
  unfold settleIndent
  split <;> rfl

@[simp] theorem settleIndent_groups (scan : Scan) (width : Nat) (first : Location) :
    (scan.settleIndent width first).groups = scan.groups := by
  unfold settleIndent
  split <;> rfl

theorem levels_split (width : Nat) (indents : List Nat) (stacked : Stacked indents) :
    ∃ left level outer, indents = left ++ level :: outer ∧
      (indents.dropWhile fun top => decide (width < top)) = level :: outer ∧
      (∀ other ∈ left, width < other) ∧ level ≤ width := by
  induction indents with
  | nil => cases stacked.bottom
  | cons top under ih =>
      by_cases deeper : width < top
      · obtain ⟨left, level, outer, split, kept, above, fits⟩ :=
          ih (stacked.pop (stacked.outermost (Nat.zero_lt_of_lt deeper)))
        refine ⟨top :: left, level, outer, congrArg (top :: ·) split, ?_,
          List.forall_mem_cons.mpr ⟨deeper, above⟩, fits⟩
        rwa [List.dropWhile_cons, if_pos (decide_eq_true deeper)]
      · refine ⟨[], top, under, rfl, ?_, List.forall_mem_nil _, Nat.le_of_not_lt deeper⟩
        rw [List.dropWhile_cons, if_neg (by simpa using deeper)]

theorem settleIndent_settles (width : Nat) (first : Location) (stacked : Stacked scan.indents)
    (wide : lineWidth tabWidth source first = width) :
    ∃ changes, (scan.settleIndent width first).tokens = changes ++ scan.tokens ∧
      Settles tabWidth source width scan.indents changes (scan.settleIndent width first).indents := by
  obtain ⟨left, level, outer, split, kept, above, fits⟩ := levels_split width scan.indents stacked
  unfold settleIndent
  split
  · rename_i push
    cases stack : scan.indents with
    | nil =>
        rw [stack] at push
        cases push
    | cons top under =>
        have below : top < width := by simpa [stack] using push
        exact ⟨[⟨.indent, .none, "", ⟨first, scan.place⟩⟩], rfl, .deeper top under _ rfl wide below⟩
  · rename_i pop
    refine ⟨List.replicate (scan.indents.length - (level :: outer).length) ⟨.dedent, .none, "", ⟨first, scan.place⟩⟩,
      by dsimp only; rw [kept], ?_⟩
    dsimp only
    rw [kept, split]
    refine .back left level outer _ (fun token member => ?_) ?_ above fits fun none => ?_
    · rw [(List.mem_replicate.mp member).2]
    · rw [List.length_replicate, List.length_append, Nat.add_sub_cancel]
    · rw [split, none] at pop
      have high : ¬ level < width := by simpa using pop
      omega

theorem advance_line (count : Nat) (scan : Scan) : scan.place.line ≤ (scan.advance count).place.line := by
  have passed : (scan.advance count).place.line = scan.place.line + (scan.ahead.take count).count '\n' :=
    Location.afterAll_line _ _
  omega

structure Ready (tabWidth : Nat) (source : List Char) (scan : Scan) : Prop where
  level : scan.lineStart = false
  widths : scan.indents = openWidths tabWidth source scan.tokens.reverse
  behind : ∀ token ∈ scan.tokens, token.kind.isRead = true → token.span.stop.line ≤ scan.place.line
  lined : ∀ token : Token, token.kind.isRead = true → token.span.start = scan.place →
    Lined tabWidth source (token :: scan.tokens)

theorem settled_ready (line : Scan) (width : Nat) (first : Location) (laid : line.Laid)
    (outside : line.groups.depth = 0) (level : line.lineStart = false) (lined : Lined tabWidth source line.tokens)
    (widths : line.indents = openWidths tabWidth source line.tokens.reverse)
    (earlier : ∀ token ∈ line.tokens, token.kind.isRead = true → token.span.stop.line < line.place.line)
    (begun : lineWidth tabWidth source first = width) (goes : lineWidth tabWidth source line.place = width) :
    (line.settleIndent width first).Ready tabWidth source := by
  obtain ⟨changes, tokens, settles⟩ := settleIndent_settles width first laid.stacked begun
  have groups := (settleIndent_laid line width first laid outside).1.brackets
  have read_before (token : Token) (member : token ∈ changes ++ line.tokens) (read : token.kind.isRead = true) :
      token ∈ line.tokens := by
    rcases List.mem_append.mp member with new | old
    · exact absurd (settles.changed token new) (read_unchanging token read)
    · exact old
  rw [widths] at settles
  rw [settleIndent_groups, tokens] at groups
  refine ⟨by rw [settleIndent_lineStart, level], ?_, fun token member read => ?_, fun token read begins => ?_⟩
  · rw [tokens]
    exact settles.widths.symm
  · rw [tokens] at member
    rw [settleIndent_place]
    exact Nat.le_of_lt (earlier token (read_before token member read) read)
  · rw [settleIndent_place] at begins
    rw [tokens]
    refine .line token changes _ _ lined (by rwa [begins, goes]) ⟨read, fun other among is => ?_, groups ▸ outside⟩
    rw [begins]
    exact earlier other (read_before other (List.mem_reverse.mp among) is) is

theorem advance_inline {count : Nat} (inline : OneLine count scan.ahead) :
    (scan.advance count).place.line = scan.place.line ∧ (scan.advance count).lineStart = scan.lineStart := by
  refine ⟨Location.afterAll_same_line _ _ inline, ?_⟩
  have quiet : ((scan.ahead.take count).contains '\n') = false := by simpa [OneLine] using inline
  rw [advance_lineStart, quiet, Bool.or_false]

theorem Tracks.ready (tracks : scan.Tracks dialect.tabWidth source) (more : scan.ahead ≠ [])
    (inline : OneLine (trivia scan.ahead).length scan.ahead)
    (code : (scan.advance (trivia scan.ahead).length).atCode = true) :
    (scan.passed dialect).Ready dialect.tabWidth source := by
  obtain ⟨here, still⟩ := advance_inline inline
  cases starts : scan.lineStart with
  | false =>
      have same : scan.passed dialect = scan.advance (trivia scan.ahead).length := by
        rw [passed, starts, if_neg (by decide)]
      obtain ⟨earlier, member, read, latest⟩ := tracks.going starts
      rw [same]
      refine ⟨still.trans starts, tracks.widths, fun token among is => ?_,
        fun token is begins => .inside token _ tracks.lined (read_unchanging token is) fun opens => ?_⟩
      · exact here ▸ tracks.behind token among is
      · have less := opens.first earlier (List.mem_reverse.mpr member) read
        rw [begins, here, latest] at less
        exact Nat.lt_irrefl _ less
  | true =>
      obtain ⟨column, earlier⟩ := tracks.begun starts more
      by_cases outside : scan.groups.depth = 0
      · have begun : lineWidth dialect.tabWidth source scan.place = indentWidth dialect.tabWidth scan.ahead := by
          rw [lineWidth, column, tracks.lies.ahead]
          rfl
        rw [passed_code starts outside code]
        refine settled_ready _ _ scan.place tracks.laid outside rfl tracks.lined tracks.widths (fun token among is => ?_)
          begun ?_
        · exact here.symm ▸ earlier token among is
        · rw [← begun]
          exact lineWidth_afterAll _ _ _ _ inline (Nat.le_of_eq column.symm)
      · have same : scan.passed dialect = { scan.advance (trivia scan.ahead).length with lineStart := false } := by
          rw [passed, if_pos starts, startLine, if_pos code]
          exact if_neg outside
        rw [same]
        refine ⟨rfl, tracks.widths, fun token among is => here ▸ tracks.behind token among is,
          fun token is _ => .inside token _ tracks.lined (read_unchanging token is) fun opens => outside ?_⟩
        rw [tracks.laid.brackets]
        exact opens.outside

theorem passed_waiting (dialect : Dialect) (scan : Scan)
    (waiting : (scan.advance (trivia scan.ahead).length).atCode = false) :
    scan.passed dialect = scan.advance (trivia scan.ahead).length := by
  unfold passed
  split
  · rw [startLine, if_neg (by rw [waiting]; decide)]
  · rfl

theorem waiting_reads (waiting : scan.atCode = false) (shown : '\x00' ∉ scan.ahead)
    (ran : scan.readToken dialect = .ok next) :
    scan.ahead = [] ∧ next = scan ∨ ∃ rest, scan.ahead = '\n' :: rest ∧ next = scan.readNewline := by
  rw [readToken] at ran
  cases ahead : scan.ahead with
  | nil =>
      rw [ahead] at ran
      cases ran
      exact .inl ⟨rfl, rfl⟩
  | cons c rest =>
      rw [ahead, List.mem_cons, not_or] at shown
      rw [atCode, ahead] at waiting
      have feed : c = '\n' := by simpa [Ne.symm shown.1] using waiting
      rw [ahead] at ran
      dsimp only at ran
      rw [if_pos feed] at ran
      cases ran
      exact .inr ⟨rest, by rw [feed], rfl⟩

theorem newline_tracks (here : Scan) (rest : List Char) (ahead : here.ahead = '\n' :: rest)
    (lies : here.readNewline.Lies source) (laid : here.readNewline.Laid)
    (lined : Lined tabWidth source here.tokens)
    (widths : here.indents = openWidths tabWidth source here.tokens.reverse)
    (behind : ∀ token ∈ here.tokens, token.kind.isRead = true → token.span.stop.line ≤ here.place.line) :
    here.readNewline.Tracks tabWidth source := by
  have feed : (here.advance 1).place = here.place.after '\n' := by
    change here.place.afterAll (here.ahead.take 1) = _
    rw [ahead]
    rfl
  have begun : (here.advance 1).lineStart = true := by
    rw [advance_lineStart, ahead]
    simp
  have later (token : Token) (member : token ∈ here.tokens) (read : token.kind.isRead = true) :
      token.span.stop.line < (here.advance 1).place.line := by
    rw [feed]
    exact Nat.lt_succ_of_le (behind token member read)
  have column : (here.advance 1).place.column = 1 := by
    rw [feed]
    rfl
  by_cases outside : here.groups.depth = 0
  · have same : here.readNewline = (here.advance 1).emitLayout .newline "\\n" here.place := if_pos outside
    have read_before (token : Token)
        (member : token ∈ ((here.advance 1).emitLayout .newline "\\n" here.place).tokens)
        (read : token.kind.isRead = true) : token ∈ here.tokens := by
      rcases List.mem_cons.mp member with rfl | old
      · cases read
      · exact old
    have level : ¬ Changes ⟨.newline, .none, "\\n", ⟨here.place, (here.advance 1).place⟩⟩ := by
      rintro (kind | kind) <;> cases kind
    rw [same] at lies laid ⊢
    refine ⟨lies, laid, .inside _ _ lined level fun opens => ?_, ?_, fun token member read => ?_,
      fun _ _ => ⟨column, fun token member read => later token (read_before token member read) read⟩, fun quiet => ?_⟩
    · cases opens.read
    · exact widths.trans ((openWidths_cons _ _).trans (changeWidths_level _ _ level)).symm
    · exact Nat.le_of_lt (later token (read_before token member read) read)
    · cases begun.symm.trans quiet
  · have same : here.readNewline = here.advance 1 := if_neg outside
    rw [same] at lies laid ⊢
    refine ⟨lies, laid, lined, widths, fun token member read => Nat.le_of_lt (later token member read),
      fun _ _ => ⟨column, later⟩, fun quiet => ?_⟩
    cases begun.symm.trans quiet

theorem token_tracks (here : Scan) (ready : here.Ready tabWidth source) (kind : TokenKind) (payload : Payload)
    (count : Nat) (reports : List Diagnostic) (read : kind.isRead = true)
    (lines : OneLine count here.ahead ∨ here.ahead.length ≤ count)
    (lies : (here.reading kind payload count reports).Lies source)
    (laid : (here.reading kind payload count reports).Laid) :
    (here.reading kind payload count reports).Tracks tabWidth source := by
  let token : Token :=
    ⟨kind, payload, String.ofList (here.ahead.take count), ⟨here.place, (here.advance count).place⟩⟩
  have level : ¬ Changes token := read_unchanging token read
  refine ⟨lies, laid, ready.lined token read rfl, ?_, fun other member is => ?_, fun starts more => ?_,
    fun _ => ⟨token, List.mem_cons_self, read, rfl⟩⟩
  · exact ready.widths.trans ((openWidths_cons token _).trans (changeWidths_level _ token level)).symm
  · rcases List.mem_cons.mp member with rfl | old
    · exact Nat.le_refl _
    · exact Nat.le_trans (ready.behind other old is) (advance_line count here)
  · rcases lines with line | whole
    · have still : (here.advance count).lineStart = true := starts
      rw [(advance_inline line).2, ready.level] at still
      cases still
    · exact absurd (List.drop_eq_nil_iff.mpr whole) more

theorem round_tracks (ran : scan.round dialect = .ok next) (more : scan.ahead ≠ [])
    (tracks : scan.Tracks dialect.tabWidth source) (visible : '\x00' ∉ source)
    (plain : ¬ commentMark <+: scan.ahead.dropWhile isMargin)
    (strings : ∀ token ∈ next.tokens, token.kind ≠ .multilineString) : next.Tracks dialect.tabWidth source := by
  obtain ⟨closed, inline⟩ := trivia_inline scan.ahead plain
  have lies := round_lies dialect ran tracks.lies
  have laid := (round_laid dialect scan next ran tracks.laid).1
  obtain ⟨here, still⟩ := advance_inline inline
  rw [round_closed dialect scan closed] at ran
  cases code : (scan.advance (trivia scan.ahead).length).atCode with
  | false =>
      rw [passed_waiting dialect scan code] at ran
      have shown : '\x00' ∉ (scan.advance (trivia scan.ahead).length).ahead := by
        refine fun member => visible (List.mem_of_mem_drop (i := scan.place.offset) ?_)
        rw [← tracks.lies.ahead]
        exact List.mem_of_mem_drop member
      rcases waiting_reads code shown ran with ⟨ended, rfl⟩ | ⟨rest, ahead, rfl⟩
      · refine ⟨lies, laid, tracks.lined, tracks.widths, fun token among is => ?_,
          fun _ further => absurd ended further, fun going => ?_⟩
        · exact here ▸ tracks.behind token among is
        · exact here ▸ tracks.going (still.symm.trans going)
      · exact newline_tracks _ rest ahead lies laid tracks.lined tracks.widths
          fun token member read => here ▸ tracks.behind token member read
  | true =>
      have ready := tracks.ready more inline code
      have starts : (scan.passed dialect).atCode = true := by rwa [atCode, passed_ahead]
      cases readToken_reads dialect _ next ran with
      | nothing ended =>
          rw [atCode, ended] at starts
          cases starts
      | newline rest ahead =>
          rw [atCode, ahead] at starts
          cases starts
      | token c rest kind payload count reports _ read _ lines =>
          refine token_tracks _ ready kind payload count reports read ?_ lies laid
          rcases lines with line | string | whole
          · exact .inl line
          · exact absurd string (strings _ List.mem_cons_self)
          · exact .inr whole

theorem start_tracks (dialect : Dialect) (file : Option String) (text : String) :
    (start file text).Tracks tabWidth text.toList where
  lies := (rounds_lies dialect file text 0 _ rfl).1
  laid := Layout.start
  lined := .nothing
  widths := rfl
  behind := List.forall_mem_nil _
  begun := fun _ _ => ⟨rfl, List.forall_mem_nil _⟩
  going := nofun

theorem Reaches.tracks (reaches : Reaches dialect scan next) (tracks : scan.Tracks dialect.tabWidth source)
    (visible : '\x00' ∉ source)
    (plain : ∀ moment, Reaches dialect scan moment → ¬ commentMark <+: moment.ahead.dropWhile isMargin)
    (strings : ∀ token ∈ next.tokens, token.kind ≠ .multilineString) : next.Tracks dialect.tabWidth source := by
  induction reaches with
  | refl => exact tracks
  | step scan middle next more ran later ih =>
      refine ih ?_ (fun moment goes => plain moment (.step scan middle moment more ran goes)) strings
      exact round_tracks ran more tracks visible (plain scan (.refl scan)) fun token member =>
        strings token (later.grows.1.mem member)

theorem Reaches.lies (reaches : Reaches dialect scan next) (lies : scan.Lies source) : next.Lies source := by
  induction reaches with
  | refl => exact lies
  | step scan middle next more ran later ih => exact ih (round_lies dialect ran lies)

end Steps

end Scan

-- A text without a NUL, whose scan comes to no string in triple quotes and to no comment between marks.
structure Flat (dialect : Dialect) (file : Option String) (source : String) (stream : Stream) : Prop where
  visible : '\x00' ∉ source.toList
  strings : ∀ token ∈ stream.tokens, token.kind ≠ .multilineString
  comments : ∀ moment, Scan.Reaches dialect (Scan.start file source) moment →
    ¬ commentMark <+: moment.ahead.dropWhile isMargin

theorem Flat.of_unmarked (dialect : Dialect) (file : Option String) (source : String) (stream : Stream)
    (visible : '\x00' ∉ source.toList) (strings : ∀ token ∈ stream.tokens, token.kind ≠ .multilineString)
    (unmarked : ¬ commentMark <:+: source.toList) : Flat dialect file source stream := by
  refine ⟨visible, strings, fun moment reaches marked => unmarked ?_⟩
  have lies := reaches.lies (Scan.rounds_lies dialect file source 0 _ rfl).1
  rw [lies.ahead] at marked
  exact marked.isInfix.trans ((List.dropWhile_suffix _).trans (List.drop_suffix _ _)).isInfix

section Texts

variable {tabWidth : Nat} {currencies : List String} {file : Option String} {source : String} {stream : Stream}
  {before between after : List Token} {first second : Token}

theorem read_within (ended : Scan)
    (tokens : stream.tokens = ended.tokens.reverse ++ ended.closing ++ [ended.ending])
    (split : stream.tokens = before ++ second :: after) (read : second.kind.isRead = true) :
    second :: before.reverse <:+ ended.tokens := by
  have other : second ∉ ended.closing ++ [ended.ending] := fun member => by
    cases (ending_point ended second member).1.symm.trans read
  rw [split, List.append_assoc] at tokens
  rcases List.append_eq_append_iff.mp tokens with ⟨among, within, rest⟩ | ⟨beyond, _, rest⟩
  · cases among with
    | nil =>
        rw [List.nil_append] at rest
        exact absurd (rest ▸ List.mem_cons_self) other
    | cons token others =>
        obtain ⟨rfl, _⟩ := List.cons.inj rest
        refine ⟨others.reverse, ?_⟩
        rw [← List.reverse_reverse ended.tokens, within]
        simp
  · exact absurd (rest ▸ List.mem_append_right _ List.mem_cons_self) other

end Texts

-- Of two neighbouring code lines of one width the second goes on at the level of the first. Only behind a line
-- that has gone back to a width on no level, and so to the nearest level below, it goes one level deeper, with
-- nothing taken back.
theorem equal_lines_level (tabWidth : Nat) (currencies : List String) (file : Option String) (source : String)
    (stream : Stream) (scanned : scan tabWidth currencies file source = .ok stream)
    (flat : Flat (dialectOf tabWidth currencies source) file source stream)
    (before between after : List Token) (first second : Token)
    (split : stream.tokens = before ++ first :: between ++ second :: after)
    (near : Neighbours before first between second)
    (same : lineWidth tabWidth source.toList first.span.start = lineWidth tabWidth source.toList second.span.start) :
    (lineWidth tabWidth source.toList first.span.start ∈ openWidths tabWidth source.toList before →
      ∀ token ∈ between, ¬ Changes token) ∧
    (lineWidth tabWidth source.toList first.span.start ∉ openWidths tabWidth source.toList before →
      (∃ earlier dedents, before = earlier ++ dedents ∧
        GoesBack (lineWidth tabWidth source.toList first.span.start) (openWidths tabWidth source.toList earlier)
          dedents (openWidths tabWidth source.toList before)) ∧
        ∃ line indent, between = line ++ [indent] ∧ indent.kind = .indent ∧ ∀ token ∈ line, ¬ Changes token) := by
  obtain ⟨ended, reaches, _, tokens, _⟩ := scan_ended.mp scanned
  have tracks : ended.Tracks tabWidth source.toList := by
    refine reaches.tracks (Scan.start_tracks (dialectOf tabWidth currencies source) file source) flat.visible
      flat.comments fun token member => flat.strings token ?_
    rw [tokens]
    simp [member]
  have within := read_within ended tokens split near.lower.read
  rw [List.reverse_append, List.reverse_cons, List.append_assoc, List.singleton_append] at within
  rcases tracks.lined.neighbours before between first second within near same with
    ⟨known, level⟩ | ⟨unknown, back, deeper⟩
  · exact ⟨fun _ => level, fun unknown => absurd known unknown⟩
  · exact ⟨fun known => absurd known unknown, fun _ => ⟨back, deeper⟩⟩

namespace Stray

def source : String := "a\n    b\n  c\n  d\n  e"

def place (line column offset : Nat) : Location := ⟨line, column, offset, none⟩

def word (text : String) (line column offset : Nat) : Token :=
  ⟨.identifier, .text text, text, ⟨place line column offset, place line (column + 1) (offset + 1)⟩⟩

def newline (line column offset : Nat) : Token :=
  ⟨.newline, .none, "\\n", ⟨place line column offset, place (line + 1) 1 (offset + 1)⟩⟩

def change (kind : TokenKind) (line offset count : Nat) : Token :=
  ⟨kind, .none, "", ⟨place line 1 offset, place line (1 + count) (offset + count)⟩⟩

def front : List Token :=
  [word "a" 1 1 0, newline 1 2 1, change .indent 2 2 4, word "b" 2 5 6, newline 2 6 7, change .dedent 3 8 2]

def behind : List Token := [newline 3 4 11, change .indent 4 12 2]

def further : List Token := [newline 4 4 15]

def closing : List Token :=
  [⟨.newline, .none, "", .point (place 5 4 19)⟩, ⟨.dedent, .none, "", .point (place 5 4 19)⟩,
    ⟨.endOfFile, .none, "", .point (place 5 4 19)⟩]

def stream : Stream :=
  ⟨front ++ word "c" 3 3 10 :: behind ++ word "d" 4 3 14 :: further ++ word "e" 5 3 18 :: closing, []⟩

theorem scanned : scan 4 [] none source = .ok stream := by rfl

theorem flat : Flat (dialectOf 4 [] source) none source stream :=
  .of_unmarked _ _ _ _ (by decide) (by decide) (by decide +kernel)

theorem third : Neighbours front (word "c" 3 3 10) behind (word "d" 4 3 14) :=
  .of_layout ⟨rfl, by decide, rfl⟩ ⟨rfl, by decide, rfl⟩ (by decide)

theorem fourth : Neighbours (front ++ word "c" 3 3 10 :: behind) (word "d" 4 3 14) further
    (word "e" 5 3 18) :=
  .of_layout ⟨rfl, by decide, rfl⟩ ⟨rfl, by decide, rfl⟩ (by decide)

end Stray

theorem lines_behind_stray :
    (∃ line indent, Stray.behind = line ++ [indent] ∧ indent.kind = .indent ∧ ∀ token ∈ line, ¬ Changes token) ∧
      ∀ token ∈ Stray.further, ¬ Changes token := by
  have third := equal_lines_level 4 [] none Stray.source Stray.stream Stray.scanned Stray.flat Stray.front
    Stray.behind (Stray.further ++ Stray.word "e" 5 3 18 :: Stray.closing) (Stray.word "c" 3 3 10)
    (Stray.word "d" 4 3 14) rfl Stray.third rfl
  have fourth := equal_lines_level 4 [] none Stray.source Stray.stream Stray.scanned Stray.flat
    (Stray.front ++ Stray.word "c" 3 3 10 :: Stray.behind) Stray.further Stray.closing (Stray.word "d" 4 3 14)
    (Stray.word "e" 5 3 18) rfl Stray.fourth rfl
  exact ⟨(third.2 (by decide)).2, fourth.1 (by decide)⟩

-- Neighbouring lines of one width are not always on one level.
theorem equal_lines_apart : ¬ ∀ (tabWidth : Nat) (currencies : List String) (file : Option String) (source : String)
    (stream : Stream), 1 ≤ tabWidth → scan tabWidth currencies file source = .ok stream →
    Flat (dialectOf tabWidth currencies source) file source stream →
    ∀ (before between after : List Token) (first second : Token),
      stream.tokens = before ++ first :: between ++ second :: after → Neighbours before first between second →
      lineWidth tabWidth source.toList first.span.start = lineWidth tabWidth source.toList second.span.start →
      ∀ token ∈ between, ¬ Changes token := by
  intro level
  have plain := level 4 [] none Stray.source Stray.stream (by decide) Stray.scanned Stray.flat Stray.front
    Stray.behind (Stray.further ++ Stray.word "e" 5 3 18 :: Stray.closing) (Stray.word "c" 3 3 10)
    (Stray.word "d" 4 3 14) rfl Stray.third rfl
  exact plain (Stray.change .indent 4 12 2) (List.mem_cons_of_mem _ List.mem_cons_self) (.inl rfl)

end Fiscal.Token
