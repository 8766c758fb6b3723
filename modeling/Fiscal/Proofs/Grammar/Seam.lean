import Fiscal.Proofs.Grammar.Statement
import Fiscal.Proofs.Token.Layout

set_option autoImplicit false

namespace Fiscal.Grammar

open Token (Groups)

inductive Settled (nested : Bool) : Groups → List Token → Prop where
  | last (groups : Groups) (token : Token) (kind : token.kind = .newline) (outside : groups.depth = 0)
      (mark : Text.isIdentifier token.lexeme = false) : Settled nested groups [token]
  | cons (groups : Groups) (token : Token) (rest : List Token) (going : token.kind ≠ .endOfFile)
      (layout : token.kind.isLayout = true → nested = true ∧ groups.depth = 0)
      (word : Text.isIdentifier token.lexeme = true →
        token.kind.isLayout = false ∧ token.kind.isBracket = false)
      (later : Settled nested (groups.after token.span.start token.kind) rest) :
      Settled nested groups (token :: rest)

inductive Gap (nested : Bool) (beyond : List Token) : List Token → List Token → Prop where
  | ended (last head : Token) (others : List Token) (kind : last.kind = .endOfFile)
      (split : beyond = head :: others) (line : head.kind ≠ .newline) (block : head.kind ≠ .indent) :
      Gap nested beyond [last] beyond
  | dedent (token : Token) (near far : List Token) (inside : nested = true)
      (kind : token.kind = .dedent) (gap : Gap nested beyond near far) :
      Gap nested beyond (token :: near) (token :: far)

-- How two readings compare: they have the same tokens to the end of the file, where the second may have
-- reported something earlier, or the second goes on after a seam, before which there may be nested
-- blocks or is one line only. With blocks the first reading is taken to be one that does not recover.
inductive Mode where
  | whole (earlier : List Source.Issue)
  | cut (nested : Bool) (near far beyond : List Token)

namespace Mode

def nests : Mode → Prop
  | whole _ => True
  | cut nested _ _ _ => nested = true

def strict : Mode → Prop
  | whole _ => False
  | cut nested _ _ _ => nested = true

def earlier : Mode → List Source.Issue
  | whole earlier => earlier
  | cut _ _ _ _ => []

def Gaps : Mode → List Token → List Token → Prop
  | whole _, _, _ => False
  | cut nested _ _ beyond, first, second => Gap nested beyond first second

def Lags (mode : Mode) (first second : List Token) : Prop :=
  ∃ blank rest, second = blank ++ rest ∧ (∀ token ∈ blank, token.kind = .newline) ∧ mode.Gaps first rest

def Fits : Mode → Prop
  | whole _ => True
  | cut nested near far beyond => (cut nested near far beyond).Lags near far

def Here : Mode → Groups → List Token → List Token → Prop
  | whole _, _, first, second => first = second ∧ ∃ body last, first = body ++ [last] ∧ last.kind = .endOfFile
  | cut nested near far _, groups, first, second =>
      ∃ body, first = body ++ near ∧ second = body ++ far ∧ Settled nested groups body

end Mode

def sameIssues (mode : Mode) (first second : Cursor) : Prop :=
  second.reports.map (·.issue) = first.reports.map (·.issue) ++ mode.earlier

-- Both readings before the seam. The tokens last passed are the same, unless the first reading still
-- stands where it has started.
structure Near (mode : Mode) (base : Option Cursor) (groups : Groups) (first second : Cursor) : Prop where
  rest : mode.Here groups first.rest second.rest
  previous : first.previous = second.previous ∨ ∃ start ∈ base, first.rest = start.rest
  reports : mode.nests → sameIssues mode first second

abbrev On (mode : Mode) (groups : Groups) (first second : Cursor) : Prop := Near mode none groups first second

structure Gapped (mode : Mode) (first second : Cursor) : Prop where
  rest : mode.Gaps first.rest second.rest
  reports : mode.nests → sameIssues mode first second

structure Lagging (mode : Mode) (first second : Cursor) : Prop where
  rest : mode.Lags first.rest second.rest
  reports : mode.nests → sameIssues mode first second

def Cursor.LineEnded (cursor : Cursor) : Prop :=
  cursor.kind = .endOfFile ∨ cursor.kind = .dedent ∨
    cursor.previous.kind = .newline ∨ cursor.previous.kind = .dedent

def Closed (mode : Mode) (first second : Cursor) : Prop :=
  mode.nests ∧ On mode Groups.none first second ∧ first.LineEnded ∨
    Lagging mode first second ∧ first.previous = second.previous

def Loose (mode : Mode) (first second : Cursor) : Prop :=
  mode.nests ∧ (On mode Groups.none first second ∨ Lagging mode first second)

def Poised (mode : Mode) (first second : Cursor) : Prop :=
  mode.nests ∧ (On mode Groups.none first second ∨ Gapped mode first second)

namespace Cursor

def onto (cursor : Cursor) (next : Token) (ahead : List Token) : Cursor :=
  { cursor with previous := cursor.current, current := next, ahead }

def skipBlank (cursor : Cursor) : Cursor := cursor.skip fun _ current => current.kind == .newline

variable {cursor : Cursor} {next : Token} {ahead : List Token}

theorem rest_split (split : cursor.rest = next :: ahead) : cursor.current = next ∧ cursor.ahead = ahead :=
  List.cons.inj split

theorem kind_split (split : cursor.rest = next :: ahead) : cursor.kind = next.kind :=
  congrArg Token.kind (rest_split split).1

theorem advance_onto (going : cursor.kind ≠ .endOfFile) (split : cursor.ahead = next :: ahead) :
    cursor.advance = cursor.onto next ahead := by
  have on : cursor.atEnd = false := by simpa [atEnd] using going
  unfold advance
  rw [on, if_neg (by decide), split]
  rfl

section Skip

variable {goOn : Token → Token → Bool}

theorem skip_stop (stays : cursor.kind = .endOfFile ∨ goOn cursor.previous cursor.current = false) :
    cursor.skip goOn = cursor := by
  obtain ⟨previous, current, ahead, lines, reports⟩ := cursor
  cases ahead with
  | nil => rfl
  | cons next others =>
      have halts : (current.kind != .endOfFile && goOn previous current) = false := by
        rcases stays with last | stop
        · rw [show current.kind = .endOfFile from last]
          rfl
        · rw [show goOn previous current = false from stop, Bool.and_false]
      simp [skip, advanceWhile, halts]

theorem skip_onto (going : cursor.kind ≠ .endOfFile) (goes : goOn cursor.previous cursor.current = true)
    (split : cursor.ahead = next :: ahead) : cursor.skip goOn = (cursor.onto next ahead).skip goOn := by
  have onward : (cursor.current.kind != .endOfFile && goOn cursor.previous cursor.current) = true := by
    rw [goes, Bool.and_true]
    simpa [kind] using going
  unfold skip
  rw [split, advanceWhile, if_pos onward]
  rfl

end Skip

theorem skipBlank_stop (other : cursor.kind ≠ .newline) : cursor.skipBlank = cursor :=
  skip_stop (.inr (beq_eq_false_iff_ne.mpr other))

theorem skipBlank_onto (blank : cursor.kind = .newline) (split : cursor.ahead = next :: ahead) :
    cursor.skipBlank = (cursor.onto next ahead).skipBlank :=
  skip_onto (by rw [blank]; decide) (beq_iff_eq.mpr blank) split

theorem skipBlank_over (blank : List Token) (newlines : ∀ token ∈ blank, token.kind = .newline)
    (other : next.kind ≠ .newline) (split : cursor.rest = blank ++ next :: ahead) :
    cursor.skipBlank.rest = next :: ahead ∧ (blank ≠ [] → cursor.skipBlank.previous.kind = .newline) := by
  induction blank generalizing cursor with
  | nil =>
      have here : cursor.kind ≠ .newline := by rwa [kind_split split]
      rw [skipBlank_stop here]
      exact ⟨split, fun more => absurd rfl more⟩
  | cons token others ih =>
      have first : cursor.kind = .newline := by
        rw [kind_split split]
        exact newlines token (by simp)
      have rest := (rest_split split).2
      obtain ⟨after, later, onward⟩ : ∃ after later, others ++ next :: ahead = after :: later :=
        List.exists_cons_of_ne_nil (by simp)
      rw [skipBlank_onto first (rest.trans onward)]
      obtain ⟨stands, moved⟩ := @ih (cursor.onto after later)
        (fun token member => newlines token (by simp [member])) onward.symm
      refine ⟨stands, fun _ => ?_⟩
      cases others with
      | nil =>
          have stopped : (cursor.onto after later).kind ≠ .newline := by
            rw [show after = next from (List.cons.inj onward).1.symm]
            exact other
          rw [skipBlank_stop stopped]
          exact first
      | cons => exact moved (by simp)

end Cursor

namespace Settled

variable {nested : Bool} {groups : Groups} {body : List Token}

theorem cons_split (settled : Settled nested groups body) : ∃ token rest, body = token :: rest := by
  cases settled with
  | last _ token => exact ⟨token, [], rfl⟩
  | cons _ token rest => exact ⟨token, rest, rfl⟩

theorem after_parens (place : Source.Location) (kind : TokenKind) (opens : kind ≠ .leftParen)
    (closes : kind ≠ .rightParen) : (groups.after place kind).parens = groups.parens := by
  cases kind <;> first | rfl | exact absurd rfl opens | exact absurd rfl closes

theorem closes (settled : Settled nested groups body) (depth : Nat) (positive : 0 < depth)
    (within : depth ≤ groups.parens.length) (one two : List Token) :
    closesBeforeArrow depth (body ++ one) = closesBeforeArrow depth (body ++ two) := by
  induction settled generalizing depth with
  | last groups token kind outside _ =>
      simp only [Groups.depth] at outside
      omega
  | cons groups token rest going layout word later ih =>
      simp only [List.cons_append, closesBeforeArrow]
      split
      · rfl
      · rename_i kind
        rw [kind] at ih
        exact ih (depth + 1) (by omega) (by simpa [Groups.after] using within)
      · rename_i kind
        rw [kind] at ih
        obtain ⟨next, others, rfl⟩ := later.cons_split
        split
        · rfl
        · exact ih (depth - 1) (by omega) (by simp only [Groups.after, List.length_tail]; omega)
      · rename_i opens closes
        exact ih depth positive (by rwa [after_parens token.span.start token.kind opens closes])

end Settled

namespace Gap

variable {nested : Bool} {beyond near far : List Token}

theorem heads (gap : Gap nested beyond near far) :
    ∃ first second nearRest farRest, near = first :: nearRest ∧ far = second :: farRest ∧
      (first.kind = .dedent ∧ second = first ∧ nested = true ∧ Gap nested beyond nearRest farRest ∨
        first.kind = .endOfFile ∧ nearRest = [] ∧ far = beyond) ∧
      second.kind ≠ .newline ∧ second.kind ≠ .indent := by
  cases gap with
  | ended last head others kind split line block =>
      exact ⟨last, head, [], others, rfl, split, .inr ⟨kind, rfl, rfl⟩, line, block⟩
  | dedent token near far inside kind gap =>
      exact ⟨token, token, near, far, rfl, rfl, .inl ⟨kind, rfl, inside, gap⟩, by rw [kind]; decide,
        by rw [kind]; decide⟩

end Gap

namespace Gapped

variable {mode : Mode} {first second : Cursor}

theorem cases (gapped : Gapped mode first second) :
    (first.kind = .dedent ∧ first.current = second.current ∧ mode.strict ∧
        mode.Gaps first.ahead second.ahead ∨ first.kind = .endOfFile) ∧
      second.kind ≠ .newline ∧ second.kind ≠ .indent := by
  cases mode with
  | whole => exact gapped.rest.elim
  | cut nested near far beyond =>
      obtain ⟨one, two, oneRest, twoRest, oneSplit, twoSplit, both, line, block⟩ := Gap.heads gapped.rest
      rw [Cursor.kind_split oneSplit, Cursor.kind_split twoSplit]
      refine ⟨?_, line, block⟩
      rcases both with ⟨kind, same, inside, gap⟩ | ⟨kind, _⟩
      · refine .inl ⟨kind, ?_, inside, ?_⟩
        · rw [(Cursor.rest_split oneSplit).1, (Cursor.rest_split twoSplit).1, same]
        · rw [(Cursor.rest_split oneSplit).2, (Cursor.rest_split twoSplit).2]
          exact gap
      · exact .inr kind

theorem dedent (gapped : Gapped mode first second) (kind : first.kind = .dedent) :
    Lagging mode first.advance second.advance ∧ first.advance.previous = second.advance.previous := by
  obtain ⟨⟨_, same, strict, gaps⟩ | ended, _⟩ := gapped.cases
  · have also : second.kind = .dedent := by rw [Cursor.kind, ← same]; exact kind
    cases mode with
    | whole => exact strict.elim
    | cut nested near far beyond =>
        obtain ⟨one, two, oneRest, twoRest, oneSplit, twoSplit, _⟩ := Gap.heads gaps
        rw [Cursor.advance_onto (by rw [kind]; decide) oneSplit,
          Cursor.advance_onto (by rw [also]; decide) twoSplit]
        rw [oneSplit, twoSplit] at gaps
        exact ⟨⟨⟨[], _, rfl, by simp, gaps⟩, gapped.reports⟩, same⟩
  · rw [ended] at kind
    cases kind

theorem lagging (gapped : Gapped mode first second) : Lagging mode first second :=
  ⟨⟨[], second.rest, rfl, by simp, gapped.rest⟩, gapped.reports⟩

theorem strict_of_nests (gapped : Gapped mode first second) (nests : mode.nests) : mode.strict := by
  cases mode with
  | whole => exact gapped.rest.elim
  | cut => exact nests

end Gapped

namespace Near

variable {mode : Mode} {base : Option Cursor} {groups : Groups} {first second : Cursor}

theorem based (near : On mode groups first second) (base : Option Cursor) :
    Near mode base groups first second :=
  ⟨near.rest, .inl (near.previous.resolve_right (by simp)), near.reports⟩

theorem same_previous (on : On mode groups first second) : first.previous = second.previous :=
  on.previous.resolve_right (by simp)

theorem split (near : Near mode base groups first second) :
    first.current = second.current ∧
      (first.kind = .endOfFile ∧ (∃ earlier, mode = .whole earlier) ∨
        first.kind ≠ .endOfFile ∧ (first.kind.isLayout = true → mode.nests) ∧
          mode.Here (groups.after first.current.span.start first.kind) first.ahead second.ahead ∨
        ∃ nested before behind beyond, mode = .cut nested before behind beyond ∧ first.kind = .newline ∧
          groups = Groups.none ∧ first.ahead = before ∧ second.ahead = behind) := by
  cases mode with
  | whole =>
      obtain ⟨same, body, last, ended, kind⟩ := near.rest
      obtain ⟨here, ahead⟩ := List.cons.inj same
      refine ⟨here, ?_⟩
      by_cases going : first.kind = .endOfFile
      · exact .inl ⟨going, _, rfl⟩
      · refine .inr (.inl ⟨going, fun _ => trivial, ahead, ?_⟩)
        cases body with
        | nil =>
            have final := (Cursor.rest_split ended).1
            exact absurd (by rw [Cursor.kind, final, kind]) going
        | cons token others => exact ⟨others, last, (Cursor.rest_split ended).2, kind⟩
  | cut nested before behind beyond =>
      obtain ⟨body, one, two, settled⟩ := near.rest
      cases settled with
      | last _ token kind outside _ =>
          have here := Cursor.rest_split one
          have there := Cursor.rest_split two
          refine ⟨here.1.trans there.1.symm, .inr (.inr ?_)⟩
          refine ⟨nested, before, behind, beyond, rfl, ?_, ?_, here.2, there.2⟩
          · rw [Cursor.kind, here.1, kind]
          · exact Groups.none_of_depth outside
      | cons _ token rest going layout word later =>
          have here := Cursor.rest_split one
          have there := Cursor.rest_split two
          refine ⟨here.1.trans there.1.symm, .inr (.inl ⟨?_, ?_, rest, here.2, there.2, ?_⟩)⟩
          · rw [Cursor.kind, here.1]
            exact going
          · rw [Cursor.kind, here.1]
            exact fun laid => (layout laid).1
          · rw [Cursor.kind, here.1]
            exact later

theorem outside (near : Near mode base groups first second) (layout : first.kind.isLayout = true) :
    (∃ earlier, mode = .whole earlier) ∨ groups = Groups.none := by
  cases mode with
  | whole earlier => exact .inl ⟨earlier, rfl⟩
  | cut nested before behind beyond =>
      obtain ⟨body, one, _, settled⟩ := near.rest
      cases settled with
      | last _ _ _ outside _ => exact .inr (Groups.none_of_depth outside)
      | cons _ token rest _ laid =>
          rw [Cursor.kind, (Cursor.rest_split one).1] at layout
          exact .inr (Groups.none_of_depth (laid layout).2)

theorem nested (near : Near mode base groups first second) (layout : first.kind.isLayout = true)
    (other : first.kind ≠ .newline) : mode.nests := by
  obtain ⟨_, ⟨_, _, rfl⟩ | ⟨_, nests, _⟩ | ⟨_, _, _, _, _, line, _⟩⟩ := near.split
  · exact trivial
  · exact nests layout
  · exact absurd line other

theorem here_heads {groups : Groups} {one two : List Token} (here : mode.Here groups one two) :
    ∃ token oneRest twoRest, one = token :: oneRest ∧ two = token :: twoRest := by
  cases mode with
  | whole =>
      obtain ⟨rfl, body, last, rfl, _⟩ := here
      obtain ⟨token, others, split⟩ := List.exists_cons_of_ne_nil (l := body ++ [last]) (by simp)
      exact ⟨token, others, others, split, split⟩
  | cut nested before behind beyond =>
      obtain ⟨body, rfl, rfl, settled⟩ := here
      cases settled with
      | last _ token => exact ⟨token, before, behind, rfl, rfl⟩
      | cons _ token rest => exact ⟨token, rest ++ before, rest ++ behind, rfl, rfl⟩

theorem going {nested : Bool} {before behind beyond : List Token}
    (near : Near (.cut nested before behind beyond) base groups first second) : first.kind ≠ .endOfFile := by
  intro ended
  obtain ⟨_, ⟨_, _, whole⟩ | ⟨going, _⟩ | ⟨_, _, _, _, _, line, _⟩⟩ := near.split
  · cases whole
  · exact going ended
  · rw [ended] at line
    cases line

theorem same_current (near : Near mode base groups first second) : first.current = second.current :=
  near.split.1

theorem same_kind (near : Near mode base groups first second) : first.kind = second.kind :=
  congrArg Token.kind near.same_current

theorem ahead (near : Near mode base groups first second) (going : first.kind ≠ .endOfFile)
    (inside : first.kind ≠ .newline) :
    ∃ token one two, first.ahead = token :: one ∧ second.ahead = token :: two := by
  obtain ⟨_, ended | ⟨_, _, here⟩ | ⟨_, _, _, _, _, line, _⟩⟩ := near.split
  · exact absurd ended.1 going
  · exact here_heads here
  · exact absurd line inside

theorem kindAhead (near : Near mode base groups first second) (going : first.kind ≠ .endOfFile)
    (inside : first.kind ≠ .newline) : first.kindAhead 0 = second.kindAhead 0 := by
  obtain ⟨token, one, two, oneSplit, twoSplit⟩ := near.ahead going inside
  simp [Cursor.kindAhead, oneSplit, twoSplit]

theorem closes (near : Near mode base groups first second) (paren : first.kind = .leftParen) :
    closesBeforeArrow 1 first.ahead = closesBeforeArrow 1 second.ahead := by
  cases mode with
  | whole => rw [(List.cons.inj near.rest.1).2]
  | cut nested before behind beyond =>
      obtain ⟨body, one, two, settled⟩ := near.rest
      cases settled with
      | last _ token kind =>
          rw [Cursor.kind_split one, kind] at paren
          cases paren
      | cons _ token rest _ _ _ later =>
          rw [Cursor.kind_split one] at paren
          rw [paren] at later
          rw [(Cursor.rest_split one).2, (Cursor.rest_split two).2]
          exact later.closes 1 (by omega) (by simp [Groups.after]) before behind

theorem advance (near : Near mode base groups first second) (going : first.kind ≠ .endOfFile)
    (inside : first.kind ≠ .newline) :
    On mode (groups.after first.current.span.start first.kind) first.advance second.advance := by
  obtain ⟨same, ended | ⟨_, _, here⟩ | ⟨_, _, _, _, _, line, _⟩⟩ := near.split
  · exact absurd ended.1 going
  · obtain ⟨token, one, two, oneSplit, twoSplit⟩ := here_heads here
    rw [Cursor.advance_onto going oneSplit,
      Cursor.advance_onto (by rw [← near.same_kind]; exact going) twoSplit]
    refine ⟨?_, .inl same, near.reports⟩
    rw [oneSplit, twoSplit] at here
    exact here
  · exact absurd line inside

theorem sees (near : Near mode base groups first second) (kind wanted : TokenKind) (going : kind ≠ .endOfFile)
    (inside : kind ≠ .newline) :
    (first.current.kind == kind && first.kindAhead 0 == wanted) =
      (first.current.kind == kind && second.kindAhead 0 == wanted) := by
  by_cases found : first.kind = kind
  · rw [near.kindAhead (by rwa [found]) (by rwa [found])]
  · have absent : (first.current.kind == kind) = false := beq_eq_false_iff_ne.mpr found
    rw [absent]
    rfl

theorem named (near : Near mode base groups first second) :
    (first.kind == .portfolioKeyword && (first.kindAhead 0).isName) =
      (first.kind == .portfolioKeyword && (second.kindAhead 0).isName) := by
  by_cases found : first.kind = .portfolioKeyword
  · rw [near.kindAhead (by rw [found]; decide) (by rw [found]; decide)]
  · rw [beq_eq_false_iff_ne.mpr found]
    rfl

theorem qualifies (near : Near mode base groups first second) :
    (first.current.kind == .identifier && first.kindAhead 0 == .colon && first.kindAhead 1 == .colon) =
      (first.current.kind == .identifier && second.kindAhead 0 == .colon && second.kindAhead 1 == .colon) := by
  by_cases word : first.kind = .identifier
  · have next := near.kindAhead (by rw [word]; decide) (by rw [word]; decide)
    rw [← next]
    by_cases colon : first.kindAhead 0 = .colon
    · obtain ⟨token, one, two, oneSplit, twoSplit⟩ := near.ahead (by rw [word]; decide) (by rw [word]; decide)
      have on := near.advance (by rw [word]; decide) (by rw [word]; decide)
      have also : second.kind ≠ .endOfFile := by rw [← near.same_kind, word]; decide
      rw [Cursor.advance_onto (by rw [word]; decide) oneSplit, Cursor.advance_onto also twoSplit] at on
      have kind : (first.onto token one).kind = .colon := by
        change token.kind = .colon
        simpa [Cursor.kindAhead, oneSplit] using colon
      have later := on.kindAhead (by rw [kind]; decide) (by rw [kind]; decide)
      have distant : first.kindAhead 1 = second.kindAhead 1 := by
        simpa [Cursor.kindAhead, Cursor.onto, oneSplit, twoSplit] using later
      rw [distant]
    · have absent : (first.kindAhead 0 == .colon) = false := by simpa using colon
      rw [absent]
      simp
  · have absent : (first.current.kind == .identifier) = false := beq_eq_false_iff_ne.mpr word
    rw [absent]
    rfl

theorem word_plain (near : Near mode base groups first second)
    (named : Text.isIdentifier first.current.lexeme = true) :
    (∃ earlier, mode = .whole earlier) ∨ first.kind ≠ .newline ∧ first.kind.isBracket = false := by
  cases mode with
  | whole earlier => exact .inl ⟨earlier, rfl⟩
  | cut nested before behind beyond =>
      obtain ⟨body, one, _, settled⟩ := near.rest
      cases settled with
      | last _ token _ _ mark =>
          rw [(Cursor.rest_split one).1, mark] at named
          cases named
      | cons _ token _ _ _ word =>
          rw [(Cursor.rest_split one).1] at named
          rw [Cursor.kind_split one]
          refine .inr ⟨fun line => ?_, (word named).2⟩
          have layout := (word named).1
          rw [line] at layout
          cases layout

theorem word (on : On mode groups first second) (named : Text.isIdentifier first.current.lexeme = true) :
    On mode groups first.advance second.advance := by
  obtain ⟨same, ⟨ended, _, rfl⟩ | ⟨going, _, here⟩ | ⟨_, _, _, _, rfl, line, _⟩⟩ := on.split
  · have also : second.kind = .endOfFile := on.same_kind ▸ ended
    have stays (cursor : Cursor) (last : cursor.kind = .endOfFile) : cursor.advance = cursor := by
      simp [Cursor.advance, Cursor.atEnd, last]
    rwa [stays first ended, stays second also]
  · obtain ⟨token, one, two, oneSplit, twoSplit⟩ := here_heads here
    rw [Cursor.advance_onto going oneSplit,
      Cursor.advance_onto (by rw [← on.same_kind]; exact going) twoSplit]
    rw [oneSplit, twoSplit] at here
    rcases on.word_plain named with ⟨_, rfl⟩ | ⟨_, plain⟩
    · exact ⟨here, .inl same, on.reports⟩
    · rw [Groups.after_other groups _ _ plain] at here
      exact ⟨here, .inl same, on.reports⟩
  · rcases on.word_plain named with ⟨_, whole⟩ | ⟨inside, _⟩
    · cases whole
    · exact absurd line inside

theorem regroup (near : Near mode base groups first second) (layout : first.kind.isLayout = true) {one two : Cursor} :
    On mode Groups.none one two ↔ On mode groups one two := by
  rcases near.outside layout with ⟨_, rfl⟩ | rfl
  · exact ⟨fun on => ⟨on.rest, on.previous, on.reports⟩, fun on => ⟨on.rest, on.previous, on.reports⟩⟩
  · exact .rfl

theorem lineEnd (fits : mode.Fits) (near : Near mode base groups first second) (line : first.kind = .newline) :
    Closed mode first.advance second.advance := by
  have going : first.kind ≠ .endOfFile := by rw [line]; decide
  have also : second.kind ≠ .endOfFile := by rw [← near.same_kind]; exact going
  have layout : first.kind.isLayout = true := by rw [line]; rfl
  obtain ⟨same, ended | ⟨_, nests, here⟩ | ⟨nested, before, behind, beyond, rfl, _, _, one, two⟩⟩ := near.split
  · exact absurd ended.1 going
  · obtain ⟨token, one, two, oneSplit, twoSplit⟩ := here_heads here
    rw [Cursor.advance_onto going oneSplit, Cursor.advance_onto also twoSplit]
    rw [oneSplit, twoSplit, line] at here
    have on : On mode groups (first.onto token one) (second.onto token two) := ⟨here, .inl same, near.reports⟩
    exact .inl ⟨nests layout, (near.regroup layout).mpr on, .inr (.inr (.inl line))⟩
  · obtain ⟨blank, rest, split, newlines, gap⟩ := fits
    obtain ⟨token, _, nearRest, _, rfl, _⟩ := Gap.heads gap
    obtain ⟨next, others, behindSplit⟩ : ∃ next others, behind = next :: others := by
      refine List.exists_cons_of_ne_nil fun none => ?_
      obtain ⟨_, _, _, _, _, farSplit, _⟩ := Gap.heads gap
      rw [none, farSplit] at split
      simp at split
    rw [Cursor.advance_onto going one, Cursor.advance_onto also (two.trans behindSplit)]
    refine .inr ⟨⟨⟨blank, rest, ?_, newlines, gap⟩, near.reports⟩, same⟩
    rw [← split, behindSplit]
    rfl

theorem stops (on : On mode groups first second) (ended : first.kind = .endOfFile ∨ first.kind = .dedent) :
    Closed mode first second := by
  rcases ended with last | dedent
  · obtain ⟨_, ⟨_, _, rfl⟩ | ⟨going, _⟩ | ⟨_, _, _, _, _, line, _⟩⟩ := on.split
    · exact .inl ⟨trivial, ⟨on.rest, on.previous, on.reports⟩, .inl last⟩
    · exact absurd last going
    · rw [last] at line
      cases line
  · have layout : first.kind.isLayout = true := by rw [dedent]; rfl
    exact .inl ⟨on.nested layout (by rw [dedent]; decide), (on.regroup layout).mpr on, .inr (.inl dedent)⟩

theorem cross (fits : mode.Fits) (near : Near mode base groups first second) (line : first.kind = .newline)
    {nested : Bool} {before behind beyond : List Token} (cut : mode = .cut nested before behind beyond)
    (one : first.ahead = before) (two : second.ahead = behind) :
    Gapped mode first.skipBlank second.skipBlank ∧ second.skipBlank.previous.kind = .newline := by
  subst cut
  obtain ⟨blank, rest, split, newlines, gap⟩ := fits
  obtain ⟨head, other, nearRest, farRest, rfl, rfl, both, plain, _⟩ := Gap.heads gap
  have stops : (first.onto head nearRest).kind ≠ .newline := by
    rcases both with ⟨kind, _⟩ | ⟨kind, _⟩ <;> simp [Cursor.onto, Cursor.kind, kind]
  rw [Cursor.skipBlank_onto line one, Cursor.skipBlank_stop stops]
  have all : ∀ token ∈ second.current :: blank, token.kind = .newline :=
    List.forall_mem_cons.mpr ⟨near.same_kind.symm.trans line, newlines⟩
  obtain ⟨stands, passed⟩ := Cursor.skipBlank_over (second.current :: blank) all plain
    (show second.rest = _ by rw [Cursor.rest, two, split, List.cons_append])
  refine ⟨⟨?_, near.reports⟩, passed (by simp)⟩
  rw [stands]
  exact gap

-- Passing line ends, the two stay together or both come over the seam.
theorem skip (fits : mode.Fits) (near : Near mode base groups first second) :
    Near mode base groups first.skipBlank second.skipBlank ∧ first.skipBlank.kind ≠ .newline ∨
      Gapped mode first.skipBlank second.skipBlank ∧ second.skipBlank.previous.kind = .newline := by
  obtain ⟨count, length⟩ : ∃ count, first.ahead.length = count := ⟨_, rfl⟩
  induction count using Nat.strongRecOn generalizing base first second with | _ count ih => ?_
  by_cases line : first.kind = .newline
  · have also : second.kind = .newline := near.same_kind ▸ line
    obtain ⟨same, ⟨ended, _⟩ | ⟨_, _, here⟩ | ⟨nested, before, behind, beyond, cut, _, _, one, two⟩⟩ := near.split
    · rw [line] at ended
      cases ended
    · obtain ⟨token, one, two, oneSplit, twoSplit⟩ := here_heads here
      rw [Cursor.skipBlank_onto line oneSplit, Cursor.skipBlank_onto also twoSplit]
      rw [oneSplit, twoSplit, line] at here
      have on : On mode groups (first.onto token one) (second.onto token two) :=
        ⟨here, .inl same, near.reports⟩
      have fewer : one.length < count := by
        rw [← length, oneSplit]
        exact Nat.lt_succ_self _
      rcases ih one.length fewer on rfl with ⟨still, stops⟩ | crossed
      · exact .inl ⟨still.based base, stops⟩
      · exact .inr crossed
    · exact .inr (near.cross fits line cut one two)
  · rw [Cursor.skipBlank_stop line, Cursor.skipBlank_stop (by rwa [← near.same_kind])]
    exact .inl ⟨near, line⟩

end Near

namespace Lagging

variable {mode : Mode} {first second : Cursor}

theorem skip (lagging : Lagging mode first second) :
    first.skipBlank = first ∧ Gapped mode first second.skipBlank := by
  obtain ⟨blank, rest, split, newlines, gaps⟩ := lagging.rest
  cases mode with
  | whole => exact gaps.elim
  | cut nested before behind beyond =>
      obtain ⟨head, other, nearRest, farRest, nearSplit, rfl, both, plain, _⟩ := Gap.heads gaps
      have stops : first.kind ≠ .newline := by
        rw [Cursor.kind_split nearSplit]
        rcases both with ⟨kind, _⟩ | ⟨kind, _⟩ <;> simp [kind]
      obtain ⟨stands, _⟩ := Cursor.skipBlank_over blank newlines plain split
      refine ⟨Cursor.skipBlank_stop stops, ?_, lagging.reports⟩
      rw [stands]
      exact gaps

end Lagging

theorem Loose.skip {mode : Mode} {first second : Cursor} (fits : mode.Fits) (loose : Loose mode first second) :
    Poised mode first.skipBlank second.skipBlank := by
  obtain ⟨nests, on | lagging⟩ := loose
  · rcases on.skip fits with ⟨still, _⟩ | ⟨gapped, _⟩
    · exact ⟨nests, .inl still⟩
    · exact ⟨nests, .inr gapped⟩
  · obtain ⟨still, gapped⟩ := lagging.skip
    exact ⟨nests, .inr (still.symm ▸ gapped)⟩

theorem Closed.loose {mode : Mode} {first second : Cursor} (closed : Closed mode first second)
    (nests : mode.nests) : Loose mode first second :=
  ⟨nests, closed.imp (fun here => here.2.1) And.left⟩

theorem Closed.same_previous {mode : Mode} {first second : Cursor} (closed : Closed mode first second) :
    first.previous = second.previous := by
  rcases closed with ⟨_, on, _⟩ | ⟨_, same⟩
  · exact on.same_previous
  · exact same

end Fiscal.Grammar
