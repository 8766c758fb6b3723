import Fiscal.Proofs.Grammar.ParallelStatement
import Fiscal.Proofs.Grammar.Program

set_option autoImplicit false

namespace Fiscal.Grammar

open Token (Groups)

def goesOn (previous current : Token) : Bool := previous.kind != .newline && !resumesAt current.kind

def Resumed (mode : Mode) (first second : Cursor) : Prop :=
  (∃ groups, On mode groups first second) ∨ Lagging mode first second

section Resume

variable {mode : Mode} {base : Option Cursor} {groups : Groups} {first second : Cursor}

theorem Closed.resumed (closed : Closed mode first second) : Resumed mode first second :=
  closed.imp (fun here => ⟨Groups.none, here.2.1⟩) And.left

theorem resumes_after_line (line : first.previous.kind = .newline) : first.skip goesOn = first :=
  Cursor.skip_stop (.inr (by simp [goesOn, line]))

theorem advance_ended {cursor : Cursor} (ended : cursor.kind = .endOfFile) : cursor.advance = cursor := by
  simp [Cursor.advance, Cursor.atEnd, ended]

theorem Near.line_passed (fits : mode.Fits) (near : Near mode base groups first second)
    (line : first.kind = .newline) : first.advance.previous.kind = .newline := by
  have going : first.kind ≠ .endOfFile := by rw [line]; decide
  obtain ⟨token, others, split⟩ : ∃ token others, first.ahead = token :: others := by
    obtain ⟨_, ended | ⟨_, _, here⟩ | ⟨nested, before, behind, beyond, rfl, _, _, one, _⟩⟩ := near.split
    · exact absurd ended.1 going
    · obtain ⟨token, one, _, split, _⟩ := here_heads here
      exact ⟨token, one, split⟩
    · obtain ⟨_, _, _, _, gap⟩ := fits
      obtain ⟨token, _, nearRest, _, rfl, _⟩ := Gap.heads gap
      exact ⟨token, nearRest, one⟩
  rw [Cursor.advance_onto going split]
  exact line

theorem Near.resumes_line (fits : mode.Fits) (near : Near mode base groups first second)
    (line : first.kind = .newline) :
    Resumed mode (first.advance.skip goesOn) (second.advance.skip goesOn) := by
  have closed := near.lineEnd fits line
  have passed := near.line_passed fits line
  rw [resumes_after_line passed, resumes_after_line (by rwa [← closed.same_previous])]
  exact closed.resumed

theorem skip_advance {goOn : Token → Token → Bool} {cursor : Cursor} (going : cursor.kind ≠ .endOfFile)
    (goes : goOn cursor.previous cursor.current = true) : cursor.skip goOn = cursor.advance.skip goOn := by
  cases split : cursor.ahead with
  | nil =>
      have stays : cursor.advance = cursor := by simp [Cursor.advance, split]
      rw [stays]
  | cons next ahead => rw [Cursor.skip_onto going goes split, Cursor.advance_onto going split]

theorem Near.resumes (fits : mode.Fits) (on : On mode groups first second) :
    Resumed mode (first.skip goesOn) (second.skip goesOn) := by
  obtain ⟨count, length⟩ : ∃ count, first.ahead.length = count := ⟨_, rfl⟩
  induction count using Nat.strongRecOn generalizing groups first second with | _ count ih => ?_
  by_cases halts : first.kind = .endOfFile ∨ goesOn first.previous first.current = false
  · have also : second.kind = .endOfFile ∨ goesOn second.previous second.current = false := by
      rwa [← on.same_kind, ← on.same_previous, ← on.same_current]
    rw [Cursor.skip_stop halts, Cursor.skip_stop also]
    exact .inl ⟨groups, on⟩
  · simp only [not_or, Bool.not_eq_false] at halts
    obtain ⟨going, goes⟩ := halts
    have goingOther : second.kind ≠ .endOfFile := by rwa [← on.same_kind]
    have goesOther : goesOn second.previous second.current = true := by
      rwa [← on.same_previous, ← on.same_current]
    rw [skip_advance going goes, skip_advance goingOther goesOther]
    by_cases line : first.kind = .newline
    · exact on.resumes_line fits line
    · obtain ⟨token, one, _, split, _⟩ := on.ahead going line
      refine ih first.advance.ahead.length ?_ (on.advance going line) rfl
      rw [Cursor.advance_onto going split, ← length, split]
      exact Nat.lt_succ_self one.length

theorem Near.resumes_next (fits : mode.Fits) (on : On mode groups first second) :
    Resumed mode (first.advance.skip goesOn) (second.advance.skip goesOn) := by
  by_cases ended : first.kind = .endOfFile
  · rw [advance_ended ended, advance_ended (by rwa [← on.same_kind])]
    exact on.resumes fits
  · by_cases line : first.kind = .newline
    · exact on.resumes_line fits line
    · exact (on.advance ended line).resumes fits

theorem resume_eq (remaining : Nat) (cursor : Cursor) :
    resume remaining cursor =
      (if cursor.ahead.length = remaining ∧ cursor.kind ≠ .dedent then cursor.advance
        else cursor).skip goesOn := by
  unfold resume
  simp only [Bool.and_eq_true, decide_eq_true_eq, bne_iff_ne]
  rfl

theorem Near.same_progress {baseOther : Option Cursor} {groupsOther : Groups} {one two : Cursor}
    (start : Near mode baseOther groupsOther first second) (near : Near mode base groups one two) :
    one.ahead.length = first.ahead.length ↔ two.ahead.length = second.ahead.length := by
  cases mode with
  | whole => rw [(List.cons.inj start.rest.1).2, (List.cons.inj near.rest.1).2]
  | cut nested before behind beyond =>
      obtain ⟨body, firstSplit, secondSplit, _⟩ := start.rest
      obtain ⟨later, oneSplit, twoSplit, _⟩ := near.rest
      have lengths := congrArg List.length firstSplit
      have lengthsOther := congrArg List.length secondSplit
      have lengthsOne := congrArg List.length oneSplit
      have lengthsTwo := congrArg List.length twoSplit
      simp only [Cursor.rest, List.length_cons, List.length_append] at lengths lengthsOther lengthsOne lengthsTwo
      omega

theorem Near.resumes_from {one two : Cursor} (fits : mode.Fits)
    (start : Near mode (some first) groups first second) (line : first.kind ≠ .newline)
    (going : first.kind ≠ .endOfFile) (inside : first.kind ≠ .dedent) {groupsOther : Groups}
    (near : Near mode (some first) groupsOther one two) :
    Resumed mode (resume first.ahead.length one) (resume second.ahead.length two) := by
  have moved : (one.ahead.length = first.ahead.length ∧ one.kind ≠ .dedent) ↔
      (two.ahead.length = second.ahead.length ∧ two.kind ≠ .dedent) := by
    rw [start.same_progress near, near.same_kind]
  rw [resume_eq, resume_eq]
  simp only [← moved]
  rcases near.previous with same | ⟨_, ⟨⟩, unmoved⟩
  · have on : On mode groupsOther one two := ⟨near.rest, .inl same, near.reports⟩
    split
    · exact on.resumes_next fits
    · exact on.resumes fits
  · obtain ⟨current, ahead⟩ := List.cons.inj unmoved
    have kind : one.kind = first.kind := congrArg Token.kind current
    rw [if_pos ⟨congrArg List.length ahead, by rwa [kind]⟩, if_pos ⟨congrArg List.length ahead, by rwa [kind]⟩]
    exact (near.advance (by rwa [kind]) (by rwa [kind])).resumes fits

theorem Gapped.resumes_from {one two : Cursor} (tolerant : ¬ mode.strict) (fits : mode.Fits)
    (start : Near mode base groups first second) (gapped : Gapped mode one two)
    (line : two.previous.kind = .newline) :
    Lagging mode (resume first.ahead.length one) (resume second.ahead.length two) := by
  cases mode with
  | whole => exact gapped.rest.elim
  | cut nested before behind beyond =>
      obtain ⟨blank, rest, split, _, gap⟩ := fits
      obtain ⟨body, _, secondSplit, settled⟩ := start.rest
      obtain ⟨_, _, rfl⟩ := settled.cons_split
      have lengths := congrArg List.length secondSplit
      rw [split] at lengths
      simp only [Cursor.rest, List.length_cons, List.length_append] at lengths
      obtain ⟨token, _, _, _, _, _, ⟨_, _, inside, _⟩ | ⟨_, _, far⟩, _⟩ := Gap.heads gap
      · exact absurd inside tolerant
      · obtain ⟨last, _, _, _, oneSplit, _, ⟨_, _, inside, _⟩ | ⟨ended, _, farOther⟩, _⟩ := Gap.heads gapped.rest
        · exact absurd inside tolerant
        · have lengthsTwo := congrArg List.length farOther
          rw [← far] at lengthsTwo
          simp only [Cursor.rest, List.length_cons] at lengthsTwo
          have stays : one.kind = .endOfFile := by rw [Cursor.kind_split oneSplit, ended]
          rw [resume_eq, resume_eq, advance_ended stays, ite_self, Cursor.skip_stop (.inl stays),
            if_neg (by omega), resumes_after_line line]
          exact gapped.lagging

theorem Failed.resumes {one two : Source.Diagnostic} {refusal refusalOther : Cursor} (tolerant : ¬ mode.strict)
    (fits : mode.Fits) (start : Near mode (some first) groups first second) (line : first.kind ≠ .newline)
    (going : first.kind ≠ .endOfFile) (inside : first.kind ≠ .dedent)
    (failed : Failed mode (some first) one two refusal refusalOther) :
    Resumed mode (first.recovered refusal one) (second.recovered refusalOther two) := by
  rcases failed with strict | ⟨same, others, near⟩ | ⟨gapped, passed⟩
  · exact absurd strict tolerant
  · have reported : Near mode (some first) others { refusal with reports := one :: refusal.reports }
        { refusalOther with reports := two :: refusalOther.reports } := by
      refine ⟨near.rest, near.previous, fun nests => ?_⟩
      have issues := near.reports nests
      unfold sameIssues at issues ⊢
      simp [same, issues]
    exact start.resumes_from fits line going inside reported
  · refine .inr (Gapped.resumes_from tolerant fits start ⟨gapped.rest, fun nests => ?_⟩ passed)
    exact absurd (gapped.strict_of_nests nests) tolerant

end Resume

theorem Resumed.on {earlier : List Source.Issue} {first second : Cursor}
    (resumed : Resumed (.whole earlier) first second) : On (.whole earlier) Groups.none first second := by
  rcases resumed with ⟨_, on⟩ | ⟨⟨_, _, _, _, gaps⟩, _⟩
  · exact ⟨on.rest, on.previous, on.reports⟩
  · exact gaps.elim

namespace Parallel

variable {mode : Mode} {base : Option Cursor} {groups : Groups} {first second : Cursor} {inner other : Rules}

-- With the same tokens to the end of the file two readings recover alike.
theorem statement {earlier : List Source.Issue} (rules : inner.Level (.whole earlier) other)
    (start : Near (.whole earlier) (some first) groups first second)
    (line : first.kind ≠ .newline) (going : first.kind ≠ .endOfFile) (inside : first.kind ≠ .dedent) :
    Keeps (.whole earlier) base Groups.none first second (statement inner) (Grammar.statement other) := by
  have fits : (Mode.whole earlier).Fits := trivial
  have form := statementForm rules fits start line
  unfold Keeps Parallel
  rw [statement_eq, statement_eq]
  rcases form.cases with ⟨_, _, _, one, two, closed⟩ | ⟨refusal, refused, after, later, one, two, failed⟩ |
    ⟨strict, _⟩ | ⟨_, one⟩ | ⟨later, two⟩
  · rw [one, two]
    exact ⟨rfl, closed.resumed.on⟩
  · rw [one, two]
    have on := (failed.resumes id fits start line going inside).on
    have same : refusal.issue = refused.issue := by
      rcases failed with strict | ⟨same, _⟩ | ⟨gapped, _⟩
      · exact strict.elim
      · exact same
      · exact gapped.rest.elim
    refine ⟨?_, on⟩
    rw [Cursor.spanFrom, Cursor.spanFrom, on.same_previous, start.same_current,
      Source.Diagnostic.message, Source.Diagnostic.message, same]
  · exact strict.elim
  · rw [one]
    exact trivial
  · rw [two]
    exact .unfinished _ later

theorem statementStrict (form : Parallel mode base (fun _ => Closed mode) first second
      (Grammar.statementForm inner) (Grammar.statementForm other)) (strict : mode.strict) :
    Parallel mode base (fun _ => Closed mode) first second (Grammar.statementForm inner)
      (Grammar.statement other) := by
  unfold Parallel
  rw [statement_eq]
  rcases form.cases with ⟨_, _, _, one, two, closed⟩ | ⟨refusal, _, after, _, one, _⟩ |
    ⟨_, refusal, after, one⟩ | ⟨_, one⟩ | ⟨later, two⟩
  · rw [one, two]
    exact ⟨rfl, closed⟩
  · rw [one]
    exact .lost strict refusal after _
  · rw [one]
    exact .lost strict refusal after _
  · rw [one]
    exact trivial
  · rw [two]
    exact .unfinished _ later

end Parallel

namespace Rules

variable {mode : Mode}

theorem exhausted_level (other : Rules) : exhausted.Level mode other where
  expression _ _ _ _ _ := trivial
  binary _ _ _ _ _ _ := trivial
  unary _ _ _ _ _ := trivial
  fails cursor _ := ⟨.unfinished, cursor, rfl⟩
  statement _ _ _ _ _ _ _ _ := trivial

theorem level_exhausted {rules : Rules}
    (fails : ∀ cursor, cursor.kind = .dedent ∨ cursor.kind = .endOfFile → Fails rules.expression cursor) :
    rules.Level mode exhausted where
  expression _ _ _ second _ := .unfinished _ second
  binary _ _ _ _ second _ := .unfinished _ second
  unary _ _ _ second _ := .unfinished _ second
  fails := fails
  statement _ _ _ second _ _ _ _ := .unfinished _ second

theorem level_whole (earlier : List Source.Issue) (depth depthOther : Nat) :
    (ofDepth depth).Level (.whole earlier) (ofDepth depthOther) := by
  induction depth generalizing depthOther with
  | zero => exact exhausted_level _
  | succ depth ih =>
      cases depthOther with
      | zero => exact level_exhausted (expression_fails _)
      | succ depthOther =>
          refine ⟨(ih depthOther).toAbreast.deepen trivial _ _, ?_⟩
          intro _ base first second on line going inside
          exact (Parallel.statement (ih depthOther) (on.based (some first)) line going inside).mono
            fun _ _ _ still => ⟨trivial, .inl still⟩

variable {near far beyond : List Token}

theorem level_strict (fits : (Mode.cut true near far beyond).Fits) (depth depthOther : Nat) :
    (strict depth).Level (.cut true near far beyond) (ofDepth depthOther) := by
  induction depth generalizing depthOther with
  | zero => exact exhausted_level _
  | succ depth ih =>
      cases depthOther with
      | zero => exact level_exhausted (expression_fails _)
      | succ depthOther =>
          refine ⟨(ih depthOther).toAbreast.deepen fits _ _, ?_⟩
          intro nests base first second on line _ _
          have form := Parallel.statementForm (ih depthOther) fits (on.based base) line
          exact (form.statementStrict nests).mono fun _ _ _ closed => closed.loose nests

theorem level_line (fits : (Mode.cut false near far beyond).Fits) (depth depthOther : Nat) :
    (ofDepth depth).Level (.cut false near far beyond) (ofDepth depthOther) := by
  induction depth generalizing depthOther with
  | zero => exact exhausted_level _
  | succ depth ih =>
      cases depthOther with
      | zero => exact level_exhausted (expression_fails _)
      | succ depthOther => exact ⟨(ih depthOther).toAbreast.deepen fits _ _, nofun⟩

end Rules

def trimmed (tokens : List Token) : List Token := tokens.dropWhile (·.kind == .newline)

theorem skipBlank_trims {cursor : Cursor} {head : Token} {others : List Token}
    (split : trimmed cursor.rest = head :: others) (line : head.kind ≠ .newline) :
    cursor.skipBlank.rest = trimmed cursor.rest := by
  have all : cursor.rest = cursor.rest.takeWhile (·.kind == .newline) ++ head :: others := by
    rw [← split]
    exact List.takeWhile_append_dropWhile.symm
  have blank : ∀ token ∈ cursor.rest.takeWhile (·.kind == .newline), token.kind = .newline :=
    fun token member => beq_iff_eq.mp (List.all_eq_true.mp List.all_takeWhile token member)
  rw [(Cursor.skipBlank_over _ blank line all).1, split]

section Rounds

variable {depth count : Nat} {maxErrors : Int} {statements last : List Stmt} {cursor after : Cursor}

theorem rounds_cases {rules : Rules}
    (ran : repeatStep (programRound rules maxErrors) (count + 1) statements cursor = .ok last after)
    (few : after.reports.length < maxErrors) :
    cursor.kind = .endOfFile ∧ last = statements ∧ after = cursor ∨
      cursor.kind ≠ .endOfFile ∧ ∃ next middle, nextAtTop rules statements cursor = .ok next middle ∧
        repeatStep (programRound rules maxErrors) count next middle.skipBlank = .ok last after := by
  obtain ⟨⟨next, more⟩, middle, one, others⟩ := bind_ok ran
  rcases programRound_cases one with ⟨ended, same, rfl⟩ | ⟨going, top, stop, read, stopped⟩
  · cases same
    cases others
    exact .inl ⟨by simpa [Cursor.atEnd] using ended, rfl, rfl⟩
  · refine .inr ⟨by simpa [Cursor.atEnd] using going, top, stop, read, ?_⟩
    rcases stopped with ⟨limit, same, rfl⟩ | ⟨_, same, skipped⟩
    · cases same
      cases others
      exact absurd few (Int.not_lt.mpr limit)
    · cases same
      cases skipped
      exact others

theorem nextAtTop_statement {rules : Rules} (inside : cursor.kind ≠ .dedent)
    (ran : nextAtTop rules statements cursor = .ok last after) :
    ∃ statement, rules.statement cursor = .ok statement after ∧ last = statement :: statements := by
  have top : nextAtTop rules statements cursor =
      (rules.statement >>= fun statement => pure (statement :: statements)) cursor := at?_missing inside
  rw [top] at ran
  obtain ⟨statement, _, one, same⟩ := bind_ok ran
  cases same
  exact ⟨statement, one, rfl⟩

theorem programRound_ended {rules : Rules} (statements : List Stmt) (cursor : Cursor)
    (ended : cursor.kind = .endOfFile) :
    programRound rules maxErrors statements cursor = .ok (statements, false) cursor := by
  change (if cursor.atEnd = true then _ else _ : Reading _) cursor = _
  rw [if_pos (by simpa [Cursor.atEnd] using ended)]
  rfl

theorem rounds_end {rules : Rules} (ended : cursor.kind = .endOfFile)
    (ran : repeatStep (programRound rules maxErrors) count statements cursor = .ok last after) :
    last = statements := by
  cases count with
  | zero => cases ran
  | succ count =>
      rw [repeatStep_done (programRound_ended statements cursor ended)] at ran
      cases ran
      rfl

theorem rounds_pass (room : Room depth cursor)
    (ran : repeatStep (programRound (Rules.ofDepth depth) maxErrors) count statements cursor = .ok last after) :
    Passes cursor after := by
  induction count generalizing statements cursor with
  | zero => cases ran
  | succ count ih =>
      obtain ⟨⟨next, more⟩, middle, one, others⟩ := bind_ok ran
      have leads := Reads.programRound (Rules.sound depth) maxErrors statements cursor room
      rw [one] at leads
      cases more with
      | true => exact leads.1.trans (ih (leads.1.room room) others)
      | false =>
          cases others
          exact leads.1

end Rounds

end Fiscal.Grammar
