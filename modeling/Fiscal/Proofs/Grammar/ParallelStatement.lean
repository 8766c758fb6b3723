import Fiscal.Proofs.Grammar.ParallelExpression

set_option autoImplicit false

namespace Fiscal.Grammar

open Token (Groups)

-- Rules that go the same way in two readings, statements inside blocks included.
structure Rules.Level (mode : Mode) (rules other : Rules) : Prop extends rules.Abreast mode other where
  statement (nests : mode.nests) (base : Option Cursor) (first second : Cursor)
    (on : On mode Groups.none first second) (line : first.kind ≠ .newline) (going : first.kind ≠ .endOfFile)
    (inside : first.kind ≠ .dedent) :
    Parallel mode base (fun _ => Loose mode) first second rules.statement other.statement

namespace Parallel

variable {mode : Mode} {base : Option Cursor} {groups : Groups} {first second : Cursor}

theorem closeConstruct (fits : mode.Fits) (loose : Loose mode first second) (construct : String) :
    Parallel mode base (fun _ => Closed mode) first second (closeConstruct construct)
      (Grammar.closeConstruct construct) :=
  (expectEnd fits loose construct).bind fun _ _ _ on => expectLineEnd fits on

theorem closing (closed : Closed mode first second) (start : Source.Location) (statement : Source.Span → Stmt) :
    Parallel mode base (fun _ => Closed mode) first second
      (Grammar.spanFrom start >>= fun span => Pure.pure (statement span))
      (Grammar.spanFrom start >>= fun span => Pure.pure (statement span)) :=
  .spanFrom closed.same_previous _ (.pure _ closed)

theorem importStatement (fits : mode.Fits) (near : Near mode base groups first second)
    (word : first.kind = .importKeyword) :
    Parallel mode base (fun _ => Closed mode) first second importStatement Grammar.importStatement := by
  refine (advance near word (by decide) (by decide)).bind fun _ _ _ after => ?_
  refine (expect (.based after.2 base) .string _ (by decide) (by decide)).bind fun _ _ _ on => ?_
  refine (optionalAfter on .asKeyword rfl fun _ _ on => expectName (on.based base) _).bind fun _ _ _ on => ?_
  exact (expectLineEnd fits on).bind fun _ _ _ closed => closing closed _ _

theorem runStatement (fits : mode.Fits) (near : Near mode base groups first second)
    (word : first.kind = .runKeyword) :
    Parallel mode base (fun _ => Closed mode) first second runStatement Grammar.runStatement := by
  refine (advance near word (by decide) (by decide)).bind fun _ _ _ after => ?_
  refine (expectName (.based after.2 base) _).bind fun _ _ _ on => ?_
  refine (expect (on.based base) .onKeyword _ (by decide) (by decide)).bind fun _ _ _ on => ?_
  refine (expectName (.based on base) _).bind fun _ _ _ on => ?_
  exact (expectLineEnd fits on).bind fun _ _ _ closed => closing closed _ _

theorem acceptElseIf (on : On mode groups first second) :
    Keeps mode base groups first second acceptElseIf Grammar.acceptElseIf := by
  refine .get ?_
  have same := on.sees .elseKeyword .ifKeyword (by decide) (by decide)
  rw [← on.same_kind]
  change Keeps mode base groups first second
    (if (first.kind == .elseIfKeyword) = true then _
      else if (first.current.kind == .elseKeyword && first.kindAhead 0 == .ifKeyword) = true then _ else _)
    (if (first.kind == .elseIfKeyword) = true then _
      else if (first.current.kind == .elseKeyword && second.kindAhead 0 == .ifKeyword) = true then _ else _)
  rw [← same]
  refine .both (fun found => ?_) fun _ => .both (fun found => ?_) fun _ => .pure _ on
  · refine (step (on.based base) ?_).bind fun _ _ _ after => .pure _ after.2
    rw [beq_iff_eq.mp found]
    rfl
  · simp only [Bool.and_eq_true, beq_iff_eq] at found
    refine (advanceTo (on.based base) ?_).bind fun _ _ _ after => ?_
    · rw [Cursor.kind, found.1]
      rfl
    · obtain ⟨_, kind, _, on⟩ := after
      refine (step (on.based base) ?_).bind fun _ _ _ after => .pure _ after.2
      rw [kind, found.2]
      rfl

theorem description (on : On mode groups first second) :
    Keeps mode base groups first second description Grammar.description := by
  refine .get ?_
  rw [← on.same_current]
  dsimp only
  split
  · rename_i kind _
    refine (step (on.based base) ?_).bind fun _ _ _ after => .pure _ after.2
    rw [Cursor.kind, kind]
    rfl
  · rename_i kind _
    refine (step (on.based base) ?_).bind fun _ _ _ after => .pure _ after.2
    rw [Cursor.kind, kind]
    rfl
  · exact .pure _ on

theorem closeConstruct_fails {cursor : Cursor} (construct : String) (ended : cursor.kind = .endOfFile) :
    Fails (Grammar.closeConstruct construct) cursor := by
  have still : Grammar.skipNewlines cursor = .ok () cursor := by
    change EStateM.Result.ok () cursor.skipBlank = _
    rw [Cursor.skipBlank_stop (by rw [ended]; decide)]
  exact .bind (.after still (.bind (.expect (by rw [ended]; decide))))

section Rules

variable {inner other : Rules} (rules : inner.Level mode other) (fits : mode.Fits)

include rules fits

theorem nextInBlock (statements : List Stmt) (first second : Cursor) (loose : Loose mode first second) :
    Parallel mode base (fun last one two => if last.2 = true then Loose mode one two else Poised mode one two)
        first second (nextInBlock inner statements) (Grammar.nextInBlock other statements) ∨
      Stalls mode first (Grammar.nextInBlock inner statements) := by
  refine nextLine fits statements loose (fun one two on line => ?_) (fun cursor dedent => ?_)
    (fun cursor dedent => ?_) fun cursor ended => .inr ?_
  · have nests := loose.1
    refine .atAny on.same_kind _ (.both (fun _ => .pure _ ⟨nests, .inl on⟩) fun going => ?_)
    simp only [List.contains_cons, Bool.or_eq_true, beq_iff_eq, not_or] at going
    refine (rules.statement nests base one two on line going.2.1 going.1).bind fun _ _ _ loose => ?_
    exact .pure _ loose
  · exact atAny_found (by simp [dedent])
  · exact atAny_found (by simp [dedent])
  · exact atAny_found (by simp [ended])

theorem block (near : Near mode base groups first second) :
    Parallel mode base (fun _ one two => mode.nests ∧ Closed mode one two) first second (block inner)
      (Grammar.block other) := by
  refine indented fits near _ fun _ _ _ nests on _ => ?_
  refine overLines (nextInBlock rules fits) (fun statements => nextLine_stuck statements _) []
    ⟨nests, .inl on⟩ (fun _ _ _ poised => ?_) fun _ _ ended => .bind (.expect (by rw [ended]; decide))
  refine (dedent poised _).bind fun _ _ _ closed => ?_
  exact .spanFrom closed.2.same_previous _ (.pure _ closed)

theorem enclosed (near : Near mode base groups first second) (construct : String) (start : Source.Location)
    (statement : Source.Span → Block → Stmt) :
    Parallel mode base (fun _ => Closed mode) first second
      (Grammar.block inner >>= fun body => Grammar.closeConstruct construct >>= fun _ =>
        Grammar.spanFrom start >>= fun span => Pure.pure (statement span body))
      (Grammar.block other >>= fun body => Grammar.closeConstruct construct >>= fun _ =>
        Grammar.spanFrom start >>= fun span => Pure.pure (statement span body)) := by
  refine (block rules fits near).bind fun _ _ _ ended => ?_
  exact (closeConstruct fits (ended.2.loose ended.1) _).bind fun _ _ _ closed => closing closed _ _

theorem binding (on : On mode groups first second) :
    Parallel mode base (fun _ => Closed mode) first second (binding inner) (Grammar.binding other) := by
  refine (expectName (on.based base) _).bind fun _ _ _ on => ?_
  refine (expect (on.based base) .equal _ (by decide) (by decide)).bind fun _ _ _ on => ?_
  refine (expression rules.toAbreast fits (.based on base)).bind fun _ _ _ on => ?_
  exact (expectLineEnd fits on).bind fun _ _ _ closed => .pure _ closed

theorem letStatement (near : Near mode base groups first second) (word : first.kind = .letKeyword) :
    Parallel mode base (fun _ => Closed mode) first second (letStatement inner) (Grammar.letStatement other) := by
  refine (advance near word (by decide) (by decide)).bind fun _ _ _ after => ?_
  exact (binding rules fits after.2).bind fun _ _ _ closed => closing closed _ _

theorem setStatement (near : Near mode base groups first second) (word : first.kind = .setKeyword) :
    Parallel mode base (fun _ => Closed mode) first second (setStatement inner) (Grammar.setStatement other) := by
  refine (advance near word (by decide) (by decide)).bind fun _ _ _ after => ?_
  exact (binding rules fits after.2).bind fun _ _ _ closed => closing closed _ _

theorem printStatement (near : Near mode base groups first second) (plain : TokenKind.isPlain first.kind = true) :
    Parallel mode base (fun _ => Closed mode) first second (printStatement inner)
      (Grammar.printStatement other) := by
  refine (step near plain).bind fun _ _ _ after => ?_
  refine (joined (.based after.2 base) fun _ _ near => expression rules.toAbreast fits near).bind
    fun _ _ _ on => ?_
  exact (expectLineEnd fits on).bind fun _ _ _ closed => closing closed _ _

theorem conditional (on : On mode groups first second) :
    Parallel mode base (fun _ one two => mode.nests ∧ Closed mode one two) first second (conditional inner)
      (Grammar.conditional other) := by
  refine (expression rules.toAbreast fits (on.based base)).bind fun _ _ _ on => ?_
  refine (accept on .thenKeyword rfl).bind fun _ _ _ on => ?_
  exact (block rules fits (on.based base)).bind fun _ _ _ ended => .pure _ ended

omit rules fits in
theorem acceptElseIf_ended {cursor : Cursor} (ended : cursor.kind = .dedent ∨ cursor.kind = .endOfFile) :
    Grammar.acceptElseIf cursor = .ok false cursor := by
  obtain ⟨previous, ⟨kind, payload, lexeme, span⟩, ahead, lines, reports⟩ := cursor
  rcases ended with rfl | rfl <;> rfl

omit rules fits in
theorem nextBranch_ends (rules : Rules) (branches : List (Branch Stmt)) (cursor : Cursor)
    (ended : cursor.skipBlank.kind = .dedent ∨ cursor.skipBlank.kind = .endOfFile) :
    Grammar.nextBranch rules branches cursor = .ok (branches, false) cursor.skipBlank := by
  change EStateM.bind Grammar.acceptElseIf _ cursor.skipBlank = _
  unfold EStateM.bind
  rw [acceptElseIf_ended ended]
  rfl

omit rules fits in
theorem nextBranch_stuck (rules : Rules) (branches : List (Branch Stmt)) (cursor : Cursor)
    (ended : cursor.kind = .endOfFile) :
    Grammar.nextBranch rules branches cursor = .ok (branches, false) cursor := by
  have still : cursor.skipBlank = cursor := Cursor.skipBlank_stop (by rw [ended]; decide)
  have stops := nextBranch_ends rules branches cursor (by rw [still]; exact .inr ended)
  rwa [still] at stops

theorem nextBranch (branches : List (Branch Stmt)) (first second : Cursor) (loose : Loose mode first second) :
    Parallel mode base (fun last one two => if last.2 = true then Loose mode one two else Poised mode one two)
        first second (nextBranch inner branches) (Grammar.nextBranch other branches) ∨
      Stalls mode first (Grammar.nextBranch inner branches) := by
  obtain ⟨nests, on | lagging⟩ := loose
  · rcases (Near.skip fits on) with ⟨still, _⟩ | ⟨gapped, _⟩
    · refine .inl ?_
      have skipped : Parallel mode base (fun _ => On mode Groups.none) first second skipNewlines skipNewlines :=
        ⟨rfl, still⟩
      refine skipped.bind fun _ one two on => .get ?_
      rw [← on.same_current]
      refine (acceptElseIf on).bind fun _ one two on => .both (fun _ => ?_) fun _ => .pure _ ⟨nests, .inl on⟩
      refine (conditional rules fits on).bind fun _ _ _ ended => .spanFrom ended.2.same_previous _ ?_
      exact .pure _ (ended.2.loose nests)
    · obtain ⟨⟨kind, same, _⟩ | ended, _⟩ := gapped.cases
      · refine .inl ?_
        have also : second.skipBlank.kind = .dedent := by rw [Cursor.kind, ← same]; exact kind
        unfold Parallel
        rw [nextBranch_ends inner branches first (.inl kind), nextBranch_ends other branches second (.inl also)]
        exact ⟨rfl, nests, .inr gapped⟩
      · refine .inr ⟨gapped.strict_of_nests nests, (branches, false), first.skipBlank, ?_, ended⟩
        exact nextBranch_ends inner branches first (.inr ended)
  · exact past nests lagging (fun cursor kind => nextBranch_ends inner branches cursor (.inl kind))
      (fun cursor kind => nextBranch_ends other branches cursor (.inl kind)) (nextBranch_stuck inner branches)

omit rules fits in
theorem optionalAfter_missing {α : Type} {kind : TokenKind} {reading : Reading α} {cursor : Cursor}
    (missing : cursor.kind ≠ kind) : Grammar.optionalAfter kind reading cursor = .ok none cursor := by
  have absent : Grammar.accept kind cursor = .ok false cursor := at?_missing missing
  change EStateM.bind (Grammar.accept kind) _ cursor = _
  unfold EStateM.bind
  rw [absent]
  rfl

theorem otherwise {α : Type} {post : α → Cursor → Cursor → Prop} (poised : Poised mode first second)
    (construct : String) {next nextOther : Option Block → Unit → Reading α}
    (rest : ∀ body one two, Closed mode one two → Parallel mode base post one two (next body ()) (nextOther body ())) :
    Parallel mode base post first second
      (Grammar.optionalAfter .elseKeyword (Grammar.block inner) >>= fun body =>
        Grammar.closeConstruct construct >>= next body)
      (Grammar.optionalAfter .elseKeyword (Grammar.block other) >>= fun body =>
        Grammar.closeConstruct construct >>= nextOther body) := by
  have closes (body : Option Block) (one two : Cursor) (loose : Loose mode one two) :
      Parallel mode base post one two (Grammar.closeConstruct construct >>= next body)
        (Grammar.closeConstruct construct >>= nextOther body) :=
    (closeConstruct fits loose construct).bind fun _ one two closed => rest body one two closed
  obtain ⟨nests, on | gapped⟩ := poised
  · have chosen : Parallel mode base (fun _ => Loose mode) first second
        (Grammar.optionalAfter .elseKeyword (Grammar.block inner))
        (Grammar.optionalAfter .elseKeyword (Grammar.block other)) := by
      refine (accept on .elseKeyword rfl).bind fun _ one two on =>
        .both (fun _ => ?_) fun _ => .pure _ ⟨nests, .inl on⟩
      exact (block rules fits (on.based base)).bind fun _ _ _ ended => .pure _ (ended.2.loose nests)
    exact chosen.bind closes
  · obtain ⟨⟨kind, same, _⟩ | ended, _⟩ := gapped.cases
    · have also : second.kind = .dedent := by rw [Cursor.kind, ← same]; exact kind
      have chosen : Parallel mode base (fun _ => Loose mode) first second
          (Grammar.optionalAfter .elseKeyword (Grammar.block inner))
          (Grammar.optionalAfter .elseKeyword (Grammar.block other)) := by
        unfold Parallel
        rw [optionalAfter_missing (by rw [kind]; decide), optionalAfter_missing (by rw [also]; decide)]
        exact ⟨rfl, nests, .inr gapped.lagging⟩
      exact chosen.bind closes
    · refine .lost (gapped.strict_of_nests nests) ?_
      refine .after (optionalAfter_missing (by rw [ended]; decide)) (.bind ?_)
      exact closeConstruct_fails construct ended

theorem ifStatement (near : Near mode base groups first second) (word : first.kind = .ifKeyword) :
    Parallel mode base (fun _ => Closed mode) first second (ifStatement inner) (Grammar.ifStatement other) := by
  refine (advance near word (by decide) (by decide)).bind fun _ _ _ after => ?_
  refine (conditional rules fits after.2).bind fun _ _ _ ended => ?_
  refine overLines (nextBranch rules fits) (nextBranch_stuck inner) [] (ended.2.loose ended.1)
    (fun _ _ _ poised => ?_) fun _ _ last => ?_
  · exact otherwise rules fits poised _ fun _ _ _ closed => closing closed _ _
  · refine .after (optionalAfter_missing (by rw [last]; decide)) (.bind ?_)
    exact closeConstruct_fails _ last

theorem whileStatement (near : Near mode base groups first second) (word : first.kind = .whileKeyword) :
    Parallel mode base (fun _ => Closed mode) first second (whileStatement inner)
      (Grammar.whileStatement other) := by
  refine (advance near word (by decide) (by decide)).bind fun _ _ _ after => ?_
  refine (expression rules.toAbreast fits (.based after.2 base)).bind fun _ _ _ on => ?_
  refine (acceptAny on _ (by decide)).bind fun _ _ _ on => ?_
  exact enclosed rules fits (on.based base) _ _ _

theorem rangeLoop (on : On mode groups first second) (token : Token) (name : String) (start : Expr) :
    Parallel mode base (fun _ => Closed mode) first second (rangeLoop inner token name start)
      (Grammar.rangeLoop other token name start) := by
  refine (expression rules.toAbreast fits (on.based base)).bind fun _ _ _ on => ?_
  refine (optionalAfter on .stepKeyword rfl fun _ _ on =>
    expression rules.toAbreast fits (on.based base)).bind fun _ _ _ on => ?_
  refine (accept on .doKeyword rfl).bind fun _ _ _ on => ?_
  exact enclosed rules fits (on.based base) _ _ _

theorem itemLoop (on : On mode groups first second) (token : Token) (name : String) (items : Expr) :
    Parallel mode base (fun _ => Closed mode) first second (itemLoop inner token name items)
      (Grammar.itemLoop other token name items) := by
  refine (accept on .doKeyword rfl).bind fun _ _ _ on => ?_
  exact enclosed rules fits (on.based base) _ _ _

theorem forStatement (near : Near mode base groups first second) (word : first.kind = .forKeyword) :
    Parallel mode base (fun _ => Closed mode) first second (forStatement inner) (Grammar.forStatement other) := by
  refine (advance near word (by decide) (by decide)).bind fun _ _ _ after => ?_
  refine (expectName (.based after.2 base) _).bind fun _ _ _ on => ?_
  refine (expect (on.based base) .inKeyword _ (by decide) (by decide)).bind fun _ _ _ on => ?_
  refine (expression rules.toAbreast fits (.based on base)).bind fun _ _ _ on => ?_
  refine (accept on .toKeyword rfl).bind fun _ _ _ on => ?_
  exact .both (fun _ => rangeLoop rules fits on _ _ _) fun _ => itemLoop rules fits on _ _ _

theorem returnStatement (near : Near mode base groups first second) (word : first.kind = .returnKeyword) :
    Parallel mode base (fun _ => Closed mode) first second (returnStatement inner)
      (Grammar.returnStatement other) := by
  refine (advance near word (by decide) (by decide)).bind fun _ _ _ after => ?_
  have on : On mode groups _ _ := after.2
  refine (unlessAny on _ (expression rules.toAbreast fits (on.based base))).bind fun _ _ _ on => ?_
  exact (expectLineEnd fits on).bind fun _ _ _ closed => closing closed _ _

theorem functionStatement (near : Near mode base groups first second) (word : first.kind = .functionKeyword) :
    Parallel mode base (fun _ => Closed mode) first second (functionStatement inner)
      (Grammar.functionStatement other) := by
  refine (advance near word (by decide) (by decide)).bind fun _ _ _ after => ?_
  refine (expectName (.based after.2 base) _).bind fun _ _ _ on => ?_
  refine (expect (on.based base) .leftParen _ (by decide) (by decide)).bind fun _ _ _ opened => ?_
  refine (parameters opened).bind fun _ _ _ on => ?_
  refine (expect (on.based base) .rightParen _ (by decide) (by decide)).bind fun _ _ _ closed => ?_
  exact enclosed rules fits (.based closed base) _ _ _

theorem scenarioStatement (near : Near mode base groups first second) (word : first.kind = .scenarioKeyword) :
    Parallel mode base (fun _ => Closed mode) first second (scenarioStatement inner)
      (Grammar.scenarioStatement other) := by
  refine (advance near word (by decide) (by decide)).bind fun _ _ _ after => ?_
  refine (expectName (.based after.2 base) _).bind fun _ _ _ on => ?_
  refine (accept on .colon rfl).bind fun _ _ _ on => ?_
  exact enclosed rules fits (on.based base) _ _ _

theorem simulateStatement (near : Near mode base groups first second) (word : first.kind = .simulateKeyword) :
    Parallel mode base (fun _ => Closed mode) first second (simulateStatement inner)
      (Grammar.simulateStatement other) := by
  refine (advance near word (by decide) (by decide)).bind fun _ _ _ after => ?_
  refine (expectName (.based after.2 base) _).bind fun _ _ _ on => ?_
  refine (accept on .runsKeyword rfl).bind fun _ _ _ on => ?_
  refine (unlessAny on _ (expression rules.toAbreast fits (on.based base))).bind fun _ _ _ on => ?_
  refine (optionalAfter on .stepKeyword rfl fun _ _ on =>
    expression rules.toAbreast fits (on.based base)).bind fun _ _ _ on => ?_
  exact (expectLineEnd fits on).bind fun _ _ _ closed => closing closed _ _

theorem posting (near : Near mode base groups first second) (side : Side)
    (plain : TokenKind.isPlain first.kind = true) :
    Keeps mode base groups first second (posting inner side) (Grammar.posting other side) := by
  refine (step near plain).bind fun _ _ _ after => ?_
  refine (expectName (.based after.2 base) _).bind fun _ _ _ on => ?_
  refine (expression rules.toAbreast fits (on.based base)).bind fun _ _ _ on => ?_
  refine (description on).bind fun _ _ _ on => ?_
  exact .spanFrom on.same_previous _ (.pure _ on)

theorem nextHolding (holdings : List Posting) (first second : Cursor) (loose : Loose mode first second) :
    Parallel mode base (fun last one two => if last.2 = true then Loose mode one two else Poised mode one two)
        first second (nextHolding inner holdings) (Grammar.nextHolding other holdings) ∨
      Stalls mode first (Grammar.nextHolding inner holdings) := by
  refine nextLine fits holdings loose (fun one two on _ => ?_) (fun cursor dedent => ?_)
    (fun cursor dedent => ?_) fun cursor ended => .inl ?_
  · have nests := loose.1
    refine .at? on.same_kind _ (.both (fun _ => .pure _ ⟨nests, .inl on⟩) fun _ => .kindHere on.same_kind ?_)
    split
    · exact .unexpected (on.based base) _
    · rename_i side found
      refine (posting rules fits (on.based base) side (side_plain found)).bind fun _ _ _ on => ?_
      exact (expectLineEnd fits on).bind fun _ _ _ closed => .pure _ (closed.loose nests)
  · exact at?_found dedent
  · exact at?_found dedent
  · refine ⟨.refused (cursor.unexpected "DEBIT or CREDIT holding"), cursor, ?_⟩
    refine (at?_missing (by rw [ended]; decide)).trans ?_
    rw [kindHere_run, ended]
    rfl

theorem portfolioStatement (near : Near mode base groups first second) (word : first.kind = .portfolioKeyword) :
    Parallel mode base (fun _ => Closed mode) first second (portfolioStatement inner)
      (Grammar.portfolioStatement other) := by
  refine (advance near word (by decide) (by decide)).bind fun _ _ _ after => ?_
  refine (expectName (.based after.2 base) _).bind fun _ _ _ on => ?_
  refine (accept on .colon rfl).bind fun _ _ _ on => ?_
  refine indented fits (on.based base) _ fun _ _ _ nests on _ => ?_
  refine overLines (nextHolding rules fits) (fun holdings => nextLine_stuck holdings _) [] ⟨nests, .inl on⟩
    (fun _ _ _ poised => ?_) fun _ _ ended => .bind (.expect (by rw [ended]; decide))
  refine (dedent poised _).bind fun _ _ _ ended => ?_
  exact (closeConstruct fits (ended.2.loose nests) _).bind fun _ _ _ closed => closing closed _ _

omit rules in
theorem terminated (on : On mode groups first second) (statement : Stmt) :
    Parallel mode base (fun _ => Closed mode) first second (terminated statement)
      (Grammar.terminated statement) :=
  (expectLineEnd fits on).bind fun _ _ _ closed => .pure _ closed

theorem statementForm (near : Near mode base groups first second) (line : first.kind ≠ .newline) :
    Parallel mode base (fun _ => Closed mode) first second (statementForm inner)
      (Grammar.statementForm other) := by
  have skipped : Parallel mode base (fun _ one two => one = first ∧ two = second) first second
      Grammar.skipNewlines Grammar.skipNewlines := by
    refine ⟨rfl, Cursor.skipBlank_stop line, Cursor.skipBlank_stop ?_⟩
    rwa [← near.same_kind]
  refine skipped.bind fun _ one two stays => ?_
  obtain ⟨rfl, rfl⟩ := stays
  refine .get ?_
  rw [← near.same_kind]
  split
  · refine (block rules fits near).bind fun _ _ _ ended => .pure _ ended.2
  · exact scenarioStatement rules fits near ‹one.kind = _›
  · exact runStatement fits near ‹one.kind = _›
  · exact simulateStatement rules fits near ‹one.kind = _›
  · rename_i kind
    refine (posting rules fits near _ (by rw [kind]; rfl)).bind fun _ _ _ on => terminated fits on _
  · rename_i kind
    refine (posting rules fits near _ (by rw [kind]; rfl)).bind fun _ _ _ on => terminated fits on _
  · exact letStatement rules fits near ‹one.kind = _›
  · exact setStatement rules fits near ‹one.kind = _›
  · rename_i kind
    exact printStatement rules fits near (by rw [kind]; rfl)
  · rename_i kind
    exact printStatement rules fits near (by rw [kind]; rfl)
  · exact ifStatement rules fits near ‹one.kind = _›
  · exact whileStatement rules fits near ‹one.kind = _›
  · exact forStatement rules fits near ‹one.kind = _›
  · exact returnStatement rules fits near ‹one.kind = _›
  · exact functionStatement rules fits near ‹one.kind = _›
  · exact importStatement fits near ‹one.kind = _›
  · rw [← near.named]
    refine .both (fun portfolio => ?_) fun _ => ?_
    · exact portfolioStatement rules fits near (beq_iff_eq.mp (Bool.and_eq_true_iff.mp portfolio).1)
    · exact (expression rules.toAbreast fits near).bind fun _ _ _ on => terminated fits on _

end Rules

end Parallel

end Fiscal.Grammar
