import Fiscal.Proofs.Grammar.Measure
import Fiscal.Proofs.Program.Cleared
import Fiscal.Proofs.Token.Order

set_option autoImplicit false

namespace Fiscal.Grammar

open Source Token

def blockStarts (blocks : List Block) : List Location := blocks.map (·.span.start)

def Cursor.indents (cursor : Cursor) : List Location := indentStarts cursor.rest

theorem Cursor.indents_advance {cursor : Cursor} (ended : cursor.Ended) (indent : cursor.kind = .indent) :
    cursor.indents = cursor.current.span.start :: cursor.advance.indents := by
  have going : cursor.kind ≠ .endOfFile := by
    rw [indent]
    decide
  obtain ⟨next, others, ahead⟩ := ended.ahead going
  rw [Cursor.advance_eq going ahead, Cursor.indents, Cursor.rest, ahead]
  exact indentStarts_indent _ _ indent

theorem Passes.indents {first last : Cursor} (passes : Passes first last) :
    last.indents.Sublist first.indents := by
  obtain ⟨passed, split, _⟩ := passes.tokens
  rw [Cursor.indents, Cursor.indents, split, indentStarts_append]
  exact List.sublist_append_right _ _

section Law

variable {α β : Type}

def Gathers (bound : Nat) (before : List Location) (found : α → List Location) (cursor : Cursor)
    (reading : Reading α) : Prop :=
  Room bound cursor → ∀ value after, reading cursor = .ok value after →
    Passes cursor after ∧ (found value ++ after.indents).Sublist (before ++ cursor.indents)

namespace Gathers

variable {bound : Nat} {before : List Location} {middle found : α → List Location} {result : β → List Location}
  {cursor : Cursor} {reading : Reading α} {next : α → Reading β}

theorem bind (first : Gathers bound before middle cursor reading)
    (rest : ∀ value after, Gathers bound (middle value) result after (next value)) :
    Gathers bound before result cursor (reading >>= next) := by
  intro room last final ran
  obtain ⟨value, after, one, other⟩ := bind_ok ran
  obtain ⟨passes, sooner⟩ := first room value after one
  obtain ⟨onward, later⟩ := rest value after (passes.room room) last final other
  exact ⟨passes.trans onward, later.trans sooner⟩

theorem plain {takes good : α → Prop} {twin : Reading α} (reads : Reads bound takes good cursor reading twin) :
    Gathers bound before (fun _ => before) cursor reading := by
  intro room value after ran
  have leads := reads room
  rw [ran] at leads
  exact ⟨leads.1, (List.Sublist.refl before).append leads.1.indents⟩

theorem pure (value : α) (same : found value = before) : Gathers bound before found cursor (Pure.pure value) := by
  rintro _ _ _ ⟨⟩
  rw [same]
  exact ⟨.refl cursor, .refl _⟩

theorem get {next : Cursor → Reading α} (rest : Gathers bound before found cursor (next cursor)) :
    Gathers bound before found cursor (get >>= next) :=
  rest

theorem fails (halt : Halt) : Gathers bound before found cursor (throw halt) := fun _ _ _ => nofun

theorem both {test : Prop} [Decidable test] {first second : Reading α}
    (yes : Gathers bound before found cursor first) (no : Gathers bound before found cursor second) :
    Gathers bound before found cursor (if test then first else second) := by
  split
  · exact yes
  · exact no

theorem closing (first : Location) (value : Span → α) (same : ∀ span, found (value span) = before) :
    Gathers bound before found cursor (spanFrom first >>= fun span => Pure.pure (value span)) :=
  (plain (.spanFrom first)).bind fun span _ => .pure _ (same span)

theorem indented {expected : String} {next : Token → Reading α}
    (rest : ∀ first after, Gathers bound (before ++ [first.span.start]) found after (next first)) :
    Gathers (bound + 1) before found cursor (expect .indent expected >>= next) := by
  intro room last final ran
  obtain ⟨first, after, one, other⟩ := bind_ok ran
  by_cases indent : cursor.kind = .indent
  · have taken : expect .indent expected cursor = .ok cursor.current cursor.advance := by
      change (if (cursor.kind == .indent) = true then _ else _ : Reading Token) cursor = _
      rw [if_pos (by simpa using indent)]
      rfl
    rw [taken] at one
    cases one
    have going : cursor.kind ≠ .endOfFile := by rw [indent]; decide
    have shorter := advance_shorter room.ended going
    have narrow : Room bound cursor.advance :=
      ⟨((Passes.advance cursor).room room).ended, Nat.lt_of_lt_of_le shorter (Nat.le_of_lt_succ room.within)⟩
    obtain ⟨onward, later⟩ := rest _ _ narrow last final other
    refine ⟨(Passes.advance cursor).trans onward, ?_⟩
    rwa [Cursor.indents_advance room.ended indent, ← List.singleton_append, ← List.append_assoc]
  · have refused : expect .indent expected cursor = Grammar.unexpected expected cursor := by
      change (if (cursor.kind == .indent) = true then _ else _ : Reading Token) cursor = _
      rw [if_neg (by simpa using indent)]
    rw [refused] at one
    cases one

section Loops

variable {σ : Type} {kept : σ → List Location} {round : σ → Reading (σ × Bool)}

theorem repeatStep (rounds : ∀ state cursor, Gathers bound (kept state) (fun last => kept last.1) cursor (round state))
    (count : Nat) (state : σ) : Gathers bound (kept state) kept cursor (repeatStep round count state) := by
  induction count generalizing state cursor with
  | zero => exact .fails _
  | succ count ih =>
      refine (rounds state cursor).bind fun last _ => .both ?_ ?_
      · exact ih last.1
      · exact .pure last.1 rfl

theorem repeating (rounds : ∀ state cursor, Gathers bound (kept state) (fun last => kept last.1) cursor (round state))
    (state : σ) (first : kept state = before) : Gathers bound before kept cursor (repeating state round) := by
  rw [← first]
  exact .get (repeatStep rounds _ state)

end Loops

theorem optionalAfter (kind : TokenKind) (going : kind ≠ .endOfFile) {found : Option α → List Location}
    (none : found none = before)
    (some : ∀ cursor, Gathers bound before (fun value => found (some value)) cursor reading) :
    Gathers bound before found cursor (optionalAfter kind reading) := by
  refine (plain (.accept kind going)).bind fun _ after => .both ?_ (.pure _ none)
  exact (some after).bind fun value _ => .pure _ rfl

end Gathers

abbrev Adds (blocks : α → List Block) (bound : Nat) (before : List Location) (cursor : Cursor) (reading : Reading α) :
    Prop :=
  Gathers bound before (fun value => before ++ blockStarts (blocks value)) cursor reading

end Law

structure Rules.Gathering (bound : Nat) (rules twin : Rules) : Prop extends rules.Sound bound twin where
  adds (before : List Location) (cursor : Cursor) : Adds Stmt.blocks bound before cursor rules.statement

namespace Adds

open Gathers

variable {bound : Nat} {before : List Location} {cursor : Cursor}

theorem leaf (first : Location) (stmt : Span → Stmt) (none : ∀ span, (stmt span).blocks = []) :
    Adds Stmt.blocks bound before cursor (spanFrom first >>= fun span => Pure.pure (stmt span)) := by
  refine .closing first stmt fun span => ?_
  rw [none span]
  exact List.append_nil before

theorem runStatement : Adds Stmt.blocks bound before cursor runStatement := by
  refine (plain .step).bind fun _ _ => (plain (.expectName _)).bind fun _ _ => ?_
  refine (plain (.expect .onKeyword _ (by decide))).bind fun _ _ => (plain (.expectName _)).bind fun _ _ => ?_
  exact (plain .expectLineEnd).bind fun _ _ => leaf _ _ fun _ => rfl

theorem importStatement : Adds Stmt.blocks bound before cursor importStatement := by
  refine (plain .step).bind fun _ _ => (plain (.expect .string _ (by decide))).bind fun _ _ => ?_
  refine (plain (.optionalAfter .asKeyword (by decide) fun _ => .expectName _)).bind fun _ _ => ?_
  exact (plain .expectLineEnd).bind fun _ _ => leaf _ _ fun _ => rfl

theorem terminated (stmt : Stmt) (none : stmt.blocks = []) :
    Adds Stmt.blocks bound before cursor (terminated stmt) := by
  refine (plain .expectLineEnd).bind fun _ _ => .pure stmt ?_
  rw [none]
  exact List.append_nil before

section Rules

variable {inner twin : Rules} (rules : inner.Gathering bound twin)

include rules

theorem expression : Gathers (bound + 1) before (fun _ => before) cursor (expression inner) :=
  plain (.expression rules.toExpressive)

theorem nextInBlock (stmts : List Stmt) (cursor : Cursor) :
    Gathers bound (before ++ blockStarts (Stmt.blocksAll stmts.reverse))
      (fun last => before ++ blockStarts (Stmt.blocksAll last.1.reverse)) cursor (nextInBlock inner stmts) := by
  refine .both (.pure _ rfl) ((plain .skipNewlines).bind fun _ after => .both (.pure _ rfl) ?_)
  refine (rules.adds _ after).bind fun stmt _ => .pure _ ?_
  simp [Stmt.blocksAll_eq, blockStarts]

theorem block : Adds Stmt.bodyBlocks (bound + 1) before cursor (block inner) := by
  refine (plain .skipNewlines).bind fun _ _ => indented fun first after => ?_
  refine (Gathers.repeating (nextInBlock rules) [] (List.append_nil _)).bind fun stmts _ => ?_
  refine (plain (.expect .dedent _ (by decide))).bind fun _ cursor => ?_
  change Gathers _ _ _ cursor (Pure.pure (⟨cursor.spanFrom first.span.start, stmts.reverse⟩ : Block))
  refine .pure _ ?_
  rw [Stmt.bodyBlocks, List.append_assoc]
  rfl

theorem binding : Gathers (bound + 1) before (fun _ => before) cursor (binding inner) :=
  plain (.binding rules.toSound)

theorem letStatement : Adds Stmt.blocks (bound + 1) before cursor (letStatement inner) :=
  (plain .step).bind fun _ _ => (binding rules).bind fun _ _ => leaf _ _ fun _ => rfl

theorem setStatement : Adds Stmt.blocks (bound + 1) before cursor (setStatement inner) :=
  (plain .step).bind fun _ _ => (binding rules).bind fun _ _ => leaf _ _ fun _ => rfl

theorem printStatement : Adds Stmt.blocks (bound + 1) before cursor (printStatement inner) := by
  refine (plain .step).bind fun _ _ => (plain (.joined fun _ => .expression rules.toExpressive)).bind fun _ _ => ?_
  exact (plain .expectLineEnd).bind fun _ _ => leaf _ _ fun _ => rfl

theorem conditional : Adds (fun found : Expr × Block => Stmt.bodyBlocks found.2) (bound + 1) before cursor
    (conditional inner) := by
  refine (expression rules).bind fun _ _ => (plain (.accept .thenKeyword (by decide))).bind fun _ _ => ?_
  exact (block rules).bind fun _ _ => .pure _ rfl

theorem nextBranch (branches : List (Branch Stmt)) (cursor : Cursor) :
    Gathers (bound + 1) (before ++ blockStarts (Stmt.branchBlocks branches.reverse))
      (fun last => before ++ blockStarts (Stmt.branchBlocks last.1.reverse)) cursor (nextBranch inner branches) := by
  refine (plain .skipNewlines).bind fun _ _ => .get ((plain .acceptElseIf).bind fun _ _ => .both ?_ (.pure _ rfl))
  refine (conditional rules).bind fun found _ => (plain (.spanFrom _)).bind fun _ _ => .pure _ ?_
  simp [Stmt.branchBlocks_eq, blockStarts]

theorem enclosed (construct : String) (first : Location) (stmt : Span → Block → Stmt)
    (only : ∀ span body, (stmt span body).blocks = Stmt.bodyBlocks body) :
    Adds Stmt.blocks (bound + 1) before cursor
      (Grammar.block inner >>= fun body => closeConstruct construct >>= fun _ =>
        spanFrom first >>= fun span => Pure.pure (stmt span body)) := by
  refine (block rules).bind fun body _ => (plain (.closeConstruct construct)).bind fun _ _ => ?_
  exact .closing first _ fun span => by rw [only]

theorem whileStatement : Adds Stmt.blocks (bound + 1) before cursor (whileStatement inner) := by
  refine (plain .step).bind fun _ _ => (expression rules).bind fun _ _ => ?_
  exact (plain (.acceptAny _ (by decide))).bind fun _ _ => enclosed rules _ _ _ fun _ _ => rfl

theorem rangeLoop (first : Token) (name : String) (start : Expr) :
    Adds Stmt.blocks (bound + 1) before cursor (rangeLoop inner first name start) := by
  refine (expression rules).bind fun _ _ => ?_
  refine (plain (.optionalAfter .stepKeyword (by decide) fun _ => .expression rules.toExpressive)).bind fun _ _ => ?_
  exact (plain (.accept .doKeyword (by decide))).bind fun _ _ => enclosed rules _ _ _ fun _ _ => rfl

theorem itemLoop (first : Token) (name : String) (items : Expr) :
    Adds Stmt.blocks (bound + 1) before cursor (itemLoop inner first name items) :=
  (plain (.accept .doKeyword (by decide))).bind fun _ _ => enclosed rules _ _ _ fun _ _ => rfl

theorem forStatement : Adds Stmt.blocks (bound + 1) before cursor (forStatement inner) := by
  refine (plain .step).bind fun _ _ => (plain (.expectName _)).bind fun _ _ => ?_
  refine (plain (.expect .inKeyword _ (by decide))).bind fun _ _ => (expression rules).bind fun _ _ => ?_
  refine (plain (.accept .toKeyword (by decide))).bind fun _ _ => ?_
  exact .both (rangeLoop rules _ _ _) (itemLoop rules _ _ _)

theorem returnStatement : Adds Stmt.blocks (bound + 1) before cursor (returnStatement inner) := by
  refine (plain .step).bind fun _ _ => (plain (.unlessAny _ fun _ => .expression rules.toExpressive)).bind fun _ _ => ?_
  exact (plain .expectLineEnd).bind fun _ _ => leaf _ _ fun _ => rfl

theorem functionStatement : Adds Stmt.blocks (bound + 1) before cursor (functionStatement inner) := by
  refine (plain .step).bind fun _ _ => (plain (.expectName _)).bind fun _ _ => ?_
  refine (plain (.expect .leftParen _ (by decide))).bind fun _ _ => (plain .parameters).bind fun _ _ => ?_
  exact (plain (.expect .rightParen _ (by decide))).bind fun _ _ => enclosed rules _ _ _ fun _ _ => rfl

theorem scenarioStatement : Adds Stmt.blocks (bound + 1) before cursor (scenarioStatement inner) := by
  refine (plain .step).bind fun _ _ => (plain (.expectName _)).bind fun _ _ => ?_
  exact (plain (.accept .colon (by decide))).bind fun _ _ => enclosed rules _ _ _ fun _ _ => rfl

theorem simulateStatement : Adds Stmt.blocks (bound + 1) before cursor (simulateStatement inner) := by
  refine (plain .step).bind fun _ _ => (plain (.expectName _)).bind fun _ _ => ?_
  refine (plain (.accept .runsKeyword (by decide))).bind fun _ _ => ?_
  refine (plain (.unlessAny _ fun _ => .expression rules.toExpressive)).bind fun _ _ => ?_
  refine (plain (.optionalAfter .stepKeyword (by decide) fun _ => .expression rules.toExpressive)).bind fun _ _ => ?_
  exact (plain .expectLineEnd).bind fun _ _ => leaf _ _ fun _ => rfl

theorem ifStatement : Adds Stmt.blocks (bound + 1) before cursor (ifStatement inner) := by
  refine (plain .step).bind fun _ _ => (conditional rules).bind fun found _ => ?_
  refine (Gathers.repeating (nextBranch rules) [] (List.append_nil _)).bind fun branches middle => ?_
  have last : Adds Stmt.optionBlocks (bound + 1) (before ++ blockStarts (Stmt.bodyBlocks found.2) ++
      blockStarts (Stmt.branchBlocks branches.reverse)) middle (optionalAfter .elseKeyword (Grammar.block inner)) :=
    Gathers.optionalAfter .elseKeyword (by decide) (List.append_nil _) fun _ => block rules
  refine last.bind fun otherwise _ => (plain (.closeConstruct _)).bind fun _ _ => .closing _ _ fun span => ?_
  simp [Stmt.blocks, blockStarts]

omit rules in
theorem description : Gathers bound before (fun _ => before) cursor description := plain .description

theorem posting (side : Side) : Gathers (bound + 1) before (fun _ => before) cursor (posting inner side) := by
  refine (plain .step).bind fun _ _ => (plain (.expectName _)).bind fun _ _ => (expression rules).bind fun _ _ => ?_
  exact description.bind fun _ _ => .closing _ _ fun _ => rfl

theorem nextHolding (holdings : List Posting) (cursor : Cursor) :
    Gathers (bound + 1) before (fun _ => before) cursor (nextHolding inner holdings) :=
  plain (.nextHolding rules.toSound holdings cursor)

theorem portfolioStatement : Adds Stmt.blocks (bound + 1) before cursor (portfolioStatement inner) := by
  refine (plain .step).bind fun _ _ => (plain (.expectName _)).bind fun _ _ => ?_
  refine (plain (.accept .colon (by decide))).bind fun _ _ => (plain .skipNewlines).bind fun _ _ => ?_
  refine (plain (.expect .indent _ (by decide))).bind fun _ _ => ?_
  refine (Gathers.repeating (nextHolding rules) [] rfl).bind fun _ _ => ?_
  refine (plain (.expect .dedent _ (by decide))).bind fun _ _ => (plain (.closeConstruct _)).bind fun _ _ => ?_
  exact leaf _ _ fun _ => rfl

theorem statementForm : Adds Stmt.blocks (bound + 1) before cursor (statementForm inner) := by
  refine (plain .skipNewlines).bind fun _ cursor => .get ?_
  split
  · exact (block rules).bind fun _ _ => .pure _ rfl
  · exact scenarioStatement rules
  · exact runStatement
  · exact simulateStatement rules
  · exact (posting rules _).bind fun _ _ => terminated _ rfl
  · exact (posting rules _).bind fun _ _ => terminated _ rfl
  · exact letStatement rules
  · exact setStatement rules
  · exact printStatement rules
  · exact printStatement rules
  · exact ifStatement rules
  · exact whileStatement rules
  · exact forStatement rules
  · exact returnStatement rules
  · exact functionStatement rules
  · exact importStatement
  · refine .both (portfolioStatement rules) ?_
    exact (expression rules).bind fun _ _ => terminated _ rfl

theorem statement : Adds Stmt.blocks (bound + 1) before cursor (statement inner) := by
  intro room value after ran
  rcases statement_ok ran with form | ⟨diagnostic, refusal, form, rfl, rfl⟩
  · exact statementForm rules room value after form
  · have leads := Reads.statementForm rules.toSound room
    rw [form] at leads
    have passes := leads.recovered diagnostic
    refine ⟨passes, ?_⟩
    change (before ++ [] ++ _).Sublist _
    rw [List.append_nil]
    exact (List.Sublist.refl before).append passes.indents

end Rules

end Adds

theorem Rules.gathering (depth : Nat) : (ofDepth depth).Gathering depth (strict depth) := by
  induction depth with
  | zero => exact ⟨sound 0, fun _ _ => .fails _⟩
  | succ depth ih => exact ⟨sound (depth + 1), fun _ _ => Adds.statement ih⟩

namespace Adds

open Gathers

variable {bound : Nat} {before : List Location} {cursor : Cursor} {inner twin : Rules}
  (rules : inner.Gathering bound twin)

include rules

theorem nextAtTop (stmts : List Stmt) :
    Gathers bound (before ++ blockStarts (Stmt.blocksAll stmts.reverse))
      (fun last => before ++ blockStarts (Stmt.blocksAll last.reverse)) cursor (nextAtTop inner stmts) := by
  refine .both ?_ ?_
  · have reported (diagnostic : Diagnostic) (after : Cursor) :
        Reads bound Never Any after (report diagnostic) (Pure.pure ()) := .report _ _
    have stray : Gathers bound (before ++ blockStarts (Stmt.blocksAll stmts.reverse)) (fun _ => _) cursor
        strayDedent := (plain .step).bind fun _ after => .get (plain (reported _ after))
    exact stray.bind fun _ _ => .pure _ rfl
  · refine (rules.adds _ cursor).bind fun stmt _ => .pure _ ?_
    simp [Stmt.blocksAll_eq, blockStarts]

theorem programRound (maxErrors : Int) (stmts : List Stmt) (cursor : Cursor) :
    Gathers bound (before ++ blockStarts (Stmt.blocksAll stmts.reverse))
      (fun last => before ++ blockStarts (Stmt.blocksAll last.1.reverse)) cursor
      (programRound inner maxErrors stmts) := by
  refine .get (.both (.pure _ rfl) ((nextAtTop rules stmts).bind fun _ _ => .get (.both (.pure _ rfl) ?_)))
  exact (plain .skipNewlines).bind fun _ _ => .pure _ rfl

theorem statements (maxErrors : Int) :
    Adds Stmt.blocksAll bound before cursor (statements inner maxErrors) := by
  refine (plain .skipNewlines).bind fun _ _ => ?_
  exact (Gathers.repeating (programRound rules maxErrors) [] (List.append_nil _)).bind fun _ _ => .pure _ rfl

end Adds

theorem parse_blocks (maxErrors : Int) (lines : Option (List String)) (tokens : List Token) (ends : EndsOnce tokens) :
    (blockStarts (Stmt.blocksAll (parse maxErrors lines tokens).program.statements)).Sublist
      (indentStarts tokens) := by
  cases tokens with
  | nil => exact List.nil_sublist _
  | cons first rest =>
      cases ran : readProgram maxErrors lines first rest with
      | error halt cursor =>
          rw [parse, ran]
          exact List.nil_sublist _
      | ok stmts cursor =>
          have adds : Adds Stmt.blocksAll (rest.length + 2) [] (Cursor.start first rest lines) _ :=
            .statements (Rules.gathering (rest.length + 2)) maxErrors
          rw [parse_ok ran]
          exact (List.sublist_append_left _ _).trans (adds (ends.room lines) stmts cursor ran).2

end Fiscal.Grammar
