import Fiscal.Proofs.Grammar.Expression
import Fiscal.Proofs.Program.Parts

set_option autoImplicit false

namespace Fiscal

def Stmt.isInvalid : Stmt → Bool
  | invalid _ _ => true
  | _ => false

inductive Stmt.Clean : Stmt → Prop where
  | intro (statement : Stmt) (proper : statement.isInvalid = false)
      (parts : ∀ inner ∈ statement.statements, Clean inner) : Clean statement

namespace Grammar

def AllClean (statements : List Stmt) : Prop := ∀ statement ∈ statements, statement.Clean

structure Rules.Sound (bound : Nat) (rules twin : Rules) : Prop extends
    rules.Expressive bound twin where
  statement (cursor : Cursor) (going : cursor.kind ≠ .endOfFile) (inside : cursor.kind ≠ .dedent) :
    Reads bound Always Stmt.Clean cursor rules.statement twin.statement

theorem Stmt.clean_leaf (statement : Stmt) (proper : statement.isInvalid = false)
    (leaf : statement.statements = []) : statement.Clean :=
  .intro statement proper (by simp [leaf])

theorem Stmt.clean_body (statement : Stmt) (body : Block)
    (proper : statement.isInvalid = false)
    (only : statement.statements = body.statements) (clean : AllClean body.statements) : statement.Clean :=
  .intro statement proper (by rw [only]; exact clean)

namespace Reads

variable {bound : Nat} {cursor : Cursor}

theorem report {good : Unit → Prop} (diagnostic : Source.Diagnostic) (twin : Reading Unit) :
    Reads bound Never good cursor (report diagnostic) twin := by
  intro _
  refine ⟨⟨⟨[], rfl, by simp, rfl⟩, rfl, List.suffix_cons _ _⟩, False.elim, fun same => ?_⟩
  have lengths := congrArg List.length same
  simp at lengths

section Rules

variable {inner twin : Rules} (rules : inner.Sound bound twin)

include rules

theorem nextInBlock (statements : List Stmt) (cursor : Cursor) :
    Reads bound More (fun last => AllClean statements → AllClean last.1) cursor
      (nextInBlock inner statements) (Grammar.nextInBlock twin statements) := by
  refine .atAny _ (.both (fun _ => .pure _ nofun id) fun _ => ?_)
  refine skipNewlines.bind fun _ after => .atAny _ (.both (fun _ => .pure _ nofun id) fun inside => ?_)
  simp only [List.contains_cons, Bool.or_eq_true, beq_iff_eq, not_or] at inside
  refine (rules.statement after inside.2.1 inside.1).gaining fun statement _ => ?_
  exact .pure _ id fun clean others => List.forall_mem_cons.mpr ⟨clean, others⟩

theorem block :
    Reads (bound + 1) Always (fun body => AllClean body.statements) cursor (block inner)
      (Grammar.block twin) := by
  refine skipNewlines.bind fun _ _ => (expect .indent _ (by decide)).entering fun _ _ => ?_
  refine (repeating (nextInBlock rules) []).holding fun statements _ => ?_
  refine (expect .dedent _ (by decide)).bind fun _ _ => (spanFrom _).bind fun _ _ => .pure _ id ?_
  intro clean statement member
  exact clean (by simp [AllClean]) statement (List.mem_reverse.mp member)

omit rules in
theorem closeConstruct (construct : String) :
    Reads bound Never Any cursor (closeConstruct construct) (Grammar.closeConstruct construct) :=
  (expectEnd construct).bind fun _ _ => expectLineEnd

theorem binding : Reads (bound + 1) Never Any cursor (binding inner) (Grammar.binding twin) := by
  refine (expectName _).bind fun _ _ => ?_
  refine (expect .equal _ (by decide)).bind fun _ _ => ?_
  refine (expression rules.toExpressive).bind fun _ _ => ?_
  exact expectLineEnd.bind fun _ _ => .give _

omit rules in
theorem leaf (first : Source.Location) (statement : Source.Span → Stmt)
    (proper : ∀ span, (statement span).isInvalid = false)
    (only : ∀ span, (statement span).statements = []) :
    Reads bound Never Stmt.Clean cursor (Grammar.spanFrom first >>= fun span => Pure.pure (statement span))
      (Grammar.spanFrom first >>= fun span => Pure.pure (statement span)) :=
  (spanFrom first).bind fun span _ => .pure _ id (Stmt.clean_leaf _ (proper span) (only span))

theorem letStatement (going : cursor.kind ≠ .endOfFile) :
    Reads (bound + 1) Always Stmt.Clean cursor (letStatement inner) (Grammar.letStatement twin) := by
  refine (advance going).taking fun _ _ => (binding rules).bind fun _ _ => ?_
  exact leaf _ _ (fun _ => rfl) fun _ => rfl

theorem setStatement (going : cursor.kind ≠ .endOfFile) :
    Reads (bound + 1) Always Stmt.Clean cursor (setStatement inner) (Grammar.setStatement twin) := by
  refine (advance going).taking fun _ _ => (binding rules).bind fun _ _ => ?_
  exact leaf _ _ (fun _ => rfl) fun _ => rfl

theorem printStatement (going : cursor.kind ≠ .endOfFile) :
    Reads (bound + 1) Always Stmt.Clean cursor (printStatement inner) (Grammar.printStatement twin) := by
  refine (advance going).taking fun _ _ => ?_
  refine (joined fun _ => expression rules.toExpressive).bind fun _ _ => ?_
  exact expectLineEnd.bind fun _ _ => leaf _ _ (fun _ => rfl) fun _ => rfl

omit rules in
theorem acceptElseIf : Reads bound (· = true) Any cursor acceptElseIf Grammar.acceptElseIf := by
  refine .get (.both (fun found => ?_) fun _ => .both (fun found => ?_) fun _ => .pure _ nofun trivial)
  · exact (advance (by rw [beq_iff_eq.mp found]; decide)).taking fun _ _ => .give _
  · have word := beq_iff_eq.mp (Bool.and_eq_true_iff.mp found).1
    exact (advance (by rw [word]; decide)).taking fun _ _ => step.bind fun _ _ => .give _

theorem conditional :
    Reads (bound + 1) Always (fun found => AllClean found.2.statements) cursor (conditional inner)
      (Grammar.conditional twin) := by
  refine (expression rules.toExpressive).taking fun _ _ => ?_
  refine (accept .thenKeyword (by decide)).bind fun _ _ => ?_
  exact (block rules).holding fun _ _ => .pure _ id id

def CleanBranches (branches : List (Branch Stmt)) : Prop :=
  ∀ branch ∈ branches, AllClean branch.body.statements

theorem nextBranch (branches : List (Branch Stmt)) (cursor : Cursor) :
    Reads (bound + 1) More (fun last => CleanBranches branches → CleanBranches last.1) cursor
      (nextBranch inner branches) (Grammar.nextBranch twin branches) := by
  refine skipNewlines.bind fun _ _ => .get ?_
  refine acceptElseIf.bind fun _ _ => .both (fun _ => ?_) fun _ => .pure _ nofun id
  refine (conditional rules).gaining fun _ _ => (spanFrom _).bind fun _ _ => ?_
  exact .pure _ id fun clean others => List.forall_mem_cons.mpr ⟨clean, others⟩

theorem ifStatement (going : cursor.kind ≠ .endOfFile) :
    Reads (bound + 1) Always Stmt.Clean cursor (ifStatement inner) (Grammar.ifStatement twin) := by
  refine (advance going).taking fun _ _ => ?_
  refine (conditional rules).holding fun found _ => ?_
  refine (repeating (nextBranch rules) []).holding fun branches _ => ?_
  refine (optionalAfter .elseKeyword (by decide) fun _ => block rules).holding fun otherwise _ => ?_
  refine (closeConstruct _).bind fun _ _ => (spanFrom _).bind fun _ _ => .pure _ id ?_
  intro other others body
  refine Stmt.Clean.intro _ rfl fun inner member => ?_
  simp only [Stmt.statements, List.mem_append, List.mem_flatMap, Option.mem_toList] at member
  rcases member with (first | ⟨branch, among, later⟩) | ⟨last, chosen, later⟩
  · exact body inner first
  · exact others (by simp [CleanBranches]) branch (List.mem_reverse.mp among) inner later
  · exact other last chosen inner later

theorem enclosed (construct : String) (first : Source.Location) (statement : Source.Span → Block → Stmt)
    (proper : ∀ span body, (statement span body).isInvalid = false)
    (only : ∀ span body, (statement span body).statements = body.statements) :
    Reads (bound + 1) Never Stmt.Clean cursor
      (Grammar.block inner >>= fun body => Grammar.closeConstruct construct >>= fun _ =>
        Grammar.spanFrom first >>= fun span => Pure.pure (statement span body))
      (Grammar.block twin >>= fun body => Grammar.closeConstruct construct >>= fun _ =>
        Grammar.spanFrom first >>= fun span => Pure.pure (statement span body)) := by
  refine (block rules).holding fun body _ => ?_
  refine (closeConstruct _).bind fun _ _ => (spanFrom _).bind fun span _ => .pure _ id fun clean => ?_
  exact Stmt.clean_body _ body (proper span body) (only span body) clean

theorem whileStatement (going : cursor.kind ≠ .endOfFile) :
    Reads (bound + 1) Always Stmt.Clean cursor (whileStatement inner) (Grammar.whileStatement twin) := by
  refine (advance going).taking fun _ _ => ?_
  refine (expression rules.toExpressive).bind fun _ _ => ?_
  refine (acceptAny _ (by decide)).bind fun _ _ => ?_
  exact enclosed rules _ _ _ (fun _ _ => rfl) fun _ _ => rfl

theorem rangeLoop (first : Token) (name : String) (start : Expr) :
    Reads (bound + 1) Never Stmt.Clean cursor (rangeLoop inner first name start)
      (Grammar.rangeLoop twin first name start) := by
  refine (expression rules.toExpressive).bind fun _ _ => ?_
  refine (optionalAfter .stepKeyword (by decide) fun _ => expression rules.toExpressive).bind fun _ _ => ?_
  refine (accept .doKeyword (by decide)).bind fun _ _ => ?_
  exact enclosed rules _ _ _ (fun _ _ => rfl) fun _ _ => rfl

theorem itemLoop (first : Token) (name : String) (items : Expr) :
    Reads (bound + 1) Never Stmt.Clean cursor (itemLoop inner first name items)
      (Grammar.itemLoop twin first name items) := by
  refine (accept .doKeyword (by decide)).bind fun _ _ => ?_
  exact enclosed rules _ _ _ (fun _ _ => rfl) fun _ _ => rfl

theorem forStatement (going : cursor.kind ≠ .endOfFile) :
    Reads (bound + 1) Always Stmt.Clean cursor (forStatement inner) (Grammar.forStatement twin) := by
  refine (advance going).taking fun _ _ => ?_
  refine (expectName _).bind fun _ _ => ?_
  refine (expect .inKeyword _ (by decide)).bind fun _ _ => ?_
  refine (expression rules.toExpressive).bind fun _ _ => ?_
  refine (accept .toKeyword (by decide)).bind fun _ _ => ?_
  exact .both (fun _ => rangeLoop rules _ _ _) fun _ => itemLoop rules _ _ _

theorem returnStatement (going : cursor.kind ≠ .endOfFile) :
    Reads (bound + 1) Always Stmt.Clean cursor (returnStatement inner) (Grammar.returnStatement twin) := by
  refine (advance going).taking fun _ _ => ?_
  refine (unlessAny _ fun _ => expression rules.toExpressive).bind fun _ _ => ?_
  exact expectLineEnd.bind fun _ _ => leaf _ _ (fun _ => rfl) fun _ => rfl

theorem functionStatement (going : cursor.kind ≠ .endOfFile) :
    Reads (bound + 1) Always Stmt.Clean cursor (functionStatement inner)
      (Grammar.functionStatement twin) := by
  refine (advance going).taking fun _ _ => ?_
  refine (expectName _).bind fun _ _ => ?_
  refine (expect .leftParen _ (by decide)).bind fun _ _ => ?_
  refine parameters.bind fun _ _ => ?_
  refine (expect .rightParen _ (by decide)).bind fun _ _ => ?_
  exact enclosed rules _ _ _ (fun _ _ => rfl) fun _ _ => rfl

omit rules in
theorem importStatement (going : cursor.kind ≠ .endOfFile) :
    Reads bound Always Stmt.Clean cursor importStatement Grammar.importStatement := by
  refine (advance going).taking fun _ _ => ?_
  refine (expect .string _ (by decide)).bind fun _ _ => ?_
  refine (optionalAfter .asKeyword (by decide) fun _ => expectName _).bind fun _ _ => ?_
  exact expectLineEnd.bind fun _ _ => leaf _ _ (fun _ => rfl) fun _ => rfl

theorem scenarioStatement (going : cursor.kind ≠ .endOfFile) :
    Reads (bound + 1) Always Stmt.Clean cursor (scenarioStatement inner)
      (Grammar.scenarioStatement twin) := by
  refine (advance going).taking fun _ _ => ?_
  refine (expectName _).bind fun _ _ => ?_
  refine (accept .colon (by decide)).bind fun _ _ => ?_
  exact enclosed rules _ _ _ (fun _ _ => rfl) fun _ _ => rfl

omit rules in
theorem runStatement (going : cursor.kind ≠ .endOfFile) :
    Reads bound Always Stmt.Clean cursor runStatement Grammar.runStatement := by
  refine (advance going).taking fun _ _ => ?_
  refine (expectName _).bind fun _ _ => ?_
  refine (expect .onKeyword _ (by decide)).bind fun _ _ => ?_
  refine (expectName _).bind fun _ _ => ?_
  exact expectLineEnd.bind fun _ _ => leaf _ _ (fun _ => rfl) fun _ => rfl

theorem simulateStatement (going : cursor.kind ≠ .endOfFile) :
    Reads (bound + 1) Always Stmt.Clean cursor (simulateStatement inner)
      (Grammar.simulateStatement twin) := by
  refine (advance going).taking fun _ _ => ?_
  refine (expectName _).bind fun _ _ => ?_
  refine (accept .runsKeyword (by decide)).bind fun _ _ => ?_
  refine (unlessAny _ fun _ => expression rules.toExpressive).bind fun _ _ => ?_
  refine (optionalAfter .stepKeyword (by decide) fun _ => expression rules.toExpressive).bind fun _ _ => ?_
  exact expectLineEnd.bind fun _ _ => leaf _ _ (fun _ => rfl) fun _ => rfl

omit rules in
theorem description : Reads bound Never Any cursor description Grammar.description := by
  refine .get ?_
  dsimp only
  split
  · exact step.bind fun _ _ => .give _
  · exact step.bind fun _ _ => .give _
  · exact .give _

theorem posting (side : Side) (going : cursor.kind ≠ .endOfFile) :
    Reads (bound + 1) Always Any cursor (posting inner side) (Grammar.posting twin side) := by
  refine (advance going).taking fun _ _ => ?_
  refine (expectName _).bind fun _ _ => ?_
  refine (expression rules.toExpressive).bind fun _ _ => ?_
  exact description.bind fun _ _ => (spanFrom _).bind fun _ _ => .give _

theorem nextHolding (holdings : List Posting) (cursor : Cursor) :
    Reads (bound + 1) More Any cursor (nextHolding inner holdings) (Grammar.nextHolding twin holdings) := by
  refine .atAny _ (.both (fun _ => .pure _ nofun trivial) fun _ => ?_)
  refine skipNewlines.bind fun _ _ => .at? _ (.both (fun _ => .pure _ nofun trivial) fun _ => .kindHere ?_)
  split
  · exact .unexpected _
  · rename_i side found
    refine (posting rules side (side_going found)).taking fun _ _ => ?_
    exact expectLineEnd.bind fun _ _ => .give _

theorem portfolioStatement (going : cursor.kind ≠ .endOfFile) :
    Reads (bound + 1) Always Stmt.Clean cursor (portfolioStatement inner)
      (Grammar.portfolioStatement twin) := by
  refine (advance going).taking fun _ _ => ?_
  refine (expectName _).bind fun _ _ => ?_
  refine (accept .colon (by decide)).bind fun _ _ => ?_
  refine skipNewlines.bind fun _ _ => ?_
  refine (expect .indent _ (by decide)).bind fun _ _ => ?_
  refine (loop (nextHolding rules) []).bind fun _ _ => ?_
  refine (expect .dedent _ (by decide)).bind fun _ _ => ?_
  exact (closeConstruct _).bind fun _ _ => leaf _ _ (fun _ => rfl) fun _ => rfl

omit rules in
theorem terminated {statement : Stmt} (clean : statement.Clean) :
    Reads bound Never Stmt.Clean cursor (terminated statement) (Grammar.terminated statement) :=
  expectLineEnd.bind fun _ _ => .pure _ id clean

theorem statementForm :
    Reads (bound + 1) Always Stmt.Clean cursor (statementForm inner) (Grammar.statementForm twin) := by
  refine skipNewlines.bind fun _ cursor => .get ?_
  have going {kind : TokenKind} (found : cursor.kind = kind) (other : kind ≠ .endOfFile) :
      cursor.kind ≠ .endOfFile := by
    rw [found]
    exact other
  split
  · refine (block rules).gaining fun body _ => .pure _ id fun clean => ?_
    exact Stmt.clean_body _ body rfl rfl clean
  · exact scenarioStatement rules (going ‹cursor.kind = _› (by decide))
  · exact runStatement (going ‹cursor.kind = _› (by decide))
  · exact simulateStatement rules (going ‹cursor.kind = _› (by decide))
  · refine (posting rules _ (going ‹cursor.kind = _› (by decide))).taking fun _ _ => terminated ?_
    exact Stmt.clean_leaf _ rfl rfl
  · refine (posting rules _ (going ‹cursor.kind = _› (by decide))).taking fun _ _ => terminated ?_
    exact Stmt.clean_leaf _ rfl rfl
  · exact letStatement rules (going ‹cursor.kind = _› (by decide))
  · exact setStatement rules (going ‹cursor.kind = _› (by decide))
  · exact printStatement rules (going ‹cursor.kind = _› (by decide))
  · exact printStatement rules (going ‹cursor.kind = _› (by decide))
  · exact ifStatement rules (going ‹cursor.kind = _› (by decide))
  · exact whileStatement rules (going ‹cursor.kind = _› (by decide))
  · exact forStatement rules (going ‹cursor.kind = _› (by decide))
  · exact returnStatement rules (going ‹cursor.kind = _› (by decide))
  · exact functionStatement rules (going ‹cursor.kind = _› (by decide))
  · exact importStatement (going ‹cursor.kind = _› (by decide))
  · refine .both (fun portfolio => ?_) fun _ => ?_
    · have word := beq_iff_eq.mp (Bool.and_eq_true_iff.mp portfolio).1
      exact portfolioStatement rules (going word (by decide))
    · refine (expression rules.toExpressive).taking fun _ _ => terminated ?_
      exact Stmt.clean_leaf _ rfl rfl

end Rules

end Reads

end Grammar

end Fiscal

namespace Fiscal.Grammar

namespace Cursor

def recovered (start refusal : Cursor) (diagnostic : Source.Diagnostic) : Cursor :=
  resume start.ahead.length { refusal with reports := diagnostic :: refusal.reports }

end Cursor

theorem statement_eq (inner : Rules) (cursor : Cursor) :
    statement inner cursor =
      match statementForm inner cursor with
      | .ok value after => .ok value after
      | .error .unfinished after => .error .unfinished after
      | .error (.refused diagnostic) after =>
          .ok (.invalid ((cursor.recovered after diagnostic).spanFrom cursor.current.span.start)
            diagnostic.message) (cursor.recovered after diagnostic) := by
  change EStateM.tryCatch (statementForm inner) _ cursor = _
  unfold EStateM.tryCatch
  cases ran : statementForm inner cursor with
  | ok value after => rfl
  | error halt after =>
      cases halt with
      | refused diagnostic => rfl
      | unfinished => rfl

theorem statement_ok {inner : Rules} {cursor after : Cursor} {stmt : Stmt}
    (ran : statement inner cursor = .ok stmt after) :
    statementForm inner cursor = .ok stmt after ∨
      ∃ diagnostic refusal, statementForm inner cursor = .error (.refused diagnostic) refusal ∧
        stmt = .invalid ((cursor.recovered refusal diagnostic).spanFrom cursor.current.span.start)
          diagnostic.message ∧ after = cursor.recovered refusal diagnostic := by
  rw [statement_eq] at ran
  cases form : statementForm inner cursor with
  | ok value last =>
      rw [form] at ran
      cases ran
      exact .inl rfl
  | error halt refusal =>
      rw [form] at ran
      cases halt with
      | unfinished => cases ran
      | refused diagnostic =>
          cases ran
          exact .inr ⟨diagnostic, refusal, rfl, rfl, rfl⟩

theorem Passes.report {first last : Cursor} (passes : Passes first last)
    (diagnostic : Source.Diagnostic) :
    Passes first { last with reports := diagnostic :: last.reports } :=
  ⟨passes.tokens, passes.lines, passes.reports.trans (List.suffix_cons _ _)⟩

theorem Passes.resume (remaining : Nat) (cursor : Cursor) : Passes cursor (resume remaining cursor) := by
  unfold Grammar.resume
  dsimp only
  split
  · exact (Passes.advance cursor).trans (.skip _ _)
  · exact .skip _ cursor

theorem Passes.recovered {cursor after : Cursor} (passes : Passes cursor after) (diagnostic : Source.Diagnostic) :
    Passes cursor (cursor.recovered after diagnostic) :=
  (passes.report diagnostic).trans (.resume cursor.ahead.length _)

theorem Passes.current_eq {first last : Cursor} (passes : Passes first last)
    (same : last.ahead.length = first.ahead.length) : last.current = first.current := by
  obtain ⟨passed, split, _, _⟩ := passes.tokens
  have lengths := congrArg List.length split
  simp only [Cursor.rest, List.length_append, List.length_cons] at lengths
  have none : passed = [] := List.length_eq_zero_iff.mp (by omega)
  rw [none] at split
  exact (List.cons.inj split).1.symm

theorem resume_shorter {start cursor : Cursor} (passes : Passes start cursor) (ended : start.Ended)
    (going : start.kind ≠ .endOfFile) (inside : start.kind ≠ .dedent) :
    Shorter start (resume start.ahead.length cursor) := by
  unfold resume
  dsimp only
  by_cases unmoved : cursor.ahead.length = start.ahead.length
  · have same : cursor.kind = start.kind := congrArg Token.kind (passes.current_eq unmoved)
    have next : Shorter cursor cursor.advance :=
      advance_shorter (passes.ended ended) (by rw [same]; exact going)
    rw [if_pos (by simp [unmoved, same, inside])]
    exact Nat.lt_of_le_of_lt (Passes.skip _ cursor.advance).length_le
      (Nat.lt_of_lt_of_le next passes.length_le)
  · rw [if_neg (by simp [unmoved])]
    exact Nat.lt_of_le_of_lt (Passes.skip _ cursor).length_le
      (Nat.lt_of_le_of_ne passes.length_le unmoved)

namespace Reads

variable {bound : Nat} {cursor : Cursor} {inner twin : Rules}

theorem statement (rules : inner.Sound bound twin) (going : cursor.kind ≠ .endOfFile)
    (inside : cursor.kind ≠ .dedent) :
    Reads (bound + 1) Always Stmt.Clean cursor (statement inner) (Grammar.statementForm twin) := by
  intro room
  have leads := statementForm rules room
  rw [statement_eq]
  cases ran : Grammar.statementForm inner cursor with
  | ok value after =>
      rw [ran] at leads
      exact leads
  | error halt after =>
      rw [ran] at leads
      cases halt with
      | unfinished => exact leads
      | refused diagnostic =>
          have reported := leads.report diagnostic
          refine ⟨leads.recovered diagnostic, fun _ => resume_shorter reported room.ended going inside, fun same => ?_⟩
          have silent := reported.unreported (.resume cursor.ahead.length _) same
          have grown := leads.reports.length_le
          have lengths := congrArg List.length silent
          simp only [List.length_cons] at lengths
          omega

end Reads

namespace Rules

def strict : Nat → Rules
  | 0 => exhausted
  | depth + 1 => { (strict depth).deepen with statement := statementForm (strict depth) }

theorem sound (depth : Nat) : (ofDepth depth).Sound depth (strict depth) := by
  induction depth with
  | zero =>
      exact ⟨⟨fun _ room => absurd room.within (Nat.not_lt_zero _),
        fun _ _ room => absurd room.within (Nat.not_lt_zero _),
        fun _ room => absurd room.within (Nat.not_lt_zero _)⟩,
        fun _ _ _ room => absurd room.within (Nat.not_lt_zero _)⟩
  | succ depth ih =>
      exact ⟨ih.toExpressive.deepen _, fun _ going inside => Reads.statement ih going inside⟩

end Rules

end Fiscal.Grammar
