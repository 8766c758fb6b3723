import Fiscal.Proofs.Grammar.SpansExpression
import Fiscal.Proofs.Grammar.Program

set_option autoImplicit false

namespace Fiscal.Grammar

open Source

namespace Spans

section Rules

variable {rules : Rules} {first cursor : Cursor} {start : Location} {parts : List Outline}

theorem ended (gathered : Gathered first start cursor parts) (stmt : Span → Stmt)
    (place : ∀ span, (stmt span).outline.span = span) (inside : ∀ span, (stmt span).outline.children ⊆ parts) :
    Spans (Read Stmt.outline first) cursor (Grammar.expectLineEnd >>= fun _ =>
      Grammar.spanFrom start >>= fun span => Pure.pure (stmt span)) :=
  keeping gathered (.course .expectLineEnd) fun _ _ gathered _ => closing gathered stmt place inside

variable (nesting : rules.Nesting)

include nesting

theorem nextInBlock (stmts : List Stmt) (gathered : Listed Stmt.outline first start parts stmts cursor) :
    Spans (fun last => Listed Stmt.outline first start parts last.1) cursor (nextInBlock rules stmts) := by
  refine .atAny _ (.both (fun _ => .pure _ gathered) fun _ => ?_)
  refine keeping gathered (.course .skipNewlines) fun _ after gathered _ => ?_
  refine .atAny _ (.both (fun _ => .pure _ gathered) fun inside => ?_)
  simp only [List.contains_cons, Bool.or_eq_true, beq_iff_eq, not_or] at inside
  exact adding gathered (nesting.statement after inside.2.1 inside.1) fun _ _ gathered => .pure _ gathered

theorem block : Spans (Read Stmt.bodyOutline cursor) cursor (block rules) := by
  refine (Spans.course .skipNewlines).bind fun _ cursor onward _ => before onward ?_
  have opens : Spans (fun token after => Gathered cursor token.span.start after []) cursor
      (Grammar.expect .indent "indented block") := by
    refine .at? _ (.both (fun found => ?_) fun _ => .unexpected _)
    exact (opening (by rw [beq_iff_eq.mp found]; decide)).imply fun _ _ gathered => gathered.1
  refine opens.bind fun token after _ gathered => ?_
  have inside : Spans (Listed Stmt.outline cursor token.span.start []) after
      (Grammar.repeating [] (Grammar.nextInBlock rules)) :=
    repeating (fun stmts _ gathered => nextInBlock nesting stmts gathered) [] gathered
  refine inside.bind fun stmts _ _ gathered => ?_
  refine keeping gathered (.course (.expect .dedent _ (by decide))) fun _ _ gathered _ => ?_
  exact closing gathered (fun span => (⟨span, stmts.reverse⟩ : Body Stmt))
    (fun _ => rfl) fun _ => by simp [Stmt.bodyOutline, Stmt.outlines_eq]

theorem enclosed (gathered : Gathered first start cursor parts) (construct : String) (stmt : Span → Block → Stmt)
    (place : ∀ span body, (stmt span body).outline.span = span)
    (inside : ∀ span body, (stmt span body).outline.children ⊆ Stmt.bodyOutline body :: parts) :
    Spans (Read Stmt.outline first) cursor
      (Grammar.block rules >>= fun body => Grammar.closeConstruct construct >>= fun _ =>
        Grammar.spanFrom start >>= fun span => Pure.pure (stmt span body)) := by
  refine adding gathered (block nesting) fun body _ gathered => ?_
  refine keeping gathered (.course (.closeConstruct _)) fun _ _ gathered _ => ?_
  exact closing gathered (fun span => stmt span body) (place · body) (inside · body)

theorem binding (gathered : Gathered first start cursor parts) :
    Spans (fun found after => Gathered first start after (found.2.outline :: parts)) cursor (binding rules) := by
  refine keeping gathered (.course (.expectName _)) fun _ _ gathered _ => ?_
  refine keeping gathered (.course (.expect .equal _ (by decide))) fun _ _ gathered _ => ?_
  refine adding gathered (expression nesting) fun value _ gathered => ?_
  exact keeping gathered (.course .expectLineEnd) fun _ _ gathered _ => .pure _ gathered

theorem letStatement (going : cursor.kind ≠ .endOfFile) :
    Spans (Read Stmt.outline cursor) cursor (letStatement rules) := by
  refine (opening going).bind fun token _ _ ⟨gathered, _⟩ => (binding nesting gathered).bind fun _ _ _ gathered => ?_
  exact closing gathered _ (fun _ => rfl) fun _ => by simp [Stmt.outline]

theorem setStatement (going : cursor.kind ≠ .endOfFile) :
    Spans (Read Stmt.outline cursor) cursor (setStatement rules) := by
  refine (opening going).bind fun token _ _ ⟨gathered, _⟩ => (binding nesting gathered).bind fun _ _ _ gathered => ?_
  exact closing gathered _ (fun _ => rfl) fun _ => by simp [Stmt.outline]

theorem printStatement (going : cursor.kind ≠ .endOfFile) :
    Spans (Read Stmt.outline cursor) cursor (printStatement rules) := by
  refine (opening going).bind fun token _ _ ⟨gathered, _⟩ => ?_
  refine (joined gathered fun _ => expression nesting).bind fun values _ _ gathered => ?_
  exact ended gathered _ (fun _ => rfl) fun _ => by simp [Stmt.outline, Expr.outlines_eq]

omit nesting in
theorem acceptElseIf :
    Spans (fun found after => found = true → Gathered cursor cursor.current.span.start after []) cursor
      acceptElseIf :=
  .taken .acceptElseIf

theorem conditional (gathered : Gathered first start cursor parts) :
    Spans (fun found after => Gathered first start after
      (Stmt.bodyOutline found.2 :: found.1.outline :: parts)) cursor (conditional rules) := by
  refine adding gathered (expression nesting) fun condition _ gathered => ?_
  refine keeping gathered (.course (.accept .thenKeyword (by decide))) fun _ _ gathered _ => ?_
  exact adding gathered (block nesting) fun _ _ gathered => .pure _ gathered

theorem nextBranch (branches : List (Branch Stmt))
    (gathered : Listed Branch.outline first start parts branches cursor) :
    Spans (fun last => Listed Branch.outline first start parts last.1) cursor (nextBranch rules branches) := by
  refine keeping gathered (.course .skipNewlines) fun _ after gathered _ => .get ?_
  refine acceptElseIf.bind fun found later onward begun => .both (fun accepted => ?_) fun _ => ?_
  · refine (conditional nesting (begun accepted)).bind fun given last _ inner => .spanFrom _ (.pure _ ?_)
    exact gathered.add (inner.close rfl (by simp [Branch.outline]))
  · exact .pure _ (gathered.further onward)

theorem ifStatement (going : cursor.kind ≠ .endOfFile) :
    Spans (Read Stmt.outline cursor) cursor (ifStatement rules) := by
  refine (opening going).bind fun token _ _ ⟨gathered, _⟩ => ?_
  refine (conditional nesting gathered).bind fun given after _ gathered => ?_
  have branches : Spans (Listed Branch.outline cursor token.span.start
      [Stmt.bodyOutline given.2, given.1.outline]) after (Grammar.repeating [] (Grammar.nextBranch rules)) :=
    repeating (fun branches _ gathered => nextBranch nesting branches gathered) [] gathered
  refine branches.bind fun branches _ _ gathered => ?_
  refine (optionalAfter gathered .elseKeyword (by decide) fun _ => block nesting).bind fun _ _ _ gathered => ?_
  refine keeping gathered (.course (.closeConstruct _)) fun _ _ gathered _ => ?_
  refine closing gathered _ (fun _ => rfl) fun _ part member => ?_
  simp only [Stmt.outline, Outline.node_children, List.flatMap_cons, OutlineField.child_outlines,
    OutlineField.children_outlines, Stmt.branchOutlines_eq, Stmt.optionalBody_outlines, List.flatMap_nil,
    List.append_nil, List.map_reverse, List.mem_append, List.mem_cons, List.mem_reverse, List.not_mem_nil,
    or_false] at member ⊢
  rcases member with condition | body | branch | otherwise
  · exact .inr (.inr (.inr condition))
  · exact .inr (.inr (.inl body))
  · exact .inr (.inl branch)
  · exact .inl otherwise

theorem whileStatement (going : cursor.kind ≠ .endOfFile) :
    Spans (Read Stmt.outline cursor) cursor (whileStatement rules) := by
  refine (opening going).bind fun token _ _ ⟨gathered, _⟩ => ?_
  refine adding gathered (expression nesting) fun condition _ gathered => ?_
  refine keeping gathered (.course (.acceptAny _ (by decide))) fun _ _ gathered _ => ?_
  exact enclosed nesting gathered _ _ (fun _ _ => rfl) fun _ _ => by simp [Stmt.outline]

theorem rangeLoop (token : Token) (name : String) (lower : Expr)
    (gathered : Gathered first token.span.start cursor [lower.outline]) :
    Spans (Read Stmt.outline first) cursor (rangeLoop rules token name lower) := by
  refine adding gathered (expression nesting) fun upper _ gathered => ?_
  refine (optionalAfter gathered .stepKeyword (by decide) fun _ => expression nesting).bind fun step _ _ gathered => ?_
  refine keeping gathered (.course (.accept .doKeyword (by decide))) fun _ _ gathered _ => ?_
  refine enclosed nesting gathered _ _ (fun _ _ => rfl) fun _ body part member => ?_
  simp only [Stmt.outline, Outline.node_children, List.flatMap_cons, OutlineField.scalar_outlines,
    OutlineField.child_outlines, Expr.optional_outlines, List.flatMap_nil, List.append_nil, List.nil_append,
    List.mem_append, List.mem_cons, List.not_mem_nil, or_false] at member ⊢
  rcases member with least | most | given | inside
  · exact .inr (.inr (.inr least))
  · exact .inr (.inr (.inl most))
  · exact .inr (.inl given)
  · exact .inl inside

theorem itemLoop (token : Token) (name : String) (items : Expr)
    (gathered : Gathered first token.span.start cursor [items.outline]) :
    Spans (Read Stmt.outline first) cursor (itemLoop rules token name items) := by
  refine keeping gathered (.course (.accept .doKeyword (by decide))) fun _ _ gathered _ => ?_
  exact enclosed nesting gathered _ _ (fun _ _ => rfl) fun _ _ => by simp [Stmt.outline]

theorem forStatement (going : cursor.kind ≠ .endOfFile) :
    Spans (Read Stmt.outline cursor) cursor (forStatement rules) := by
  refine (opening going).bind fun token _ _ ⟨gathered, _⟩ => ?_
  refine keeping gathered (.course (.expectName _)) fun _ _ gathered _ => ?_
  refine keeping gathered (.course (.expect .inKeyword _ (by decide))) fun _ _ gathered _ => ?_
  refine adding gathered (expression nesting) fun lower _ gathered => ?_
  refine keeping gathered (.course (.accept .toKeyword (by decide))) fun _ _ gathered _ => ?_
  exact .both (fun _ => rangeLoop nesting _ _ _ gathered) fun _ => itemLoop nesting _ _ _ gathered

theorem returnStatement (going : cursor.kind ≠ .endOfFile) :
    Spans (Read Stmt.outline cursor) cursor (returnStatement rules) := by
  refine (opening going).bind fun token _ _ ⟨gathered, _⟩ => ?_
  refine (unlessAny gathered _ (expression nesting)).bind fun value _ _ gathered => ?_
  exact ended gathered _ (fun _ => rfl) fun _ => by simp [Stmt.outline]

theorem functionStatement (going : cursor.kind ≠ .endOfFile) :
    Spans (Read Stmt.outline cursor) cursor (functionStatement rules) := by
  refine (opening going).bind fun token _ _ ⟨gathered, _⟩ => ?_
  refine keeping gathered (.course (.expectName _)) fun _ _ gathered _ => ?_
  refine keeping gathered (.course (.expect .leftParen _ (by decide))) fun _ _ gathered _ => ?_
  refine keeping gathered (.course .parameters) fun _ _ gathered _ => ?_
  refine keeping gathered (.course (.expect .rightParen _ (by decide))) fun _ _ gathered _ => ?_
  exact enclosed nesting gathered _ _ (fun _ _ => rfl) fun _ _ => by simp [Stmt.outline]

omit nesting in
theorem importStatement (going : cursor.kind ≠ .endOfFile) :
    Spans (Read Stmt.outline cursor) cursor importStatement := by
  refine (opening going).bind fun token _ _ ⟨gathered, _⟩ => ?_
  refine keeping gathered (.course (.expect .string _ (by decide))) fun _ _ gathered _ => ?_
  refine keeping gathered (.course (.optionalAfter .asKeyword (by decide) fun _ => .expectName _))
    fun _ _ gathered _ => ?_
  exact ended gathered _ (fun _ => rfl) fun _ => by simp [Stmt.outline]

theorem scenarioStatement (going : cursor.kind ≠ .endOfFile) :
    Spans (Read Stmt.outline cursor) cursor (scenarioStatement rules) := by
  refine (opening going).bind fun token _ _ ⟨gathered, _⟩ => ?_
  refine keeping gathered (.course (.expectName _)) fun _ _ gathered _ => ?_
  refine keeping gathered (.course (.accept .colon (by decide))) fun _ _ gathered _ => ?_
  exact enclosed nesting gathered _ _ (fun _ _ => rfl) fun _ _ => by simp [Stmt.outline]

omit nesting in
theorem runStatement (going : cursor.kind ≠ .endOfFile) :
    Spans (Read Stmt.outline cursor) cursor runStatement := by
  refine (opening going).bind fun token _ _ ⟨gathered, _⟩ => ?_
  refine keeping gathered (.course (.expectName _)) fun _ _ gathered _ => ?_
  refine keeping gathered (.course (.expect .onKeyword _ (by decide))) fun _ _ gathered _ => ?_
  refine keeping gathered (.course (.expectName _)) fun _ _ gathered _ => ?_
  exact ended gathered _ (fun _ => rfl) fun _ => by simp [Stmt.outline]

theorem simulateStatement (going : cursor.kind ≠ .endOfFile) :
    Spans (Read Stmt.outline cursor) cursor (simulateStatement rules) := by
  refine (opening going).bind fun token _ _ ⟨gathered, _⟩ => ?_
  refine keeping gathered (.course (.expectName _)) fun _ _ gathered _ => ?_
  refine keeping gathered (.course (.accept .runsKeyword (by decide))) fun _ _ gathered _ => ?_
  refine (unlessAny gathered _ (expression nesting)).bind fun runs _ _ gathered => ?_
  refine (optionalAfter gathered .stepKeyword (by decide) fun _ => expression nesting).bind fun step _ _ gathered => ?_
  refine ended gathered _ (fun _ => rfl) fun _ part member => ?_
  simp only [Stmt.outline, Outline.node_children, List.flatMap_cons, OutlineField.scalar_outlines,
    Expr.optional_outlines, List.flatMap_nil, List.append_nil, List.nil_append, List.mem_append] at member ⊢
  exact member.symm

omit nesting in
theorem description (gathered : Gathered first start cursor parts) :
    Spans (fun found after => Listed Expr.outline first start parts found.toList after) cursor description := by
  refine .get ?_
  dsimp only
  split
  · rename_i kind _
    refine (single (by rw [Cursor.kind, kind]; decide)).bind fun _ _ _ held => .pure _ (gathered.add ?_)
    exact held _ rfl (by simp [Expr.outline])
  · rename_i kind _
    refine (single (by rw [Cursor.kind, kind]; decide)).bind fun _ _ _ held => .pure _ (gathered.add ?_)
    exact held _ rfl (by simp [Expr.outline])
  · exact .pure _ gathered

theorem posting (side : Side) (going : cursor.kind ≠ .endOfFile) :
    Spans (Read Posting.outline cursor) cursor (posting rules side) := by
  refine (opening going).bind fun token _ _ ⟨gathered, _⟩ => ?_
  refine keeping gathered (.course (.expectName _)) fun _ _ gathered _ => ?_
  refine adding gathered (expression nesting) fun amount _ gathered => ?_
  refine (description gathered).bind fun told _ _ gathered => ?_
  refine closing gathered _ (fun _ => rfl) fun _ part member => ?_
  simp only [Posting.outline, Outline.node_children, List.flatMap_cons, OutlineField.scalar_outlines,
    OutlineField.child_outlines, Expr.optional_outlines, List.flatMap_nil, List.append_nil, List.nil_append,
    List.mem_append, List.mem_cons, List.not_mem_nil, or_false] at member ⊢
  exact member.symm

theorem nextHolding (holdings : List Posting)
    (gathered : Listed Posting.outline first start parts holdings cursor) :
    Spans (fun last => Listed Posting.outline first start parts last.1) cursor (nextHolding rules holdings) := by
  refine .atAny _ (.both (fun _ => .pure _ gathered) fun _ => ?_)
  refine keeping gathered (.course .skipNewlines) fun _ after gathered _ => ?_
  refine .at? _ (.both (fun _ => .pure _ gathered) fun _ => .kindHere ?_)
  split
  · exact .unexpected _
  · rename_i side found
    refine adding gathered (posting nesting side (Reads.side_going found)) fun _ _ gathered => ?_
    exact keeping gathered (.course .expectLineEnd) fun _ _ gathered _ => .pure _ gathered

theorem portfolioStatement (going : cursor.kind ≠ .endOfFile) :
    Spans (Read Stmt.outline cursor) cursor (portfolioStatement rules) := by
  refine (opening going).bind fun token _ _ ⟨gathered, _⟩ => ?_
  refine keeping gathered (.course (.expectName _)) fun _ _ gathered _ => ?_
  refine keeping gathered (.course (.accept .colon (by decide))) fun _ _ gathered _ => ?_
  refine keeping gathered (.course .skipNewlines) fun _ _ gathered _ => ?_
  refine keeping gathered (.course (.expect .indent _ (by decide))) fun _ after gathered _ => ?_
  have inside : Spans (Listed Posting.outline cursor token.span.start []) after
      (Grammar.repeating [] (Grammar.nextHolding rules)) :=
    repeating (fun holdings _ gathered => nextHolding nesting holdings gathered) [] gathered
  refine inside.bind fun holdings _ _ gathered => ?_
  refine keeping gathered (.course (.expect .dedent _ (by decide))) fun _ _ gathered _ => ?_
  refine keeping gathered (.course (.closeConstruct _)) fun _ _ gathered _ => ?_
  exact closing gathered _ (fun _ => rfl) fun _ => by simp [Stmt.outline]

omit nesting in
theorem terminated (stmt : Stmt) (held : Held first cursor stmt.outline) :
    Spans (Read Stmt.outline first) cursor (terminated stmt) :=
  (Spans.course .expectLineEnd).bind fun _ _ onward _ => .pure _ (held.further onward)

theorem evaluation : Spans (Read Stmt.outline cursor) cursor
    (Grammar.expression rules >>= fun expr => Grammar.terminated (.evaluate expr)) := by
  refine (expression nesting).bind fun expr after _ held => terminated _ ?_
  have place : (Stmt.evaluate expr).outline.span = expr.outline.span := by
    rw [Stmt.outline_span, Expr.outline_span, Stmt.span]
  have only : (Stmt.evaluate expr).outline.children = [expr.outline] := by simp [Stmt.outline]
  refine ⟨.intro _ (place ▸ held.nested.forward) (fun part member => ?_) fun part member => ?_,
    place ▸ held.behind, place ▸ held.ahead⟩
  · rw [only, List.mem_singleton] at member
    rw [member, place]
    exact ⟨le_rfl, le_rfl⟩
  · rw [only, List.mem_singleton] at member
    exact member ▸ held.nested

theorem statementForm : Spans (Read Stmt.outline cursor) cursor (statementForm rules) := by
  refine (Spans.course .skipNewlines).bind fun _ cursor onward _ => before onward (.get ?_)
  have going {kind : TokenKind} (found : cursor.kind = kind) (other : kind ≠ .endOfFile) :
      cursor.kind ≠ .endOfFile := by
    rwa [found]
  have entry (side : Side) (going : cursor.kind ≠ .endOfFile) : Spans (Read Stmt.outline cursor) cursor
      (Grammar.posting rules side >>= fun posting => Grammar.terminated (.post posting)) := by
    refine (posting nesting side going).bind fun posting _ _ held => terminated _ ?_
    rwa [Stmt.outline]
  split
  · refine (block nesting).bind fun body _ _ held => .pure _ ?_
    rwa [Read, Stmt.outline]
  · exact scenarioStatement nesting (going ‹cursor.kind = _› (by decide))
  · exact runStatement (going ‹cursor.kind = _› (by decide))
  · exact simulateStatement nesting (going ‹cursor.kind = _› (by decide))
  · exact entry _ (going ‹cursor.kind = _› (by decide))
  · exact entry _ (going ‹cursor.kind = _› (by decide))
  · exact letStatement nesting (going ‹cursor.kind = _› (by decide))
  · exact setStatement nesting (going ‹cursor.kind = _› (by decide))
  · exact printStatement nesting (going ‹cursor.kind = _› (by decide))
  · exact printStatement nesting (going ‹cursor.kind = _› (by decide))
  · exact ifStatement nesting (going ‹cursor.kind = _› (by decide))
  · exact whileStatement nesting (going ‹cursor.kind = _› (by decide))
  · exact forStatement nesting (going ‹cursor.kind = _› (by decide))
  · exact returnStatement nesting (going ‹cursor.kind = _› (by decide))
  · exact functionStatement nesting (going ‹cursor.kind = _› (by decide))
  · exact importStatement (going ‹cursor.kind = _› (by decide))
  · refine .both (fun portfolio => ?_) fun _ => evaluation nesting
    have word := beq_iff_eq.mp (Bool.and_eq_true_iff.mp portfolio).1
    exact portfolioStatement nesting (going word (by decide))

theorem statement (going : cursor.kind ≠ .endOfFile) (inside : cursor.kind ≠ .dedent) :
    Spans (Read Stmt.outline cursor) cursor (statement rules) := by
  intro paced
  have comes := statementForm nesting paced
  rw [statement_eq]
  cases ran : Grammar.statementForm rules cursor with
  | ok stmt after =>
      rw [ran] at comes
      exact comes
  | error halt after =>
      cases halt with
      | unfinished => trivial
      | refused diagnostic =>
          rw [ran] at comes
          have passes := Passes.recovered comes diagnostic
          have gathered := passes.gathered paced (resume_shorter (comes.report diagnostic) paced.ended going inside)
          exact ⟨passes, gathered.close rfl (by simp [Stmt.outline])⟩

end Rules

end Spans

theorem Rules.nesting (depth : Nat) : (Rules.ofDepth depth).Nesting := by
  induction depth with
  | zero => exact ⟨fun _ => .unfinished, fun _ _ => .unfinished, fun _ => .unfinished, fun _ _ _ => .unfinished⟩
  | succ depth ih =>
      exact ⟨fun _ => Spans.expression ih, fun least _ => Spans.binary ih least, fun _ => Spans.unary ih,
        fun _ going inside => Spans.statement ih going inside⟩

namespace Spans

section Program

variable {rules : Rules} {first cursor : Cursor} {start : Location} {parts : List Outline} (nesting : rules.Nesting)

include nesting

theorem nextAtTop (stmts : List Stmt) (going : cursor.kind ≠ .endOfFile)
    (gathered : Listed Stmt.outline first start parts stmts cursor) :
    Spans (Listed Stmt.outline first start parts) cursor (nextAtTop rules stmts) := by
  refine .at? _ (.both (fun _ => ?_) fun inside => ?_)
  · exact keeping gathered (.course (.strayDedent going)) fun _ _ gathered _ => .pure _ gathered
  · exact adding gathered (nesting.statement cursor going (by simpa using inside))
      fun _ _ gathered => .pure _ gathered

theorem programRound (maxErrors : Int) (stmts : List Stmt)
    (gathered : Listed Stmt.outline first start parts stmts cursor) :
    Spans (fun last => Listed Stmt.outline first start parts last.1) cursor (programRound rules maxErrors stmts) := by
  refine .get (.both (fun _ => .pure _ gathered) fun going => ?_)
  refine (nextAtTop nesting stmts (by simpa [Cursor.atEnd] using going) gathered).bind fun _ _ _ gathered => ?_
  refine .get (.both (fun _ => .pure _ gathered) fun _ => ?_)
  exact keeping gathered (.course .skipNewlines) fun _ _ gathered _ => .pure _ gathered

theorem statements (maxErrors : Int) (gathered : Gathered first start cursor parts) :
    Spans (Listed Stmt.outline first start parts) cursor (statements rules maxErrors) := by
  refine keeping gathered (.course .skipNewlines) fun _ after gathered _ => ?_
  have rounds : Spans (Listed Stmt.outline first start parts) after
      (Grammar.repeating [] (Grammar.programRound rules maxErrors)) :=
    repeating (fun stmts _ gathered => programRound nesting maxErrors stmts gathered) [] gathered
  exact rounds.bind fun _ _ _ gathered => .pure _ (gathered.fewer (by simp))

end Program

end Spans

theorem Cursor.paced_start {first : Token} {rest : List Token} (ends : EndsOnce (first :: rest))
    (ordered : Token.Ordered (first :: rest)) (lines : Option (List String)) :
    (Cursor.start first rest lines).Paced := by
  refine ⟨ends.ended lines, List.pairwise_cons.mpr ⟨?_, ordered.sorted⟩, ?_⟩
  · exact List.forall_mem_cons.mpr ⟨le_rfl, (List.pairwise_cons.mp ordered.sorted).1⟩
  · exact List.forall_mem_cons.mpr ⟨ordered.forward first List.mem_cons_self, ordered.forward⟩

theorem parse_nested (maxErrors : Int) (lines : Option (List String)) {tokens : List Token}
    (ends : EndsOnce tokens) (ordered : Token.Ordered tokens) :
    (parse maxErrors lines tokens).program.outline.Nested := by
  obtain ⟨first, rest, rfl⟩ := ends.cons
  obtain ⟨⟨stmts, cursor, ran, same, _⟩, _⟩ := parse_ends maxErrors lines first rest ends
  have forward := ordered.forward first List.mem_cons_self
  have begun : Gathered (Cursor.start first rest lines) first.span.start (Cursor.start first rest lines) [] :=
    ⟨le_rfl, le_rfl, Span.le_iff.mpr ⟨le_rfl, forward⟩, List.forall_mem_nil _⟩
  have comes := Spans.statements (Rules.nesting (rest.length + 2)) maxErrors begun
    (Cursor.paced_start ends ordered lines)
  rw [show Grammar.statements _ _ _ = .ok stmts cursor from ran] at comes
  have whole : Held (Cursor.start first rest lines) cursor
      (Program.outline ⟨cursor.spanFrom first.span.start, stmts⟩) :=
    comes.2.close rfl (by simp [Program.outline, Stmt.outlines_eq])
  rw [same]
  exact whole.nested

-- Whatever a text is, the spans of its program nest: no node ends before it starts, and none reaches out
-- of the node it is a part of.
theorem program_spans_nest (tabWidth : Nat) (currencies : List String) (file : Option String) (source : String)
    (stream : Token.Stream) (scanned : Token.scan tabWidth currencies file source = .ok stream)
    (maxErrors : Int) (lines : Option (List String)) :
    (parse maxErrors lines stream.tokens).program.outline.Nested :=
  parse_nested maxErrors lines (scanned_ends scanned) (Token.stream_ordered scanned)

theorem placeholder_spans_nest :
    let source := "LET a = (b + c) * d\nIF a\n  LET = b\nELSEIF b\n  e = CASHFLOW\n    DEBIT f\n  END\nEND\n"
    let nodes := [("Program", 0, 81), ("LetStatement", 0, 20), ("BinaryOp", 9, 19), ("BinaryOp", 9, 14),
      ("Identifier", 9, 10), ("Identifier", 13, 14), ("Identifier", 18, 19), ("IfStatement", 20, 81),
      ("Identifier", 23, 24), ("Block", 25, 35), ("ErrorStatement", 27, 35), ("ElifBranch", 35, 77),
      ("Identifier", 42, 43), ("Block", 44, 77), ("ExpressionStatement", 46, 76), ("Assignment", 46, 76),
      ("CashflowLiteral", 50, 76), ("CashflowEntry", 63, 70), ("Identifier", 69, 70)]
    let places (stream : Token.Stream) := (parse 20 none stream.tokens).program.outline.spans.map
      fun node => (node.1, node.2.start.offset, node.2.stop.offset)
    ∃ stream, Token.scan 4 [] none source = .ok stream ∧ places stream = nodes ∧
      (parse 20 none stream.tokens).program.outline.Nested := by
  intro source nodes places
  obtain ⟨stream, scanned, facts⟩ := Token.scanned_such (Token.scan 4 [] none source)
    (fun stream => places stream == nodes) (by decide +kernel)
  exact ⟨stream, scanned, beq_iff_eq.mp facts, program_spans_nest 4 [] none source stream scanned 20 none⟩

end Fiscal.Grammar
