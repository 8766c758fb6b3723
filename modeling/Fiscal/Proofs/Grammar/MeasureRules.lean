import Fiscal.Proofs.Grammar.Measure
import Fiscal.Proofs.Token.Reports

set_option autoImplicit false

namespace Fiscal.Grammar

open Token (Bracket opensBlock isPlain)

variable {Amount : Type} {measure : Measure Amount}

structure Rules.Even (measure : Measure Amount) (rules : Rules) : Prop where
  expression (cursor : Cursor) : Counts measure id Any cursor rules.expression
  binary (least : Nat) (cursor : Cursor) : Counts measure id Any cursor (rules.binary least)
  unary (cursor : Cursor) : Counts measure id Any cursor rules.unary
  statement (cursor : Cursor) (fresh : cursor.Fresh) : Counts measure id Cursor.Fresh cursor rules.statement

namespace Counts

section Kinds

theorem side_plain {kind : TokenKind} {side : Side} (found : Side.ofKind? kind = some side) :
    isPlain kind = true := by
  revert found
  cases kind <;> first | (intro _; rfl) | nofun

theorem literal_plain {token : Token} {literal : Literal} (found : literalOf? token = some literal) :
    isPlain token.kind = true := by
  unfold literalOf? at found
  revert found
  cases token.kind <;> first | (intro _; rfl) | nofun

theorem unary_plain {kind : TokenKind} {op : UnaryOperator} (found : UnaryOperator.ofKind? kind = some op) :
    isPlain kind = true := by
  revert found
  cases kind <;> first | (intro _; rfl) | nofun

theorem binary_plain {kind : TokenKind} {op : BinaryOperator}
    (found : BinaryOperator.ofKind? kind = some op) : isPlain kind = true := by
  revert found
  cases kind <;> first | (intro _; rfl) | nofun

end Kinds

section Expressions

variable {rules : Rules} {cursor : Cursor} (even : rules.Even measure)

include even

theorem nextArgument (args : List Expr) (cursor : Cursor) : Counts measure id Any cursor (nextArgument rules args) := by
  refine accepting .comma (by decide) (fun after _ => ?_) fun _ => .give _
  refine .at? _ (.both (fun _ => .give _) fun _ => .both (fun _ => .get (.failAt _ _ _)) fun _ => ?_)
  exact (even.expression after).bind fun _ _ _ => .give _

theorem argumentList : Counts measure id Any cursor (argumentList rules) := by
  refine .at? _ (.both (fun _ => .give _) fun _ => ?_)
  exact (even.expression cursor).bind fun first _ _ => loop (nextArgument even) [first]

theorem arguments : Counts measure id Any cursor (arguments rules) := by
  refine (expectOpening .parenthesis _).amid fun _ _ _ => ?_
  refine (argumentList even).bind fun _ _ _ => ?_
  exact (expectClosing .parenthesis _).closing fun _ _ _ => .give _

theorem nextColumn (columns : Named Expr) (cursor : Cursor) :
    Counts measure id Any cursor (nextColumn rules columns) := by
  refine (keyName _).bind fun key _ _ => .both (fun _ => .failAt _ _ _) fun _ => ?_
  refine (expect .colon _ (by decide)).bind fun _ after _ => ?_
  refine (even.expression after).bind fun _ _ _ => ?_
  exact accepting .comma (by decide) (fun _ _ => .at? _ (.give _)) fun _ => .give _

theorem columnList : Counts measure id Any cursor (columnList rules) :=
  .at? _ (.both (fun _ => .give _) fun _ => loop (nextColumn even) [])

theorem tableLiteral (plain : isPlain cursor.kind = true) : Counts measure id Any cursor (tableLiteral rules) := by
  refine (advance plain).bind fun _ _ _ => ?_
  refine (expectOpening .parenthesis _).amid fun _ _ _ => ?_
  refine (columnList even).bind fun _ _ _ => ?_
  exact (expectClosing .parenthesis _).closing fun _ _ _ => .spanFrom _ fun _ => .give _

theorem flowLine (side : Side) (plain : isPlain cursor.kind = true) :
    Counts measure id Any cursor (flowLine rules side) := by
  refine (advance plain).bind fun _ after _ => ?_
  refine (even.expression after).bind fun _ _ _ => .spanFrom _ fun _ => ?_
  exact expectLineEnd.bind fun _ _ _ => .give _

theorem nextFlow (flows : List (Flow Expr)) (cursor : Cursor) : Counts measure id Any cursor (nextFlow rules flows) := by
  refine .atAny _ (.both (fun _ => .give _) fun _ => skipNewlines.bind fun _ after _ => ?_)
  refine .at? _ (.both (fun _ => .give _) fun _ => .kindHere ?_)
  split
  · exact .unexpected _
  · rename_i side found
    exact (flowLine even side (side_plain found)).bind fun _ _ _ => .give _

omit even in
theorem opening {kind : TokenKind} (opens : opensBlock kind = true) (other : kind ≠ .ifKeyword)
    (here : cursor.kind = kind) : Counts measure measure.opened Any cursor Grammar.advance :=
  advanceInto (here ▸ opens) fun again => absurd (here.symm.trans again) other

theorem cashflowLiteral (here : cursor.kind = .cashflowKeyword) :
    Counts measure id Any cursor (cashflowLiteral rules) := by
  refine (opening rfl (by decide) here).within fun _ _ _ => ?_
  refine skipNewlines.bind fun _ _ _ => ?_
  refine (expect .indent _ (by decide)).bind fun _ _ _ => ?_
  refine (loop (nextFlow even) []).bind fun _ _ _ => ?_
  refine (expect .dedent _ (by decide)).bind fun _ _ _ => ?_
  exact (expectEnd _).closing fun _ _ _ => .spanFrom _ fun _ => .give _

theorem portfolioLiteral (here : cursor.kind = .portfolioKeyword) :
    Counts measure id Any cursor (portfolioLiteral rules) := by
  refine (opening rfl (by decide) here).within fun _ _ _ => ?_
  refine skipNewlines.bind fun _ _ _ => ?_
  refine (expect .indent _ (by decide)).bind fun _ _ _ => ?_
  refine skipNewlines.bind fun _ after _ => ?_
  refine (even.expression after).bind fun _ _ _ => ?_
  refine skipNewlines.bind fun _ after _ => ?_
  refine (even.expression after).bind fun _ _ _ => ?_
  refine skipNewlines.bind fun _ _ _ => ?_
  refine (expect .dedent _ (by decide)).bind fun _ _ _ => ?_
  exact (expectEnd _).closing fun _ _ _ => .spanFrom _ fun _ => .give _

theorem timeseries (plain : isPlain cursor.kind = true) : Counts measure id Any cursor (timeseries rules) := by
  refine (advance plain).bind fun _ _ _ => .get ((arguments even).bind fun args _ _ => ?_)
  split
  · exact .spanFrom _ fun _ => .give _
  · exact .failAt _ _ _

theorem parenthesized (here : cursor.kind = .leftParen) :
    Counts measure id Any cursor (parenthesized rules) := by
  refine .get ((advanceInside .parenthesis here).amid fun _ after _ => .both (fun _ => ?_) fun _ => ?_)
  · refine parameters.bind fun _ _ _ => ?_
    refine (expectClosing .parenthesis _).closing fun _ _ _ => ?_
    refine (expect .arrow _ (by decide)).bind fun _ after _ => ?_
    exact (even.expression after).bind fun _ _ _ => .spanFrom _ fun _ => .give _
  · refine (even.expression after).bind fun _ _ _ => ?_
    exact (expectClosing .parenthesis _).closing fun _ _ _ => .give _

theorem nextItem (items : List Expr) (cursor : Cursor) : Counts measure id Any cursor (nextItem rules items) := by
  refine accepting .comma (by decide) (fun _ _ => skipNewlines.bind fun _ after _ => ?_) fun _ => .give _
  refine .at? _ (.both (fun _ => .give _) fun _ => ?_)
  refine (even.expression after).bind fun _ _ _ => ?_
  exact skipNewlines.bind fun _ _ _ => .give _

theorem itemList : Counts measure id Any cursor (itemList rules) := by
  refine .at? _ (.both (fun _ => .give _) fun _ => ?_)
  refine (even.expression cursor).bind fun first _ _ => ?_
  exact skipNewlines.bind fun _ _ _ => loop (nextItem even) [first]

theorem listLiteral (here : cursor.kind = .leftBracket) : Counts measure id Any cursor (listLiteral rules) := by
  refine (advanceInside .square here).amid fun _ _ _ => skipNewlines.bind fun _ _ _ => ?_
  refine (itemList even).bind fun _ _ _ => ?_
  exact (expectClosing .square _).closing fun _ _ _ => .spanFrom _ fun _ => .give _

theorem nextField (fields : Named Expr) (cursor : Cursor) : Counts measure id Any cursor (nextField rules fields) := by
  refine skipNewlines.bind fun _ _ _ => (keyName _).bind fun key _ _ => ?_
  refine (expect .colon _ (by decide)).bind fun _ after _ => ?_
  refine (even.expression after).bind fun _ _ _ => skipNewlines.bind fun _ _ _ => ?_
  refine accepting .comma (by decide) (fun _ _ => ?_) fun _ => .give _
  exact skipNewlines.bind fun _ _ _ => .at? _ (.give _)

theorem fieldList : Counts measure id Any cursor (fieldList rules) :=
  .at? _ (.both (fun _ => .give _) fun _ => loop (nextField even) [])

theorem objectLiteral (here : cursor.kind = .leftBrace) : Counts measure id Any cursor (objectLiteral rules) := by
  refine (advanceInside .brace here).amid fun _ _ _ => skipNewlines.bind fun _ _ _ => ?_
  refine (fieldList even).bind fun _ _ _ => ?_
  exact (expectClosing .brace _).closing fun _ _ _ => .spanFrom _ fun _ => .give _

omit even in
theorem qualifiedName (here : cursor.kind = .identifier) (colon : cursor.kindAhead 0 = .colon)
    (again : cursor.kindAhead 1 = .colon) : Counts measure id Any cursor qualifiedName := by
  refine (advanceTo (here ▸ rfl) (by rw [here]; decide) .colon colon (by decide)).bind fun qualifier first before => ?_
  split
  · exact .failAt _ _ _
  · have second := (before.2.2 0).trans again
    refine (advanceTo (before.1 ▸ rfl) (by rw [before.1]; decide) .colon second (by decide)).bind
      fun _ after behind => ?_
    refine (advance (behind.1 ▸ rfl)).bind fun _ _ _ => ?_
    exact (expectName _).bind fun _ _ _ => .spanFrom _ fun _ => .give _

theorem plainLambda (here : cursor.kind = .identifier) (arrow : cursor.kindAhead 0 = .arrow) :
    Counts measure id Any cursor (plainLambda rules) := by
  refine (advanceTo (here ▸ rfl) (by rw [here]; decide) .arrow arrow (by decide)).bind fun _ _ before => ?_
  refine (advance (before.1 ▸ rfl)).bind fun _ after _ => ?_
  exact (even.expression after).bind fun _ _ _ => .spanFrom _ fun _ => .give _

theorem primary : Counts measure id Any cursor (primary rules) := by
  have plain (kind : TokenKind) (quiet : isPlain kind = true) (found : (cursor.kind == kind) = true) :
      isPlain cursor.kind = true := by
    rwa [beq_iff_eq.mp found]
  refine .get (.both (fun table => ?_) fun _ => .both (fun cashflow => ?_) fun _ =>
    .both (fun portfolio => ?_) fun _ => ?_)
  · exact tableLiteral even (plain .tableKeyword (by decide) (Bool.and_eq_true_iff.mp table).1)
  · exact cashflowLiteral even (beq_iff_eq.mp cashflow)
  · exact portfolioLiteral even (beq_iff_eq.mp portfolio)
  split
  · rename_i literal found
    exact (advance (literal_plain found)).bind fun _ _ _ => .give _
  refine .both (fun series => ?_) fun _ => .both (fun qualified => ?_) fun _ =>
    .both (fun lambda => ?_) fun _ => .both (fun named => ?_) fun _ => .both (fun paren => ?_) fun _ =>
    .both (fun bracket => ?_) fun _ => .both (fun brace => ?_) fun _ => .unexpected _
  · exact timeseries even (plain .timeseriesKeyword (by decide) (Bool.and_eq_true_iff.mp series).1)
  · simp only [Bool.and_eq_true, beq_iff_eq] at qualified
    exact qualifiedName qualified.1.1 qualified.1.2 qualified.2
  · simp only [Bool.and_eq_true, beq_iff_eq] at lambda
    exact plainLambda even lambda.1 lambda.2
  · exact (advance (name_plain named)).bind fun _ _ _ => .give _
  · exact parenthesized even (beq_iff_eq.mp paren)
  · exact listLiteral even (beq_iff_eq.mp bracket)
  · exact objectLiteral even (beq_iff_eq.mp brace)

theorem call (callee : Expr) : Counts measure id Any cursor (call rules callee) := by
  refine .get ((arguments even).bind fun args _ _ => .spanFrom _ fun _ => ?_)
  split
  · exact .give _
  · exact .both (fun _ => .failAt _ _ _) fun _ => .give _

theorem sliceStop (target : Expr) (start : Option Expr) :
    Counts measure (measure.left .square) Any cursor (sliceStop rules target start) := by
  refine (unlessAny _ (even.expression cursor)).bind fun _ _ _ => ?_
  exact (expectClosing .square _).closing fun _ _ _ => .spanFrom _ fun _ => .give _

theorem subscript (target : Expr) (here : cursor.kind = .leftBracket) :
    Counts measure id Any cursor (subscript rules target) := by
  refine (advanceInside .square here).amid fun _ _ _ => ?_
  refine accepting .colon (by decide) (fun _ _ => sliceStop even _ _) fun _ => ?_
  refine (even.expression _).bind fun _ _ _ => ?_
  refine accepting .colon (by decide) (fun _ _ => sliceStop even _ _) fun _ => ?_
  exact (expectClosing .square _).closing fun _ _ _ => .spanFrom _ fun _ => .give _

theorem nextPostfix (target : Expr) (cursor : Cursor) : Counts measure id Any cursor (nextPostfix rules target) := by
  refine .kindHere ?_
  split
  · exact (call even target).bind fun _ _ _ => .give _
  · rename_i point
    exact (member target point).bind fun _ _ _ => .give _
  · rename_i bracket
    exact (subscript even target bracket).bind fun _ _ _ => .give _
  · exact .give _

theorem postfixes : Counts measure id Any cursor (postfixes rules) :=
  (primary even).bind fun first _ _ => loop (nextPostfix even) first

theorem unary : Counts measure id Any cursor (unary rules) := by
  refine .get ?_
  dsimp only
  split
  · rename_i op found
    refine (advance (unary_plain found)).bind fun _ after _ => ?_
    exact (even.unary after).bind fun _ _ _ => .give _
  · exact postfixes even

theorem nextOperand (least : Nat) (left : Expr) (cursor : Cursor) :
    Counts measure id Any cursor (nextOperand rules least left) := by
  refine .kindHere ?_
  split
  · exact .give _
  · rename_i op found
    refine .both (fun _ => .give _) fun _ => (advance (binary_plain found)).bind fun _ after _ => ?_
    exact (even.binary _ after).bind fun _ _ _ => .give _

theorem binary (least : Nat) : Counts measure id Any cursor (binary rules least) :=
  (unary even).bind fun first _ _ => loop (nextOperand even least) first

theorem expression : Counts measure id Any cursor (expression rules) := by
  refine (binary even 1).bind fun target after _ => .get ?_
  refine accepting .equal (by decide) (fun after _ => ?_) fun _ => .give _
  refine (even.expression after).bind fun _ _ _ => ?_
  split
  · exact .give _
  · exact .failAt _ _ _

end Expressions

section Statements

variable {rules : Rules} {cursor : Cursor} (even : rules.Even measure)

include even

omit even in
theorem nextLine {σ : Type} (state : σ) {line : Reading (σ × Bool)} (fresh : cursor.Fresh)
    (counted : ∀ after, after.Fresh → Counts measure id Cursor.Fresh after line) :
    Counts measure id Cursor.Fresh cursor (nextLine state line) :=
  .atAny _ (.both (fun _ => .pure _ fresh) fun _ =>
    skipNewlines.bind fun _ after still => counted after (still fresh))

theorem nextInBlock (statements : List Stmt) (cursor : Cursor) (fresh : cursor.Fresh) :
    Counts measure id Cursor.Fresh cursor (nextInBlock rules statements) := by
  refine nextLine statements fresh fun after begun => ?_
  refine .atAny _ (.both (fun _ => .pure _ begun) fun _ => ?_)
  exact (even.statement after begun).bind fun _ _ held => .pure _ held

theorem block : Counts measure id Cursor.Fresh cursor (block rules) := by
  refine skipNewlines.bind fun _ _ _ => (expect .indent _ (by decide)).bind fun _ _ behind => ?_
  refine (repeating (nextInBlock even) [] (behind.fresh (by decide) (by decide))).bind fun _ _ _ => ?_
  refine (expect .dedent _ (by decide)).bind fun _ _ closed => ?_
  exact .spanFrom _ fun _ => .pure _ (closed.fresh (by decide) (by decide))

omit even in
theorem closeConstruct (construct : String) : Counts measure measure.closed Cursor.Fresh cursor (closeConstruct construct) :=
  (expectEnd construct).closing fun _ _ _ => expectLineEnd

theorem enclosed (construct : String) (first : Source.Location) (statement : Source.Span → Block → Stmt) :
    Counts measure measure.closed Cursor.Fresh cursor
      (Grammar.block rules >>= fun body => Grammar.closeConstruct construct >>= fun _ =>
        Grammar.spanFrom first >>= fun span => Pure.pure (statement span body)) := by
  refine (block even).bind fun _ _ _ => (closeConstruct construct).closing fun _ _ fresh => ?_
  exact .spanFrom _ fun _ => .pure _ fresh

omit even in
theorem ended {α : Type} (first : Source.Location) (statement : Source.Span → α) :
    Counts measure id Cursor.Fresh cursor (Grammar.expectLineEnd >>= fun _ =>
      Grammar.spanFrom first >>= fun span => Pure.pure (statement span)) :=
  expectLineEnd.bind fun _ _ fresh => .spanFrom _ fun _ => .pure _ fresh

theorem binding : Counts measure id Cursor.Fresh cursor (binding rules) := by
  refine (expectName _).bind fun _ _ _ => (expect .equal _ (by decide)).bind fun _ _ _ => ?_
  refine (expression even).bind fun _ _ _ => ?_
  exact expectLineEnd.bind fun _ _ fresh => .pure _ fresh

theorem letStatement (plain : isPlain cursor.kind = true) :
    Counts measure id Cursor.Fresh cursor (letStatement rules) :=
  (advance plain).bind fun _ _ _ => (binding even).bind fun _ _ fresh => .spanFrom _ fun _ => .pure _ fresh

theorem setStatement (plain : isPlain cursor.kind = true) :
    Counts measure id Cursor.Fresh cursor (setStatement rules) :=
  (advance plain).bind fun _ _ _ => (binding even).bind fun _ _ fresh => .spanFrom _ fun _ => .pure _ fresh

theorem printStatement (plain : isPlain cursor.kind = true) :
    Counts measure id Cursor.Fresh cursor (printStatement rules) := by
  refine (advance plain).bind fun _ _ _ => ?_
  exact (joined fun _ => expression even).bind fun _ _ _ => ended _ _

omit even in
theorem acceptElseIf : Counts measure id Any cursor acceptElseIf := by
  refine .get (.both (fun found => ?_) fun _ => .both (fun found => ?_) fun _ => .give _)
  · exact (advance (by rw [beq_iff_eq.mp found]; decide)).bind fun _ _ _ => .give _
  · simp only [Bool.and_eq_true, beq_iff_eq] at found
    refine (advanceTo (by rw [found.1]; decide) (by rw [found.1]; decide) .ifKeyword found.2 (by decide)).bind
      fun _ after ahead => ?_
    refine (advanceOver .ifKeyword ahead.1 (by decide) ?_).bind fun _ _ _ => .give _
    rw [ahead.2.1, found.1]
    exact measure.chained

theorem conditional : Counts measure id Any cursor (conditional rules) := by
  refine (expression even).bind fun _ _ _ => (accept .thenKeyword (by decide)).bind fun _ _ _ => ?_
  exact (block even).bind fun _ _ _ => .give _

theorem nextBranch (branches : List (Branch Stmt)) (cursor : Cursor) :
    Counts measure id Any cursor (nextBranch rules branches) := by
  refine skipNewlines.bind fun _ _ _ => .get (acceptElseIf.bind fun _ _ _ => .both (fun _ => ?_) fun _ => .give _)
  exact (conditional even).bind fun _ _ _ => .spanFrom _ fun _ => .give _

theorem ifStatement (here : cursor.kind = .ifKeyword) (fresh : cursor.Fresh) :
    Counts measure id Cursor.Fresh cursor (ifStatement rules) := by
  refine (advanceInto (here ▸ rfl) fresh).within fun _ _ _ => ?_
  refine (conditional even).bind fun _ _ _ => ?_
  refine (loop (nextBranch even) []).bind fun _ _ _ => ?_
  refine (optionalAfter .elseKeyword (by decide) fun _ => (block even).weaken).bind fun _ _ _ => ?_
  exact (closeConstruct _).closing fun _ _ held => .spanFrom _ fun _ => .pure _ held

theorem whileStatement (here : cursor.kind = .whileKeyword) :
    Counts measure id Cursor.Fresh cursor (whileStatement rules) := by
  refine (opening rfl (by decide) here).within fun _ _ _ => (expression even).bind fun _ _ _ => ?_
  exact (acceptAny _ (by decide)).bind fun _ _ _ => enclosed even _ _ _

theorem rangeLoop (first : Token) (name : String) (start : Expr) :
    Counts measure measure.closed Cursor.Fresh cursor (rangeLoop rules first name start) := by
  refine (expression even).bind fun _ _ _ => ?_
  refine (optionalAfter .stepKeyword (by decide) fun _ => expression even).bind fun _ _ _ => ?_
  exact (accept .doKeyword (by decide)).bind fun _ _ _ => enclosed even _ _ _

theorem itemLoop (first : Token) (name : String) (items : Expr) :
    Counts measure measure.closed Cursor.Fresh cursor (itemLoop rules first name items) :=
  (accept .doKeyword (by decide)).bind fun _ _ _ => enclosed even _ _ _

theorem forStatement (here : cursor.kind = .forKeyword) :
    Counts measure id Cursor.Fresh cursor (forStatement rules) := by
  refine (opening rfl (by decide) here).within fun _ _ _ => (expectName _).bind fun _ _ _ => ?_
  refine (expect .inKeyword _ (by decide)).bind fun _ _ _ => (expression even).bind fun _ _ _ => ?_
  exact accepting .toKeyword (by decide) (fun _ _ => rangeLoop even _ _ _) fun _ => itemLoop even _ _ _

theorem returnStatement (plain : isPlain cursor.kind = true) :
    Counts measure id Cursor.Fresh cursor (returnStatement rules) := by
  refine (advance plain).bind fun _ after _ => ?_
  exact (unlessAny _ (expression even)).bind fun _ _ _ => ended _ _

theorem functionStatement (here : cursor.kind = .functionKeyword) :
    Counts measure id Cursor.Fresh cursor (functionStatement rules) := by
  refine (opening rfl (by decide) here).within fun _ _ _ => (expectName _).bind fun _ _ _ => ?_
  refine (expectOpening .parenthesis _).around fun _ _ _ => parameters.bind fun _ _ _ => ?_
  exact (expectClosing .parenthesis _).chain (fun _ _ _ => enclosed even _ _ _) fun _ => rfl

omit even in
theorem importStatement (plain : isPlain cursor.kind = true) :
    Counts measure id Cursor.Fresh cursor importStatement := by
  refine (advance plain).bind fun _ _ _ => (expect .string _ (by decide)).bind fun _ _ _ => ?_
  exact (optionalAfter .asKeyword (by decide) fun _ => expectName _).bind fun _ _ _ => ended _ _

theorem scenarioStatement (here : cursor.kind = .scenarioKeyword) :
    Counts measure id Cursor.Fresh cursor (scenarioStatement rules) := by
  refine (opening rfl (by decide) here).within fun _ _ _ => (expectName _).bind fun _ _ _ => ?_
  exact (accept .colon (by decide)).bind fun _ _ _ => enclosed even _ _ _

omit even in
theorem runStatement (plain : isPlain cursor.kind = true) : Counts measure id Cursor.Fresh cursor runStatement := by
  refine (advance plain).bind fun _ _ _ => (expectName _).bind fun _ _ _ => ?_
  refine (expect .onKeyword _ (by decide)).bind fun _ _ _ => ?_
  exact (expectName _).bind fun _ _ _ => ended _ _

theorem simulateStatement (plain : isPlain cursor.kind = true) :
    Counts measure id Cursor.Fresh cursor (simulateStatement rules) := by
  refine (advance plain).bind fun _ _ _ => (expectName _).bind fun _ _ _ => ?_
  refine (accept .runsKeyword (by decide)).bind fun _ _ _ => ?_
  refine (unlessAny _ (expression even)).bind fun _ _ _ => ?_
  exact (optionalAfter .stepKeyword (by decide) fun _ => expression even).bind fun _ _ _ => ended _ _

omit even in
theorem description : Counts measure id Any cursor description := by
  refine .get ?_
  dsimp only
  split
  · rename_i kind _
    exact (advance (by rw [Cursor.kind, kind]; decide)).bind fun _ _ _ => .give _
  · rename_i kind _
    exact (advance (by rw [Cursor.kind, kind]; decide)).bind fun _ _ _ => .give _
  · exact .give _

theorem posting (side : Side) (plain : isPlain cursor.kind = true) :
    Counts measure id Any cursor (posting rules side) := by
  refine (advance plain).bind fun _ _ _ => (expectName _).bind fun _ _ _ => ?_
  refine (expression even).bind fun _ _ _ => description.bind fun _ _ _ => ?_
  exact .spanFrom _ fun _ => .give _

theorem nextHolding (holdings : List Posting) (cursor : Cursor) (fresh : cursor.Fresh) :
    Counts measure id Cursor.Fresh cursor (nextHolding rules holdings) := by
  refine nextLine holdings fresh fun after begun => ?_
  refine .at? _ (.both (fun _ => .pure _ begun) fun _ => .kindHere ?_)
  split
  · exact .unexpected _
  · rename_i side found
    refine (posting even side (side_plain found)).bind fun _ _ _ => ?_
    exact expectLineEnd.bind fun _ _ held => .pure _ held

theorem portfolioStatement (here : cursor.kind = .portfolioKeyword) :
    Counts measure id Cursor.Fresh cursor (portfolioStatement rules) := by
  refine (opening rfl (by decide) here).within fun _ _ _ => (expectName _).bind fun _ _ _ => ?_
  refine (accept .colon (by decide)).bind fun _ _ _ => skipNewlines.bind fun _ _ _ => ?_
  refine (expect .indent _ (by decide)).bind fun _ _ behind => ?_
  refine (repeating (nextHolding even) [] (behind.fresh (by decide) (by decide))).bind fun _ _ _ => ?_
  refine (expect .dedent _ (by decide)).bind fun _ _ _ => ?_
  exact (closeConstruct _).closing fun _ _ fresh => .spanFrom _ fun _ => .pure _ fresh

omit even in
theorem terminated (statement : Stmt) : Counts measure id Cursor.Fresh cursor (terminated statement) :=
  expectLineEnd.bind fun _ _ fresh => .pure _ fresh

theorem statementForm (fresh : cursor.Fresh) : Counts measure id Cursor.Fresh cursor (statementForm rules) := by
  refine skipNewlines.bind fun _ cursor still => .get ?_
  have begun := still fresh
  split
  · exact (block even).bind fun _ _ held => .pure _ held
  · exact scenarioStatement even ‹cursor.kind = _›
  · exact runStatement (‹cursor.kind = _› ▸ rfl)
  · exact simulateStatement even (‹cursor.kind = _› ▸ rfl)
  · exact (posting even _ (‹cursor.kind = _› ▸ rfl)).bind fun _ _ _ => terminated _
  · exact (posting even _ (‹cursor.kind = _› ▸ rfl)).bind fun _ _ _ => terminated _
  · exact letStatement even (‹cursor.kind = _› ▸ rfl)
  · exact setStatement even (‹cursor.kind = _› ▸ rfl)
  · exact printStatement even (‹cursor.kind = _› ▸ rfl)
  · exact printStatement even (‹cursor.kind = _› ▸ rfl)
  · exact ifStatement even ‹cursor.kind = _› begun
  · exact whileStatement even ‹cursor.kind = _›
  · exact forStatement even ‹cursor.kind = _›
  · exact returnStatement even (‹cursor.kind = _› ▸ rfl)
  · exact functionStatement even ‹cursor.kind = _›
  · exact importStatement (‹cursor.kind = _› ▸ rfl)
  · refine .both (fun portfolio => ?_) fun _ => ?_
    · exact portfolioStatement even (beq_iff_eq.mp (Bool.and_eq_true_iff.mp portfolio).1)
    · exact (expression even).bind fun _ _ _ => terminated _

omit even in
theorem strayDedent (here : cursor.kind = .dedent) : Counts measure id Cursor.Fresh cursor strayDedent := by
  refine (advanceOver .dedent here (by decide) (measure.plain _ .dedent rfl)).bind fun _ after behind => ?_
  rintro ⟨ended, worded⟩ _ _ ⟨⟩
  exact ⟨⟨ended, worded⟩, rfl, behind.fresh (by decide) (by decide)⟩

theorem nextAtTop (statements : List Stmt) (fresh : cursor.Fresh) :
    Counts measure id Cursor.Fresh cursor (nextAtTop rules statements) := by
  refine .at? .dedent (.both (fun stray => ?_) fun _ => ?_)
  · exact (strayDedent (beq_iff_eq.mp stray)).bind fun _ _ held => .pure _ held
  · exact (even.statement cursor fresh).bind fun _ _ held => .pure _ held

theorem programRound (maxErrors : Int) (statements : List Stmt) (cursor : Cursor) (fresh : cursor.Fresh) :
    Counts measure id Cursor.Fresh cursor (programRound rules maxErrors statements) := by
  refine .get (.both (fun _ => .pure _ fresh) fun _ => ?_)
  refine (nextAtTop even statements fresh).bind fun _ _ held => .get (.both (fun _ => .pure _ held) fun _ => ?_)
  exact skipNewlines.bind fun _ _ still => .pure _ (still held)

theorem statements (maxErrors : Int) (fresh : cursor.Fresh) :
    Counts measure id Cursor.Fresh cursor (statements rules maxErrors) := by
  refine skipNewlines.bind fun _ _ still => ?_
  exact (repeating (programRound even maxErrors) [] (still fresh)).bind fun _ _ held => .pure _ held

end Statements

end Counts

theorem Rules.strict_even (measure : Measure Amount) (depth : Nat) : (Rules.strict depth).Even measure := by
  induction depth with
  | zero => exact ⟨fun _ => .refuse _, fun _ _ => .refuse _, fun _ => .refuse _, fun _ _ => .refuse _⟩
  | succ depth ih =>
      exact ⟨fun _ => Counts.expression ih, fun least _ => Counts.binary ih least, fun _ => Counts.unary ih,
        fun _ fresh => Counts.statementForm ih fresh⟩

theorem EndsOnce.nothing_behind {passed ahead : List Token} {current : Token}
    (ends : EndsOnce (passed ++ current :: ahead)) (last : current.kind = .endOfFile) : ahead = [] := by
  obtain ⟨body, final, split, _, going⟩ := ends
  rcases List.eq_nil_or_concat ahead with none | ⟨others, token, rfl⟩
  · exact none
  · rw [List.concat_eq_append, ← List.cons_append, ← List.append_assoc] at split
    have member : current ∈ body := by
      rw [← (List.append_inj' split rfl).1]
      simp
    exact absurd last (going current member)

-- Read to its end and with nothing to report, a list of tokens has the measure of its last token alone.
theorem quiet_parse_even (measure : Measure Amount) (maxErrors : Int) (lines : Option (List String))
    (tokens : List Token) (ends : EndsOnce tokens) (worded : Token.Worded tokens) (positive : 0 < maxErrors)
    (quiet : (parse maxErrors lines tokens).reports = []) :
    ∃ first rest before, tokens = first :: rest ∧
      measure.ahead first.kind (tokens.map (·.kind)) = measure.ahead before [.endOfFile] := by
  obtain ⟨first, rest, rfl⟩ := ends.cons
  obtain ⟨statements, cursor, ran, passes, silent⟩ := statements_end maxErrors (ends.room lines)
  have unreported := reports_of_parse ran quiet
  have last : cursor.kind = .endOfFile := by
    rcases statements_stop ran with ended | limited
    · exact ended
    · rw [unreported] at limited
      exact absurd positive (by simpa using limited)
  have begun : (Cursor.start first rest lines).Fresh := fun again => by
    rw [show (Cursor.start first rest lines).previous.kind = .ifKeyword from again]
    decide
  have proper : (Cursor.start first rest lines).Proper := ⟨ends.ended lines, worded⟩
  obtain ⟨_, same, _⟩ := Counts.statements (Rules.strict_even measure _) maxErrors begun proper _ _
    (silent unreported).2
  obtain ⟨passed, split, _⟩ := passes.tokens
  have whole : first :: rest = passed ++ cursor.current :: cursor.ahead := split
  have nothing : cursor.ahead = [] := EndsOnce.nothing_behind (by rwa [← whole]) last
  refine ⟨first, rest, cursor.previous.kind, rfl, same.trans ?_⟩
  unfold Measure.of Cursor.rest
  rw [nothing, List.map_cons, show cursor.current.kind = .endOfFile from last]
  rfl

section Nesting

open Token (Nested Worded bracketChange entering leaving unopened)

-- Brackets are matched, blocks are not counted.
def Measure.nesting : Measure (Option (List Bracket)) where
  ahead _ := unopened
  change _ := bracketChange
  opened := id
  closed := id
  entered := entering
  left := leaving
  cons _ _ _ _ := rfl
  member _ name rest plain := by
    change bracketChange name (unopened rest) = unopened rest
    rw [Token.bracketChange_plain plain, id]
  plain _ kind plain := Token.bracketChange_plain (by simpa using (Bool.and_eq_true_iff.mp plain).2)
  chained := rfl
  opens _ kind opens _ := by cases kind <;> first | rfl | cases opens
  closes _ := rfl
  enters _ bracket := by cases bracket <;> rfl
  leaves _ bracket := by cases bracket <;> rfl
  block _ := rfl
  group := Token.entering_leaving

theorem quiet_parse_nested (maxErrors : Int) (lines : Option (List String)) (tokens : List Token)
    (ends : EndsOnce tokens) (worded : Worded tokens) (positive : 0 < maxErrors)
    (quiet : (parse maxErrors lines tokens).reports = []) : Nested (tokens.map (·.kind)) := by
  obtain ⟨_, _, _, _, even⟩ := quiet_parse_even .nesting maxErrors lines tokens ends worded positive quiet
  exact Token.nested_of_unopened even

-- A text that the grammar accepts has its brackets nested, and its scan reports none left open and none
-- that closes nothing.
theorem accepted_text_nested {tabWidth : Nat} {currencies : List String} {file : Option String}
    {source : String} {stream : Token.Stream}
    (scanned : Token.scan tabWidth currencies file source = .ok stream) (maxErrors : Int)
    (lines : Option (List String)) (positive : 0 < maxErrors)
    (quiet : (parse maxErrors lines stream.tokens).reports = []) :
    Nested (stream.tokens.map (·.kind)) ∧
      ∀ report ∈ stream.reports, ∀ name,
        report.issue ≠ .unclosedGroup name ∧ report.issue ≠ .unopenedGroup name := by
  have nested := quiet_parse_nested maxErrors lines stream.tokens (scanned_ends scanned)
    (Token.scanned_worded scanned) positive quiet
  exact ⟨nested, Token.nested_reports scanned nested⟩

theorem brackets_of_three_sorts_nested :
    ∃ stream, Token.scan 4 [] none "f(\x7ba: x[1]\x7d)" = .ok stream ∧
      (parse 1 none stream.tokens).reports = [] ∧ Nested (stream.tokens.map (·.kind)) ∧
      ∀ report ∈ stream.reports, ∀ name,
        report.issue ≠ .unclosedGroup name ∧ report.issue ≠ .unopenedGroup name := by
  have found : (Token.scan 4 [] none "f(\x7ba: x[1]\x7d)").toOption.any (fun stream =>
      (parse 1 none stream.tokens).reports.isEmpty) = true := by decide +kernel
  cases scanned : Token.scan 4 [] none "f(\x7ba: x[1]\x7d)" with
  | error fault =>
      rw [scanned] at found
      cases found
  | ok stream =>
      rw [scanned] at found
      have quiet : (parse 1 none stream.tokens).reports = [] := List.isEmpty_iff.mp found
      exact ⟨stream, rfl, quiet, accepted_text_nested scanned 1 none (by decide) quiet⟩

end Nesting

end Fiscal.Grammar
