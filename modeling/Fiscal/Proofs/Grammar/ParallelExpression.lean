import Fiscal.Proofs.Grammar.Parallel

set_option autoImplicit false

namespace Fiscal.Grammar

open Token (Groups)

structure Rules.Abreast (mode : Mode) (rules other : Rules) : Prop where
  expression (base : Option Cursor) (groups : Groups) (first second : Cursor)
    (near : Near mode base groups first second) :
    Keeps mode base groups first second rules.expression other.expression
  binary (least : Nat) (base : Option Cursor) (groups : Groups) (first second : Cursor)
    (near : Near mode base groups first second) :
    Keeps mode base groups first second (rules.binary least) (other.binary least)
  unary (base : Option Cursor) (groups : Groups) (first second : Cursor)
    (near : Near mode base groups first second) :
    Keeps mode base groups first second rules.unary other.unary
  fails (cursor : Cursor) (ended : cursor.kind = .dedent ∨ cursor.kind = .endOfFile) :
    Fails rules.expression cursor

namespace Parallel

variable {mode : Mode} {base : Option Cursor} {groups : Groups} {first second : Cursor}

theorem parameters (on : On mode groups first second) :
    Keeps mode base groups first second parameters Grammar.parameters := by
  refine .at? on.same_kind _ (.both (fun _ => .pure _ on) fun _ => ?_)
  exact joined (on.based base) fun _ _ near => expectName near _

theorem keyName (on : On mode groups first second) (expected : String) :
    Keeps mode base groups first second (keyName expected) (Grammar.keyName expected) := by
  refine .get ?_
  rw [← on.same_current]
  dsimp only
  split
  · rename_i kind _
    refine (step (on.based base) ?_).bind fun _ _ _ after => .pure _ after.2
    rw [Cursor.kind, kind]
    rfl
  · rename_i kind _
    refine (step (on.based base) ?_).bind fun _ _ _ after => .pure _ after.2
    rw [Cursor.kind, kind]
    rfl
  · exact (expectName (on.based base) expected).bind fun _ _ _ after => .pure _ after

theorem qualifiedName (near : Near mode base groups first second) (word : first.kind = .identifier)
    (colon : first.kindAhead 0 = .colon) (again : first.kindAhead 1 = .colon) :
    Keeps mode base groups first second qualifiedName Grammar.qualifiedName := by
  refine (advanceTo near (by rw [word]; rfl)).bind fun qualifier one two after => ?_
  obtain ⟨_, kind, next, on⟩ := after
  split
  · exact .failAt (on.based base) _ _ _
  · refine (advanceTo (on.based base) (by rw [kind, colon]; rfl)).bind fun _ one two after => ?_
    obtain ⟨_, kind, _, on⟩ := after
    refine (step (on.based base) (by rw [kind, next, again]; rfl)).bind fun _ one two after => ?_
    refine (expectName (.based after.2 base) _).bind fun _ one two on => ?_
    exact .spanFrom on.same_previous _ (.pure _ on)

theorem member (on : On mode groups first second) (target : Expr) (dot : first.kind = .dot) :
    Keeps mode base groups first second (member target) (Grammar.member target) := by
  refine (advance (on.based base) dot (by decide) (by decide)).bind fun _ one two after => .get ?_
  have still : On mode groups one two := after.2
  rw [← still.same_current]
  refine .both (fun named => ?_) fun _ => .unexpected (still.based base) _
  have passed : Keeps mode base groups one two Grammar.advance Grammar.advance := by
    rcases Bool.or_eq_true_iff.mp named with word | word
    · refine (step (still.based base) ?_).mono fun _ _ _ after => after.2
      rw [Cursor.kind, beq_iff_eq.mp word]
      rfl
    · exact ⟨still.same_current, still.word word⟩
  refine passed.bind fun _ one two after => .spanFrom after.same_previous _ ?_
  exact .pure _ after

section Rules

variable {inner other : Rules} (rules : inner.Abreast mode other) (fits : mode.Fits)

include rules

theorem nextArgument (args : List Expr) (first second : Cursor) (on : On mode groups first second) :
    Keeps mode base groups first second (nextArgument inner args) (Grammar.nextArgument other args) := by
  refine (accept on .comma rfl).bind fun _ one two still => .both (fun _ => ?_) fun _ => .pure _ still
  refine .at? still.same_kind _ (.both (fun _ => .pure _ still) fun _ => .both (fun _ => .get ?_) fun _ => ?_)
  · rw [← still.same_current]
    exact .failAt (still.based base) _ _ _
  · exact (rules.expression base groups one two (still.based base)).bind fun _ _ _ after => .pure _ after

theorem argumentList (on : On mode groups first second) :
    Keeps mode base groups first second (argumentList inner) (Grammar.argumentList other) := by
  refine .at? on.same_kind _ (.both (fun _ => .pure _ on) fun _ => ?_)
  refine (rules.expression base groups first second (on.based base)).bind fun item _ _ after => ?_
  exact loop (nextArgument rules) [item] after

theorem arguments (near : Near mode base groups first second) :
    Keeps mode base groups first second (arguments inner) (Grammar.arguments other) := by
  refine (expect near .leftParen _ (by decide) (by decide)).bind fun _ _ _ opened => ?_
  refine (argumentList rules opened).bind fun _ _ _ still => ?_
  refine (expect (still.based base) .rightParen _ (by decide) (by decide)).bind fun _ _ _ closed => ?_
  exact .pure _ closed

theorem nextColumn (columns : Named Expr) (first second : Cursor) (on : On mode groups first second) :
    Keeps mode base groups first second (nextColumn inner columns) (Grammar.nextColumn other columns) := by
  refine (keyName on _).bind fun key one two still => .both (fun _ => ?_) fun _ => ?_
  · exact .failAt (still.based base) _ _ _
  refine (expect (still.based base) .colon _ (by decide) (by decide)).bind fun _ one two still => ?_
  refine (rules.expression base groups one two (.based still base)).bind fun _ _ _ still => ?_
  refine (accept still .comma rfl).bind fun _ _ _ still => .both (fun _ => ?_) fun _ => .pure _ still
  exact .at? still.same_kind _ (.pure _ still)

theorem columnList (on : On mode groups first second) :
    Keeps mode base groups first second (columnList inner) (Grammar.columnList other) :=
  .at? on.same_kind _ (.both (fun _ => .pure _ on) fun _ => loop (nextColumn rules) [] on)

theorem tableLiteral (near : Near mode base groups first second) (table : first.kind = .tableKeyword) :
    Keeps mode base groups first second (tableLiteral inner) (Grammar.tableLiteral other) := by
  refine (advance near table (by decide) (by decide)).bind fun _ _ _ still => ?_
  refine (expect (.based still.2 base) .leftParen _ (by decide) (by decide)).bind fun _ _ _ opened => ?_
  refine (columnList rules opened).bind fun _ _ _ still => ?_
  refine (expect (still.based base) .rightParen _ (by decide) (by decide)).bind fun _ _ _ closed => ?_
  exact .spanFrom (Near.same_previous closed) _ (.pure _ closed)

theorem plainLambda (near : Near mode base groups first second) (word : first.kind = .identifier)
    (arrow : first.kindAhead 0 = .arrow) :
    Keeps mode base groups first second (plainLambda inner) (Grammar.plainLambda other) := by
  refine (advanceTo near (by rw [word]; rfl)).bind fun _ one two after => ?_
  obtain ⟨_, kind, _, on⟩ := after
  refine (step (on.based base) (by rw [kind, arrow]; rfl)).bind fun _ one two after => ?_
  refine (rules.expression base groups one two (.based after.2 base)).bind fun _ one two on => ?_
  exact .spanFrom on.same_previous _ (.pure _ on)

theorem timeseries (near : Near mode base groups first second) (word : first.kind = .timeseriesKeyword) :
    Keeps mode base groups first second (timeseries inner) (Grammar.timeseries other) := by
  refine (advance near word (by decide) (by decide)).bind fun _ one two after => .get ?_
  have on : On mode groups one two := after.2
  rw [← on.same_current]
  refine (arguments rules (on.based base)).bind fun args _ _ on => ?_
  split
  · exact .spanFrom on.same_previous _ (.pure _ on)
  · exact .failAt (on.based base) _ _ _

theorem parenthesized (near : Near mode base groups first second) (paren : first.kind = .leftParen) :
    Keeps mode base groups first second (parenthesized inner) (Grammar.parenthesized other) := by
  refine .get ?_
  rw [← near.closes paren]
  refine (advance near paren (by decide) (by decide)).bind fun _ one two after => .both (fun _ => ?_) fun _ => ?_
  · refine (parameters after.2).bind fun _ _ _ on => ?_
    refine (expect (on.based base) .rightParen _ (by decide) (by decide)).bind fun _ _ _ closed => ?_
    refine (expect (.based closed base) .arrow _ (by decide) (by decide)).bind fun _ one two on => ?_
    refine (rules.expression base groups one two (.based on base)).bind fun _ _ _ on => ?_
    exact .spanFrom on.same_previous _ (.pure _ on)
  · refine (rules.expression base _ one two (.based after.2 base)).bind fun _ _ _ on => ?_
    refine (expect (on.based base) .rightParen _ (by decide) (by decide)).bind fun _ _ _ closed => ?_
    exact .pure _ closed

theorem call (on : On mode groups first second) (callee : Expr) :
    Keeps mode base groups first second (call inner callee) (Grammar.call other callee) := by
  refine .get ?_
  rw [← on.same_current]
  refine (arguments rules (on.based base)).bind fun args _ _ on => .spanFrom on.same_previous _ ?_
  split
  · exact .pure _ on
  · exact .both (fun _ => .failAt (on.based base) _ _ _) fun _ => .pure _ on

theorem sliceStop {place : Source.Location} (target : Expr) (start : Option Expr)
    (on : On mode (groups.after place .leftBracket) first second) :
    Keeps mode base groups first second (sliceStop inner target start)
      (Grammar.sliceStop other target start) := by
  refine (unlessAny on _ (rules.expression base _ first second (on.based base))).bind fun _ _ _ on => ?_
  refine (expect (on.based base) .rightBracket _ (by decide) (by decide)).bind fun _ _ _ closed => ?_
  exact .spanFrom (Near.same_previous closed) _ (.pure _ closed)

theorem subscript (on : On mode groups first second) (target : Expr) (bracket : first.kind = .leftBracket) :
    Keeps mode base groups first second (subscript inner target) (Grammar.subscript other target) := by
  refine (advance (on.based base) bracket (by decide) (by decide)).bind fun token _ _ after => ?_
  refine (accept after.2 .colon rfl).bind fun _ one two on =>
    .both (fun _ => sliceStop rules target none on) fun _ => ?_
  refine (rules.expression base _ one two (on.based base)).bind fun _ _ _ on => ?_
  refine (accept on .colon rfl).bind fun _ one two on =>
    .both (fun _ => sliceStop rules target _ on) fun _ => ?_
  refine (expect (on.based base) .rightBracket _ (by decide) (by decide)).bind fun _ _ _ closed => ?_
  exact .spanFrom (Near.same_previous closed) _ (.pure _ closed)

theorem nextPostfix (target : Expr) (first second : Cursor) (on : On mode groups first second) :
    Keeps mode base groups first second (nextPostfix inner target) (Grammar.nextPostfix other target) := by
  refine .kindHere on.same_kind ?_
  split
  · exact (call rules on target).bind fun _ _ _ on => .pure _ on
  · rename_i dot
    exact (member on target dot).bind fun _ _ _ on => .pure _ on
  · rename_i bracket
    exact (subscript rules on target bracket).bind fun _ _ _ on => .pure _ on
  · exact .pure _ on

include fits

theorem nextItem {place : Source.Location} (items : List Expr) (first second : Cursor)
    (on : On mode (groups.after place .leftBracket) first second) :
    Keeps mode base (groups.after place .leftBracket) first second (nextItem inner items)
      (Grammar.nextItem other items) := by
  have inside : (groups.after place .leftBracket).depth ≠ 0 := by simp [Groups.after, Groups.depth]
  refine (accept on .comma rfl).bind fun _ _ _ on => .both (fun _ => ?_) fun _ => .pure _ on
  refine (skipInside fits on inside).bind fun _ one two on => ?_
  refine .at? on.same_kind _ (.both (fun _ => .pure _ on) fun _ => ?_)
  refine (rules.expression base _ one two (on.based base)).bind fun _ _ _ on => ?_
  exact (skipInside fits on inside).bind fun _ _ _ on => .pure _ on

theorem listLiteral (near : Near mode base groups first second) (bracket : first.kind = .leftBracket) :
    Keeps mode base groups first second (listLiteral inner) (Grammar.listLiteral other) := by
  refine (advance near bracket (by decide) (by decide)).bind fun token _ _ after => ?_
  have inside : (groups.after token.span.start .leftBracket).depth ≠ 0 := by
    simp [Groups.after, Groups.depth]
  refine (skipInside fits after.2 inside).bind fun _ one two on => ?_
  have items : Keeps mode base (groups.after token.span.start .leftBracket) one two (itemList inner)
      (itemList other) := by
    refine .at? on.same_kind _ (.both (fun _ => .pure _ on) fun _ => ?_)
    refine (rules.expression base _ one two (on.based base)).bind fun item _ _ on => ?_
    exact (skipInside fits on inside).bind fun _ _ _ on => loop (nextItem rules fits) [item] on
  refine items.bind fun _ _ _ on => ?_
  refine (expect (on.based base) .rightBracket _ (by decide) (by decide)).bind fun _ _ _ closed => ?_
  exact .spanFrom (Near.same_previous closed) _ (.pure _ closed)

theorem nextField {place : Source.Location} (fields : Named Expr) (first second : Cursor)
    (on : On mode (groups.after place .leftBrace) first second) :
    Keeps mode base (groups.after place .leftBrace) first second (nextField inner fields)
      (Grammar.nextField other fields) := by
  have inside : (groups.after place .leftBrace).depth ≠ 0 := by simp [Groups.after, Groups.depth]
  refine (skipInside fits on inside).bind fun _ _ _ on => ?_
  refine (keyName on _).bind fun _ _ _ on => ?_
  refine (expect (on.based base) .colon _ (by decide) (by decide)).bind fun _ one two on => ?_
  refine (rules.expression base _ one two (.based on base)).bind fun _ _ _ on => ?_
  refine (skipInside fits on inside).bind fun _ _ _ on => ?_
  refine (accept on .comma rfl).bind fun _ _ _ on => .both (fun _ => ?_) fun _ => .pure _ on
  exact (skipInside fits on inside).bind fun _ _ _ on => .at? on.same_kind _ (.pure _ on)

theorem objectLiteral (near : Near mode base groups first second) (brace : first.kind = .leftBrace) :
    Keeps mode base groups first second (objectLiteral inner) (Grammar.objectLiteral other) := by
  refine (advance near brace (by decide) (by decide)).bind fun token _ _ after => ?_
  have inside : (groups.after token.span.start .leftBrace).depth ≠ 0 := by
    simp [Groups.after, Groups.depth]
  refine (skipInside fits after.2 inside).bind fun _ one two on => ?_
  have fields : Keeps mode base (groups.after token.span.start .leftBrace) one two (fieldList inner)
      (fieldList other) :=
    .at? on.same_kind _ (.both (fun _ => .pure _ on) fun _ => loop (nextField rules fits) [] on)
  refine fields.bind fun _ _ _ on => ?_
  refine (expect (on.based base) .rightBrace _ (by decide) (by decide)).bind fun _ _ _ closed => ?_
  exact .spanFrom (Near.same_previous closed) _ (.pure _ closed)

theorem flowLine (side : Side) (on : On mode groups first second) (plain : TokenKind.isPlain first.kind = true) :
    Parallel mode base (fun _ => Closed mode) first second (flowLine inner side)
      (Grammar.flowLine other side) := by
  refine (step (on.based base) plain).bind fun _ one two after => ?_
  refine (rules.expression base groups one two (.based after.2 base)).bind fun _ _ _ on => ?_
  refine .spanFrom on.same_previous _ ?_
  exact (expectLineEnd fits on).bind fun _ _ _ closed => .pure _ closed

omit rules fits in
theorem side_plain {kind : TokenKind} {side : Side} (found : Side.ofKind? kind = some side) :
    TokenKind.isPlain kind = true := by
  unfold Side.ofKind? at found
  split at found
  · rfl
  · rfl
  · cases found

theorem nextFlow (flows : List (Flow Expr)) (first second : Cursor) (loose : Loose mode first second) :
    Parallel mode base (fun last one two => if last.2 = true then Loose mode one two else Poised mode one two)
        first second (nextFlow inner flows) (Grammar.nextFlow other flows) ∨
      Stalls mode first (Grammar.nextFlow inner flows) := by
  refine nextLine fits flows loose (fun one two on _ => ?_) (fun cursor dedent => ?_) (fun cursor dedent => ?_)
    fun cursor ended => .inl ?_
  · have nests := loose.1
    refine .at? on.same_kind _ (.both (fun _ => .pure _ ⟨nests, .inl on⟩) fun _ => .kindHere on.same_kind ?_)
    split
    · exact .unexpected (on.based base) _
    · rename_i side found
      exact (flowLine rules fits side on (side_plain found)).bind
        fun _ _ _ closed => .pure _ (closed.loose nests)
  · exact at?_found dedent
  · exact at?_found dedent
  · refine ⟨.refused (cursor.unexpected "DEBIT or CREDIT entry"), cursor, ?_⟩
    refine (at?_missing (by rw [ended]; decide)).trans ?_
    rw [kindHere_run, ended]
    rfl

theorem cashflowLiteral (near : Near mode base groups first second) (word : first.kind = .cashflowKeyword) :
    Keeps mode base groups first second (cashflowLiteral inner) (Grammar.cashflowLiteral other) := by
  refine (advance near word (by decide) (by decide)).bind fun _ _ _ after => ?_
  have on : On mode groups _ _ := after.2
  refine indented fits (on.based base) _ fun _ _ _ nests on outside => ?_
  refine overLines (nextFlow rules fits) (fun flows => nextLine_stuck flows _) [] ⟨nests, .inl on⟩
    (fun _ _ _ poised => ?_) fun _ _ ended => .bind (.expect (by rw [ended]; decide))
  refine (dedent poised _).bind fun _ _ _ closed => ?_
  refine (expectEnd fits (closed.2.loose nests) _).bind fun _ one two on => ?_
  exact .spanFrom on.same_previous _ (.pure _ (outside one two on))

omit fits in
theorem indentedExpression {α : Type} {post : α → Cursor → Cursor → Prop} (poised : Poised mode first second)
    {next nextOther : Expr → Reading α}
    (rest : ∀ value one two, On mode Groups.none one two →
      Parallel mode base post one two (next value) (nextOther value)) :
    Parallel mode base post first second (inner.expression >>= next) (other.expression >>= nextOther) := by
  obtain ⟨nests, on | gapped⟩ := poised
  · exact (rules.expression base _ first second (on.based base)).bind rest
  · refine .lost (gapped.strict_of_nests nests) (.bind (rules.fails first ?_))
    exact gapped.cases.1.imp And.left id

theorem portfolioLiteral (near : Near mode base groups first second) (word : first.kind = .portfolioKeyword) :
    Keeps mode base groups first second (portfolioLiteral inner) (Grammar.portfolioLiteral other) := by
  refine (advance near word (by decide) (by decide)).bind fun _ _ _ after => ?_
  have on : On mode groups _ _ := after.2
  refine indented fits (on.based base) _ fun _ _ _ nests on outside => ?_
  refine (skipLoose fits ⟨nests, .inl on⟩).bind fun _ _ _ poised => ?_
  refine indentedExpression rules poised fun _ _ _ on => ?_
  refine (skipLoose fits ⟨nests, .inl on⟩).bind fun _ _ _ poised => ?_
  refine indentedExpression rules poised fun _ _ _ on => ?_
  refine (skipLoose fits ⟨nests, .inl on⟩).bind fun _ _ _ poised => ?_
  refine (dedent poised _).bind fun _ _ _ closed => ?_
  refine (expectEnd fits (closed.2.loose nests) _).bind fun _ one two on => ?_
  exact .spanFrom on.same_previous _ (.pure _ (outside one two on))

omit rules fits in
theorem literal_plain {token : Token} {literal : Literal} (found : literalOf? token = some literal) :
    TokenKind.isPlain token.kind = true := by
  unfold literalOf? at found
  split at found <;> cases found
  all_goals
    rw [‹token.kind = _›]
    rfl

omit rules fits in
theorem unary_plain {kind : TokenKind} {op : UnaryOperator} (found : UnaryOperator.ofKind? kind = some op) :
    TokenKind.isPlain kind = true := by
  unfold UnaryOperator.ofKind? at found
  split at found <;> first | rfl | cases found

omit rules fits in
theorem binary_plain {kind : TokenKind} {op : BinaryOperator} (found : BinaryOperator.ofKind? kind = some op) :
    TokenKind.isPlain kind = true := by
  unfold BinaryOperator.ofKind? at found
  split at found <;> first | rfl | cases found

theorem primary (near : Near mode base groups first second) :
    Keeps mode base groups first second (primary inner) (Grammar.primary other) := by
  refine .get ?_
  dsimp only
  rw [← near.same_current, ← near.sees .tableKeyword .leftParen (by decide) (by decide),
    ← near.sees .timeseriesKeyword .leftParen (by decide) (by decide),
    ← near.sees .identifier .arrow (by decide) (by decide), ← near.qualifies]
  refine .both (fun table => ?_) fun _ => .both (fun cashflow => ?_) fun _ =>
    .both (fun portfolio => ?_) fun _ => ?_
  · exact tableLiteral rules near (beq_iff_eq.mp (Bool.and_eq_true_iff.mp table).1)
  · exact cashflowLiteral rules fits near (beq_iff_eq.mp cashflow)
  · exact portfolioLiteral rules fits near (beq_iff_eq.mp portfolio)
  split
  · rename_i literal found
    exact (step near (literal_plain found)).bind fun _ _ _ after => .pure _ after.2
  refine .both (fun series => ?_) fun _ => .both (fun qualified => ?_) fun _ =>
    .both (fun lambda => ?_) fun _ => .both (fun named => ?_) fun _ => .both (fun paren => ?_) fun _ =>
    .both (fun bracket => ?_) fun _ => .both (fun brace => ?_) fun _ => .unexpected near _
  · exact timeseries rules near (beq_iff_eq.mp (Bool.and_eq_true_iff.mp series).1)
  · simp only [Bool.and_eq_true, beq_iff_eq] at qualified
    exact qualifiedName near qualified.1.1 qualified.1.2 qualified.2
  · simp only [Bool.and_eq_true, beq_iff_eq] at lambda
    exact plainLambda rules near lambda.1 lambda.2
  · exact (step near (name_plain named)).bind fun _ _ _ after => .pure _ after.2
  · exact parenthesized rules near (beq_iff_eq.mp paren)
  · exact listLiteral rules fits near (beq_iff_eq.mp bracket)
  · exact objectLiteral rules fits near (beq_iff_eq.mp brace)

theorem postfixes (near : Near mode base groups first second) :
    Keeps mode base groups first second (postfixes inner) (Grammar.postfixes other) :=
  (primary rules fits near).bind fun target _ _ on => loop (nextPostfix rules) target on

theorem unary (near : Near mode base groups first second) :
    Keeps mode base groups first second (unary inner) (Grammar.unary other) := by
  refine .get ?_
  rw [← near.same_current]
  dsimp only
  split
  · rename_i op found
    refine (step near (unary_plain found)).bind fun _ one two after => ?_
    exact (rules.unary base groups one two (.based after.2 base)).bind fun _ _ _ on => .pure _ on
  · exact postfixes rules fits near

omit fits in
theorem nextOperand (least : Nat) (left : Expr) (first second : Cursor) (on : On mode groups first second) :
    Keeps mode base groups first second (nextOperand inner least left)
      (Grammar.nextOperand other least left) := by
  refine .kindHere on.same_kind ?_
  split
  · exact .pure _ on
  · rename_i op found
    refine .both (fun _ => .pure _ on) fun _ => ?_
    refine (step (on.based base) (binary_plain found)).bind fun _ one two after => ?_
    exact (rules.binary _ base groups one two (.based after.2 base)).bind fun _ _ _ on => .pure _ on

theorem binary (least : Nat) (near : Near mode base groups first second) :
    Keeps mode base groups first second (binary inner least) (Grammar.binary other least) :=
  (unary rules fits near).bind fun left _ _ on => loop (nextOperand rules least) left on

theorem expression (near : Near mode base groups first second) :
    Keeps mode base groups first second (expression inner) (Grammar.expression other) := by
  refine (binary rules fits 1 near).bind fun target one two on => .get ?_
  rw [← on.same_current]
  refine (accept on .equal rfl).bind fun _ one two on => .both (fun _ => ?_) fun _ => .pure _ on
  refine (rules.expression base groups one two (on.based base)).bind fun _ _ _ on => ?_
  split
  · exact .pure _ on
  · exact .failAt (on.based base) _ _ _

end Rules

end Parallel

theorem expression_fails (inner : Rules) (cursor : Cursor)
    (ended : cursor.kind = .dedent ∨ cursor.kind = .endOfFile) : Fails (expression inner) cursor := by
  have refused : Fails (primary inner) cursor := by
    refine ⟨.refused (cursor.unexpected "expression"), cursor, ?_⟩
    obtain ⟨previous, ⟨kind, payload, lexeme, span⟩, ahead, lines, reports⟩ := cursor
    rcases ended with rfl | rfl <;> rfl
  have single : Fails (unary inner) cursor := by
    obtain ⟨halt, after, failed⟩ : Fails (postfixes inner) cursor := refused.bind
    refine ⟨halt, after, ?_⟩
    rw [← failed]
    obtain ⟨previous, ⟨kind, payload, lexeme, span⟩, ahead, lines, reports⟩ := cursor
    rcases ended with rfl | rfl <;> rfl
  have operands : Fails (binary inner 1) cursor := single.bind
  exact operands.bind

theorem Rules.Abreast.deepen {mode : Mode} {rules other : Rules} (abreast : rules.Abreast mode other)
    (fits : mode.Fits) (statement statementOther : Reading Stmt) :
    Rules.Abreast mode { rules.deepen with statement := statement }
      { other.deepen with statement := statementOther } where
  expression _ _ _ _ near := Parallel.expression abreast fits near
  binary least _ _ _ _ near := Parallel.binary abreast fits least near
  unary _ _ _ _ near := Parallel.unary abreast fits near
  fails cursor ended := expression_fails rules cursor ended

end Fiscal.Grammar
