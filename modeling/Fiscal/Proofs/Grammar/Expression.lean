import Fiscal.Proofs.Grammar.Course

set_option autoImplicit false

namespace Fiscal.Grammar

structure Rules.Expressive (bound : Nat) (rules twin : Rules) : Prop where
  expression (cursor : Cursor) : Reads bound Always Any cursor rules.expression twin.expression
  binary (least : Nat) (cursor : Cursor) :
    Reads bound Always Any cursor (rules.binary least) (twin.binary least)
  unary (cursor : Cursor) : Reads bound Always Any cursor rules.unary twin.unary

namespace Reads

variable {bound : Nat} {cursor : Cursor}

theorem parameters : Reads bound Never Any cursor parameters Grammar.parameters := by
  refine .at? _ (.both (fun _ => .give _) fun _ => ?_)
  exact (joined fun _ => expectName _).idle

theorem keyName (expected : String) :
    Reads bound Always Any cursor (keyName expected) (Grammar.keyName expected) := by
  refine .get ?_
  dsimp only
  split
  · rename_i kind _
    exact (advance (by rw [Cursor.kind, kind]; decide)).taking fun _ _ => .give _
  · rename_i kind _
    exact (advance (by rw [Cursor.kind, kind]; decide)).taking fun _ _ => .give _
  · exact (expectName expected).taking fun _ _ => .give _

theorem expectEnd (construct : String) :
    Reads bound Never Any cursor (expectEnd construct) (Grammar.expectEnd construct) := by
  refine skipNewlines.bind fun _ _ => ?_
  exact (expect .endKeyword _ (by decide)).bind fun _ _ => .give _

theorem qualifiedName (going : cursor.kind ≠ .endOfFile) :
    Reads bound Always Any cursor qualifiedName Grammar.qualifiedName := by
  refine (advance going).taking fun qualifier _ => ?_
  split
  · exact .failAt _ _ _
  · refine step.bind fun _ _ => ?_
    refine step.bind fun _ _ => ?_
    refine (expectName _).bind fun _ _ => ?_
    exact (spanFrom _).bind fun _ _ => .give _

theorem member (target : Expr) (going : cursor.kind ≠ .endOfFile) :
    Reads bound Always Any cursor (member target) (Grammar.member target) := by
  refine (advance going).taking fun _ after => .get (.both (fun _ => ?_) fun _ => .unexpected _)
  refine step.bind fun _ _ => ?_
  exact (spanFrom _).bind fun _ _ => .give _

section Rules

variable {inner twin : Rules} (rules : inner.Expressive bound twin)

include rules

theorem nextArgument (args : List Expr) (cursor : Cursor) :
    Reads bound More Any cursor (nextArgument inner args) (Grammar.nextArgument twin args) := by
  refine (accept .comma (by decide)).bind fun _ after => .both (fun _ => ?_) fun _ => .pure _ nofun trivial
  refine .at? _ (.both (fun _ => .pure _ nofun trivial) fun _ => ?_)
  refine .both (fun _ => .get (.failAt _ _ _)) fun _ => ?_
  exact (rules.expression after).taking fun _ _ => .give _

theorem argumentList : Reads bound Never Any cursor (argumentList inner) (Grammar.argumentList twin) := by
  refine .at? _ (.both (fun _ => .give _) fun _ => ?_)
  exact (rules.expression cursor).taking fun first _ => loop (nextArgument rules) [first]

theorem arguments : Reads (bound + 1) Always Any cursor (arguments inner) (Grammar.arguments twin) := by
  refine (expect .leftParen _ (by decide)).entering fun _ _ => ?_
  refine (argumentList rules).bind fun _ _ => ?_
  exact (expect .rightParen _ (by decide)).bind fun _ _ => .give _

theorem nextColumn (columns : Named Expr) (cursor : Cursor) :
    Reads bound More Any cursor (nextColumn inner columns) (Grammar.nextColumn twin columns) := by
  refine (keyName _).taking fun key _ => .both (fun _ => .failAt _ _ _) fun _ => ?_
  refine (expect .colon _ (by decide)).bind fun _ after => ?_
  refine (rules.expression after).bind fun _ _ => ?_
  refine (accept .comma (by decide)).bind fun _ _ => .both (fun _ => ?_) fun _ => .give _
  exact .at? _ (.give _)

theorem columnList : Reads bound Never Any cursor (columnList inner) (Grammar.columnList twin) :=
  .at? _ (.both (fun _ => .give _) fun _ => loop (nextColumn rules) [])

theorem tableLiteral (going : cursor.kind ≠ .endOfFile) :
    Reads (bound + 1) Always Any cursor (tableLiteral inner) (Grammar.tableLiteral twin) := by
  refine (advance going).entering fun _ _ => ?_
  refine (expect .leftParen _ (by decide)).bind fun _ _ => ?_
  refine (columnList rules).bind fun _ _ => ?_
  refine (expect .rightParen _ (by decide)).bind fun _ _ => ?_
  exact (spanFrom _).bind fun _ _ => .give _

theorem flowLine (side : Side) (going : cursor.kind ≠ .endOfFile) :
    Reads bound Always Any cursor (flowLine inner side) (Grammar.flowLine twin side) := by
  refine (advance going).taking fun _ after => ?_
  refine (rules.expression after).bind fun _ _ => ?_
  refine (spanFrom _).bind fun _ _ => ?_
  exact expectLineEnd.bind fun _ _ => .give _

omit rules in
theorem side_going {kind : TokenKind} {side : Side} (found : Side.ofKind? kind = some side) :
    kind ≠ .endOfFile := by
  rintro rfl
  cases found

theorem nextFlow (flows : List (Flow Expr)) (cursor : Cursor) :
    Reads bound More Any cursor (nextFlow inner flows) (Grammar.nextFlow twin flows) := by
  refine .atAny _ (.both (fun _ => .pure _ nofun trivial) fun _ => ?_)
  refine skipNewlines.bind fun _ after => ?_
  refine .at? _ (.both (fun _ => .pure _ nofun trivial) fun _ => .kindHere ?_)
  split
  · exact .unexpected _
  · rename_i side found
    exact (flowLine rules side (side_going found)).taking fun _ _ => .give _

theorem cashflowLiteral (going : cursor.kind ≠ .endOfFile) :
    Reads (bound + 1) Always Any cursor (cashflowLiteral inner) (Grammar.cashflowLiteral twin) := by
  refine (advance going).entering fun _ _ => ?_
  refine skipNewlines.bind fun _ _ => ?_
  refine (expect .indent _ (by decide)).bind fun _ _ => ?_
  refine (loop (nextFlow rules) []).bind fun _ _ => ?_
  refine (expect .dedent _ (by decide)).bind fun _ _ => ?_
  refine (expectEnd _).bind fun _ _ => ?_
  exact (spanFrom _).bind fun _ _ => .give _

theorem portfolioLiteral (going : cursor.kind ≠ .endOfFile) :
    Reads (bound + 1) Always Any cursor (portfolioLiteral inner) (Grammar.portfolioLiteral twin) := by
  refine (advance going).entering fun _ _ => ?_
  refine skipNewlines.bind fun _ _ => ?_
  refine (expect .indent _ (by decide)).bind fun _ _ => ?_
  refine skipNewlines.bind fun _ after => ?_
  refine (rules.expression after).bind fun _ _ => ?_
  refine skipNewlines.bind fun _ after => ?_
  refine (rules.expression after).bind fun _ _ => ?_
  refine skipNewlines.bind fun _ _ => ?_
  refine (expect .dedent _ (by decide)).bind fun _ _ => ?_
  refine (expectEnd _).bind fun _ _ => ?_
  exact (spanFrom _).bind fun _ _ => .give _

theorem timeseries (going : cursor.kind ≠ .endOfFile) :
    Reads (bound + 1) Always Any cursor (timeseries inner) (Grammar.timeseries twin) := by
  refine (advance going).taking fun _ _ => .get ((arguments rules).bind fun args _ => ?_)
  split
  · exact (spanFrom _).bind fun _ _ => .give _
  · exact .failAt _ _ _

theorem plainLambda (going : cursor.kind ≠ .endOfFile) :
    Reads (bound + 1) Always Any cursor (plainLambda inner) (Grammar.plainLambda twin) := by
  refine (advance going).entering fun _ _ => ?_
  refine step.bind fun _ after => ?_
  refine (rules.expression after).bind fun _ _ => ?_
  exact (spanFrom _).bind fun _ _ => .give _

theorem parenthesized (going : cursor.kind ≠ .endOfFile) :
    Reads (bound + 1) Always Any cursor (parenthesized inner) (Grammar.parenthesized twin) := by
  refine .get ((advance going).entering fun _ after => .both (fun _ => ?_) fun _ => ?_)
  · refine parameters.bind fun _ _ => ?_
    refine (expect .rightParen _ (by decide)).bind fun _ _ => ?_
    refine (expect .arrow _ (by decide)).bind fun _ after => ?_
    refine (rules.expression after).bind fun _ _ => ?_
    exact (spanFrom _).bind fun _ _ => .give _
  · refine (rules.expression after).bind fun _ _ => ?_
    exact (expect .rightParen _ (by decide)).bind fun _ _ => .give _

theorem nextItem (items : List Expr) (cursor : Cursor) :
    Reads bound More Any cursor (nextItem inner items) (Grammar.nextItem twin items) := by
  refine (accept .comma (by decide)).bind fun _ _ => .both (fun _ => ?_) fun _ => .pure _ nofun trivial
  refine skipNewlines.bind fun _ after => ?_
  refine .at? _ (.both (fun _ => .pure _ nofun trivial) fun _ => ?_)
  refine (rules.expression after).taking fun _ _ => ?_
  exact skipNewlines.bind fun _ _ => .give _

theorem itemList : Reads bound Never Any cursor (itemList inner) (Grammar.itemList twin) := by
  refine .at? _ (.both (fun _ => .give _) fun _ => ?_)
  refine (rules.expression cursor).taking fun first _ => ?_
  exact skipNewlines.bind fun _ _ => loop (nextItem rules) [first]

theorem listLiteral (going : cursor.kind ≠ .endOfFile) :
    Reads (bound + 1) Always Any cursor (listLiteral inner) (Grammar.listLiteral twin) := by
  refine (advance going).entering fun _ _ => ?_
  refine skipNewlines.bind fun _ _ => ?_
  refine (itemList rules).bind fun _ _ => ?_
  refine (expect .rightBracket _ (by decide)).bind fun _ _ => ?_
  exact (spanFrom _).bind fun _ _ => .give _

theorem nextField (fields : Named Expr) (cursor : Cursor) :
    Reads bound More Any cursor (nextField inner fields) (Grammar.nextField twin fields) := by
  refine skipNewlines.bind fun _ _ => ?_
  refine (keyName _).taking fun key _ => ?_
  refine (expect .colon _ (by decide)).bind fun _ after => ?_
  refine (rules.expression after).bind fun _ _ => ?_
  refine skipNewlines.bind fun _ _ => ?_
  refine (accept .comma (by decide)).bind fun _ _ => .both (fun _ => ?_) fun _ => .give _
  exact skipNewlines.bind fun _ _ => .at? _ (.give _)

theorem fieldList : Reads bound Never Any cursor (fieldList inner) (Grammar.fieldList twin) :=
  .at? _ (.both (fun _ => .give _) fun _ => loop (nextField rules) [])

theorem objectLiteral (going : cursor.kind ≠ .endOfFile) :
    Reads (bound + 1) Always Any cursor (objectLiteral inner) (Grammar.objectLiteral twin) := by
  refine (advance going).entering fun _ _ => ?_
  refine skipNewlines.bind fun _ _ => ?_
  refine (fieldList rules).bind fun _ _ => ?_
  refine (expect .rightBrace _ (by decide)).bind fun _ _ => ?_
  exact (spanFrom _).bind fun _ _ => .give _

omit rules in
theorem literal_going {token : Token} {literal : Literal} (found : literalOf? token = some literal) :
    token.kind ≠ .endOfFile := by
  intro last
  unfold literalOf? at found
  rw [last] at found
  cases found

theorem primary : Reads (bound + 1) Always Any cursor (primary inner) (Grammar.primary twin) := by
  have going (kind : TokenKind) (other : kind ≠ .endOfFile) (found : (cursor.kind == kind) = true) :
      cursor.kind ≠ .endOfFile := by
    rw [beq_iff_eq.mp found]
    exact other
  refine .get (.both (fun table => ?_) fun _ => .both (fun cashflow => ?_) fun _ =>
    .both (fun portfolio => ?_) fun _ => ?_)
  · exact tableLiteral rules (going .tableKeyword (by decide) (Bool.and_eq_true_iff.mp table).1)
  · exact cashflowLiteral rules (going .cashflowKeyword (by decide) cashflow)
  · exact portfolioLiteral rules (going .portfolioKeyword (by decide) portfolio)
  split
  · rename_i literal found
    exact (advance (literal_going found)).taking fun _ _ => .give _
  refine .both (fun series => ?_) fun _ => .both (fun qualified => ?_) fun _ =>
    .both (fun lambda => ?_) fun _ => .both (fun named => ?_) fun _ => .both (fun paren => ?_) fun _ =>
    .both (fun bracket => ?_) fun _ => .both (fun brace => ?_) fun _ => .unexpected _
  · exact timeseries rules (going .timeseriesKeyword (by decide) (Bool.and_eq_true_iff.mp series).1)
  · simp only [Bool.and_eq_true] at qualified
    exact qualifiedName (going .identifier (by decide) qualified.1.1)
  · exact plainLambda rules (going .identifier (by decide) (Bool.and_eq_true_iff.mp lambda).1)
  · refine (advance fun last => ?_).taking fun _ _ => .give _
    rw [Cursor.kind] at last
    rw [last] at named
    cases named
  · exact parenthesized rules (going .leftParen (by decide) paren)
  · exact listLiteral rules (going .leftBracket (by decide) bracket)
  · exact objectLiteral rules (going .leftBrace (by decide) brace)

theorem call (callee : Expr) :
    Reads (bound + 1) Always Any cursor (call inner callee) (Grammar.call twin callee) := by
  refine .get ((arguments rules).taking fun args _ => ?_)
  refine (spanFrom _).bind fun _ _ => ?_
  split
  · exact .give _
  · exact .both (fun _ => .failAt _ _ _) fun _ => .give _

theorem sliceStop (target : Expr) (start : Option Expr) :
    Reads bound Never Any cursor (sliceStop inner target start) (Grammar.sliceStop twin target start) := by
  refine (unlessAny _ rules.expression).bind fun _ _ => ?_
  refine (expect .rightBracket _ (by decide)).bind fun _ _ => ?_
  exact (spanFrom _).bind fun _ _ => .give _

theorem subscript (target : Expr) (going : cursor.kind ≠ .endOfFile) :
    Reads (bound + 1) Always Any cursor (subscript inner target) (Grammar.subscript twin target) := by
  refine (advance going).entering fun _ _ => ?_
  refine (accept .colon (by decide)).bind fun _ after => .both (fun _ => sliceStop rules _ _) fun _ => ?_
  refine (rules.expression after).bind fun _ _ => ?_
  refine (accept .colon (by decide)).bind fun _ _ => .both (fun _ => sliceStop rules _ _) fun _ => ?_
  refine (expect .rightBracket _ (by decide)).bind fun _ _ => ?_
  exact (spanFrom _).bind fun _ _ => .give _

theorem nextPostfix (target : Expr) (cursor : Cursor) :
    Reads (bound + 1) More Any cursor (nextPostfix inner target) (Grammar.nextPostfix twin target) := by
  refine .kindHere ?_
  split
  · exact (call rules target).taking fun _ _ => .give _
  · rename_i dot
    exact (member target (by rw [dot]; decide)).taking fun _ _ => .give _
  · rename_i bracket
    exact (subscript rules target (by rw [bracket]; decide)).taking fun _ _ => .give _
  · exact .pure _ nofun trivial

theorem postfixes : Reads (bound + 1) Always Any cursor (postfixes inner) (Grammar.postfixes twin) :=
  (primary rules).taking fun first _ => loop (nextPostfix rules) first

theorem unary : Reads (bound + 1) Always Any cursor (unary inner) (Grammar.unary twin) := by
  refine .get ?_
  dsimp only
  split
  · rename_i op found
    have going : cursor.kind ≠ .endOfFile := by
      intro last
      rw [Cursor.kind] at last
      rw [last] at found
      cases found
    refine (advance going).entering fun _ after => ?_
    exact (rules.unary after).bind fun _ _ => .give _
  · exact postfixes rules

theorem nextOperand (least : Nat) (left : Expr) (cursor : Cursor) :
    Reads (bound + 1) More Any cursor (nextOperand inner least left)
      (Grammar.nextOperand twin least left) := by
  refine .kindHere ?_
  split
  · exact .pure _ nofun trivial
  · rename_i op found
    refine .both (fun _ => .pure _ nofun trivial) fun _ => ?_
    refine (advance fun last => ?_).entering fun _ after => ?_
    · rw [last] at found
      cases found
    · exact (rules.binary _ after).bind fun _ _ => .give _

theorem binary (least : Nat) :
    Reads (bound + 1) Always Any cursor (binary inner least) (Grammar.binary twin least) :=
  (unary rules).taking fun first _ => loop (nextOperand rules least) first

theorem expression : Reads (bound + 1) Always Any cursor (expression inner) (Grammar.expression twin) := by
  refine (binary rules 1).entering fun target after => .get ?_
  refine (accept .equal (by decide)).bind fun _ after => .both (fun _ => ?_) fun _ => .give _
  refine (rules.expression after).bind fun _ _ => ?_
  split
  · exact .give _
  · exact .failAt _ _ _

end Rules

end Reads

theorem Rules.Expressive.deepen {bound : Nat} {rules twin : Rules} (read : rules.Expressive bound twin)
    (statement : Reading Stmt) :
    rules.deepen.Expressive (bound + 1) { twin.deepen with statement := statement } where
  expression _ := Reads.expression read
  binary least _ := Reads.binary read least
  unary _ := Reads.unary read

end Fiscal.Grammar
