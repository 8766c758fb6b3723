import Fiscal.Proofs.Grammar.Statement

set_option autoImplicit false

namespace Fiscal.Grammar

open Source

def reached {α : Type} : EStateM.Result Halt Cursor α → Cursor
  | .ok _ cursor => cursor
  | .error _ cursor => cursor

-- What holds of a step forward and of a chain of them.
class Walk (R : Cursor → Cursor → Prop) : Prop where
  refl (cursor : Cursor) : R cursor cursor
  trans {first middle last : Cursor} (before : R first middle) (after : R middle last) : R first last
  advance (cursor : Cursor) : R cursor cursor.advance
  skip (goOn : Token → Token → Bool) (cursor : Cursor) : R cursor (cursor.skip goOn)

def Goes {α : Type} (R : Cursor → Cursor → Prop) (reading : Reading α) : Prop :=
  ∀ cursor, R cursor (reached (reading cursor))

def blockBody (inner : Rules) (first : Token) : Reading Block := do
  let statements ← repeating [] (nextInBlock inner)
  let _ ← expect .dedent "end of block"
  return ⟨← spanFrom first.span.start, statements.reverse⟩

structure Rules.Goes (R : Cursor → Cursor → Prop) (rules : Rules) : Prop where
  expression : Grammar.Goes R rules.expression
  binary (least : Nat) : Grammar.Goes R (rules.binary least)
  unary : Grammar.Goes R rules.unary

namespace Goes

variable {R : Cursor → Cursor → Prop} [Walk R]

section Law

variable {α β : Type} {reading : Reading α}

theorem bind {next : α → Reading β} (first : Goes R reading) (rest : ∀ value, Goes R (next value)) :
    Goes R (reading >>= next) := by
  intro cursor
  have before := first cursor
  change R cursor (reached (EStateM.bind reading next cursor))
  unfold EStateM.bind
  cases ran : reading cursor with
  | ok value middle =>
      rw [ran] at before
      exact Walk.trans before (rest value middle)
  | error halt middle =>
      rw [ran] at before
      exact before

theorem stays (same : ∀ cursor, reached (reading cursor) = cursor) : Goes R reading := by
  intro cursor
  rw [same]
  exact Walk.refl cursor

theorem pure (value : α) : Goes R (Pure.pure value) := stays fun _ => rfl

theorem get : Goes R (get : Reading Cursor) := stays fun _ => rfl

theorem kindHere : Goes R kindHere := stays fun _ => rfl

theorem at? (kind : TokenKind) : Goes R (at? kind) := stays fun _ => rfl

theorem atAny (kinds : List TokenKind) : Goes R (atAny kinds) := stays fun _ => rfl

theorem spanFrom (first : Location) : Goes R (spanFrom first) := stays fun _ => rfl

theorem unexpected (expected : String) : Goes R (unexpected expected : Reading α) := stays fun _ => rfl

theorem failAt (issue : Issue) (span : Span) (token : Token) : Goes R (failAt issue span token : Reading α) :=
  stays fun _ => rfl

theorem advance : Goes R advance := fun cursor => Walk.advance cursor

theorem skipNewlines : Goes R skipNewlines := fun cursor => Walk.skip _ cursor

omit [Walk R] in
theorem both {test : Prop} [Decidable test] {yes no : Reading α} (holds : Goes R yes) (fails : Goes R no) :
    Goes R (if test then yes else no) := by
  split
  · exact holds
  · exact fails

theorem giving {value : α → β} (first : Goes R reading) : Goes R (reading >>= fun found => Pure.pure (value found)) :=
  first.bind fun _ => pure _

theorem spanned {first : Location} {value : Span → β} :
    Goes R (Grammar.spanFrom first >>= fun span => (Pure.pure (value span) : Reading β)) :=
  (spanFrom first).giving

theorem accept (kind : TokenKind) : Goes R (accept kind) :=
  (at? kind).bind fun _ => both advance.giving (pure _)

theorem acceptAny (kinds : List TokenKind) : Goes R (acceptAny kinds) :=
  (atAny kinds).bind fun _ => both advance.giving (pure _)

theorem expect (kind : TokenKind) (expected : String) : Goes R (expect kind expected) :=
  (at? kind).bind fun _ => both advance (unexpected _)

theorem expectName (expected : String) : Goes R (expectName expected) :=
  kindHere.bind fun _ => both advance.giving (unexpected _)

theorem expectLineEnd : Goes R expectLineEnd :=
  (atAny _).bind fun _ => both (pure _) ((accept _).bind fun _ => both (pure _) (unexpected _))

theorem repeatStep {σ : Type} {round : σ → Reading (σ × Bool)} (rounds : ∀ state, Goes R (round state)) (count : Nat)
    (state : σ) : Goes R (repeatStep round count state) := by
  induction count generalizing state with
  | zero => exact stays fun _ => rfl
  | succ count ih => exact (rounds state).bind fun next => both (ih next.1) (pure _)

theorem repeating {σ : Type} {round : σ → Reading (σ × Bool)} (rounds : ∀ state, Goes R (round state)) (state : σ) :
    Goes R (repeating state round) :=
  get.bind fun _ => repeatStep rounds _ state

theorem nextLine {σ : Type} {state : σ} {line : Reading (σ × Bool)} (goes : Goes R line) :
    Goes R (nextLine state line) :=
  (atAny _).bind fun _ => both (pure _) (skipNewlines.bind fun _ => goes)

theorem optionalAfter (kind : TokenKind) (goes : Goes R reading) : Goes R (optionalAfter kind reading) :=
  (accept kind).bind fun _ => both goes.giving (pure _)

theorem unlessAny (kinds : List TokenKind) (goes : Goes R reading) : Goes R (unlessAny kinds reading) :=
  (atAny kinds).bind fun _ => both (pure _) goes.giving

theorem joined (goes : Goes R reading) : Goes R (joined reading) :=
  goes.bind fun _ => (repeating (fun _ => (accept _).bind fun _ => both goes.giving (pure _)) _).giving

end Law

theorem parameters : Goes R parameters := (at? _).bind fun _ => both (pure _) (joined (expectName _))

theorem keyName (expected : String) : Goes R (keyName expected) := by
  refine get.bind fun cursor => ?_
  dsimp only
  split
  · exact advance.giving
  · exact advance.giving
  · exact (expectName expected).giving

theorem expectEnd (construct : String) : Goes R (expectEnd construct) :=
  skipNewlines.bind fun _ => (expect _ _).giving

section Expressions

variable {inner : Rules} (rules : inner.Goes R)

include rules

theorem arguments : Goes R (arguments inner) := by
  have argument (args : List Expr) : Goes R (nextArgument inner args) :=
    (accept _).bind fun _ => both ((at? _).bind fun _ => both (pure _)
      (both (get.bind fun _ => failAt _ _ _) rules.expression.giving)) (pure _)
  have list : Goes R (argumentList inner) :=
    (at? _).bind fun _ => both (pure _) (rules.expression.bind fun first => repeating argument [first])
  exact (expect _ _).bind fun _ => list.bind fun _ => (expect _ _).giving

theorem tableLiteral : Goes R (tableLiteral inner) := by
  have column (columns : Named Expr) : Goes R (nextColumn inner columns) :=
    (keyName _).bind fun key => both (failAt _ _ _) ((expect _ _).bind fun _ => rules.expression.bind fun _ =>
      (accept _).bind fun _ => both (at? _).giving (pure _))
  have list : Goes R (columnList inner) := (at? _).bind fun _ => both (pure _) (repeating column [])
  exact advance.bind fun _ => (expect _ _).bind fun _ => list.bind fun _ => (expect _ _).bind fun _ => spanned

theorem cashflowLiteral : Goes R (cashflowLiteral inner) := by
  have line (side : Side) : Goes R (flowLine inner side) :=
    advance.bind fun _ => rules.expression.bind fun _ => (spanFrom _).bind fun _ => expectLineEnd.giving
  have flow (flows : List (Flow Expr)) : Goes R (nextFlow inner flows) := by
    refine nextLine ((at? _).bind fun _ => both (pure _) (kindHere.bind fun kind => ?_))
    split
    · exact unexpected _
    · exact (line _).giving
  exact advance.bind fun _ => skipNewlines.bind fun _ => (expect _ _).bind fun _ => (repeating flow []).bind fun _ =>
    (expect _ _).bind fun _ => (expectEnd _).bind fun _ => spanned

theorem portfolioLiteral : Goes R (portfolioLiteral inner) :=
  advance.bind fun _ => skipNewlines.bind fun _ => (expect _ _).bind fun _ => skipNewlines.bind fun _ =>
    rules.expression.bind fun _ => skipNewlines.bind fun _ => rules.expression.bind fun _ => skipNewlines.bind fun _ =>
    (expect _ _).bind fun _ => (expectEnd _).bind fun _ => spanned

theorem timeseries : Goes R (timeseries inner) := by
  refine advance.bind fun _ => get.bind fun _ => (arguments rules).bind fun args => ?_
  split
  · exact spanned
  · exact failAt _ _ _

theorem plainLambda : Goes R (plainLambda inner) :=
  advance.bind fun _ => advance.bind fun _ => rules.expression.bind fun _ => spanned

theorem parenthesized : Goes R (parenthesized inner) :=
  get.bind fun _ => advance.bind fun _ => both
    (parameters.bind fun _ => (expect _ _).bind fun _ => (expect _ _).bind fun _ =>
      rules.expression.bind fun _ => spanned)
    (rules.expression.bind fun _ => (expect _ _).giving)

theorem listLiteral : Goes R (listLiteral inner) := by
  have item (items : List Expr) : Goes R (nextItem inner items) :=
    (accept _).bind fun _ => both (skipNewlines.bind fun _ => (at? _).bind fun _ => both (pure _)
      (rules.expression.bind fun _ => skipNewlines.giving)) (pure _)
  have list : Goes R (itemList inner) :=
    (at? _).bind fun _ => both (pure _) (rules.expression.bind fun first => skipNewlines.bind fun _ =>
      repeating item [first])
  exact advance.bind fun _ => skipNewlines.bind fun _ => list.bind fun _ => (expect _ _).bind fun _ => spanned

theorem objectLiteral : Goes R (objectLiteral inner) := by
  have field (fields : Named Expr) : Goes R (nextField inner fields) :=
    skipNewlines.bind fun _ => (keyName _).bind fun _ => (expect _ _).bind fun _ => rules.expression.bind fun _ =>
      skipNewlines.bind fun _ => (accept _).bind fun _ => both (skipNewlines.bind fun _ => (at? _).giving) (pure _)
  have list : Goes R (fieldList inner) := (at? _).bind fun _ => both (pure _) (repeating field [])
  exact advance.bind fun _ => skipNewlines.bind fun _ => list.bind fun _ => (expect _ _).bind fun _ => spanned

omit rules in
theorem qualifiedName : Goes R qualifiedName := by
  refine advance.bind fun qualifier => ?_
  split
  · exact failAt _ _ _
  · exact advance.bind fun _ => advance.bind fun _ => (expectName _).bind fun _ => spanned

theorem primary : Goes R (primary inner) := by
  refine get.bind fun cursor => both (tableLiteral rules) (both (cashflowLiteral rules)
    (both (portfolioLiteral rules) ?_))
  split
  · exact advance.giving
  · exact both (timeseries rules) (both qualifiedName (both (plainLambda rules) (both advance.giving
      (both (parenthesized rules) (both (listLiteral rules) (both (objectLiteral rules) (unexpected _)))))))

theorem call (callee : Expr) : Goes R (call inner callee) := by
  refine get.bind fun _ => (arguments rules).bind fun _ => (spanFrom _).bind fun _ => ?_
  split
  · exact pure _
  · exact both (failAt _ _ _) (pure _)

omit rules in
theorem member (target : Expr) : Goes R (member target) :=
  advance.bind fun _ => get.bind fun _ => both (advance.bind fun _ => spanned) (unexpected _)

theorem subscript (target : Expr) : Goes R (subscript inner target) := by
  have stop (start : Option Expr) : Goes R (sliceStop inner target start) :=
    (unlessAny _ rules.expression).bind fun _ => (expect _ _).bind fun _ => spanned
  exact advance.bind fun _ => (accept _).bind fun _ => both (stop _) (rules.expression.bind fun _ =>
    (accept _).bind fun _ => both (stop _) ((expect _ _).bind fun _ => spanned))

theorem postfixes : Goes R (postfixes inner) := by
  refine (primary rules).bind fun first => repeating (fun target => kindHere.bind fun kind => ?_) first
  split
  · exact (call rules target).giving
  · exact (member target).giving
  · exact (subscript rules target).giving
  · exact pure _

theorem unary : Goes R (unary inner) := by
  refine get.bind fun cursor => ?_
  dsimp only
  split
  · exact advance.bind fun _ => rules.unary.giving
  · exact postfixes rules

theorem binary (least : Nat) : Goes R (binary inner least) := by
  refine (unary rules).bind fun first => repeating (fun left => kindHere.bind fun kind => ?_) first
  split
  · exact pure _
  · exact both (pure _) (advance.bind fun _ => (rules.binary _).giving)

theorem expression : Goes R (expression inner) := by
  refine (binary rules 1).bind fun target => get.bind fun _ => (accept _).bind fun _ => both ?_ (pure _)
  refine rules.expression.bind fun _ => ?_
  split
  · exact pure _
  · exact failAt _ _ _

end Expressions

section Statements

variable {inner : Rules}

theorem nextInBlock (statement : Goes R inner.statement) (statements : List Stmt) :
    Goes R (nextInBlock inner statements) :=
  nextLine ((atAny _).bind fun _ => both (pure _) statement.giving)

theorem blockBody (statement : Goes R inner.statement) (first : Token) : Goes R (blockBody inner first) :=
  (repeating (nextInBlock statement) []).bind fun _ => (expect _ _).bind fun _ => spanned

theorem block (statement : Goes R inner.statement) : Goes R (block inner) :=
  skipNewlines.bind fun _ => (expect _ _).bind fun first => blockBody statement first

theorem closeConstruct (construct : String) : Goes R (closeConstruct construct) :=
  (expectEnd _).bind fun _ => expectLineEnd

theorem terminated (statement : Stmt) : Goes R (terminated statement) := expectLineEnd.giving

theorem importStatement : Goes R importStatement :=
  advance.bind fun _ => (expect _ _).bind fun _ => (optionalAfter _ (expectName _)).bind fun _ =>
    expectLineEnd.bind fun _ => spanned

theorem runStatement : Goes R runStatement :=
  advance.bind fun _ => (expectName _).bind fun _ => (expect _ _).bind fun _ => (expectName _).bind fun _ =>
    expectLineEnd.bind fun _ => spanned

theorem description : Goes R description := by
  refine get.bind fun cursor => ?_
  dsimp only
  split
  · exact advance.giving
  · exact advance.giving
  · exact pure _

variable (operand : Goes R (Grammar.expression inner))

include operand

theorem binding : Goes R (binding inner) :=
  (expectName _).bind fun _ => (expect _ _).bind fun _ => operand.bind fun _ => expectLineEnd.giving

theorem printStatement : Goes R (printStatement inner) :=
  advance.bind fun _ => (joined operand).bind fun _ => expectLineEnd.bind fun _ => spanned

theorem returnStatement : Goes R (returnStatement inner) :=
  advance.bind fun _ => (unlessAny _ operand).bind fun _ => expectLineEnd.bind fun _ => spanned

theorem simulateStatement : Goes R (simulateStatement inner) :=
  advance.bind fun _ => (expectName _).bind fun _ => (accept _).bind fun _ => (unlessAny _ operand).bind fun _ =>
    (optionalAfter _ operand).bind fun _ => expectLineEnd.bind fun _ => spanned

theorem posting (side : Side) : Goes R (posting inner side) :=
  advance.bind fun _ => (expectName _).bind fun _ => operand.bind fun _ => description.bind fun _ => spanned

theorem portfolioStatement : Goes R (portfolioStatement inner) := by
  have holding (holdings : List Posting) : Goes R (nextHolding inner holdings) := by
    refine nextLine ((at? _).bind fun _ => both (pure _) (kindHere.bind fun kind => ?_))
    split
    · exact unexpected _
    · exact (posting operand _).bind fun _ => expectLineEnd.giving
  exact advance.bind fun _ => (expectName _).bind fun _ => (accept _).bind fun _ => skipNewlines.bind fun _ =>
    (expect _ _).bind fun _ => (repeating holding []).bind fun _ => (expect _ _).bind fun _ =>
    (closeConstruct _).bind fun _ => spanned

variable (body : Goes R (Grammar.block inner))

include body

theorem conditional : Goes R (conditional inner) :=
  operand.bind fun _ => (accept _).bind fun _ => body.giving

theorem ifStatement : Goes R (ifStatement inner) := by
  have elseIf : Goes R acceptElseIf :=
    get.bind fun _ => both advance.giving (both (advance.bind fun _ => advance.giving) (pure _))
  have branch (branches : List (Branch Stmt)) : Goes R (nextBranch inner branches) :=
    skipNewlines.bind fun _ => get.bind fun _ => elseIf.bind fun _ =>
      both ((conditional operand body).bind fun _ => spanned) (pure _)
  exact advance.bind fun _ => (conditional operand body).bind fun _ => (repeating branch []).bind fun _ =>
    (optionalAfter _ body).bind fun _ => (closeConstruct _).bind fun _ => spanned

theorem whileStatement : Goes R (whileStatement inner) :=
  advance.bind fun _ => operand.bind fun _ => (acceptAny _).bind fun _ => body.bind fun _ =>
    (closeConstruct _).bind fun _ => spanned

theorem forStatement : Goes R (forStatement inner) := by
  have range (first : Token) (name : String) (start : Expr) : Goes R (rangeLoop inner first name start) :=
    operand.bind fun _ => (optionalAfter _ operand).bind fun _ => (accept _).bind fun _ =>
      body.bind fun _ => (closeConstruct _).bind fun _ => spanned
  have items (first : Token) (name : String) (start : Expr) : Goes R (itemLoop inner first name start) :=
    (accept _).bind fun _ => body.bind fun _ => (closeConstruct _).bind fun _ => spanned
  exact advance.bind fun _ => (expectName _).bind fun _ => (expect _ _).bind fun _ => operand.bind fun _ =>
    (accept _).bind fun _ => both (range _ _ _) (items _ _ _)

omit operand in
theorem functionStatement : Goes R (functionStatement inner) :=
  advance.bind fun _ => (expectName _).bind fun _ => (expect _ _).bind fun _ => parameters.bind fun _ =>
    (expect _ _).bind fun _ => body.bind fun _ => (closeConstruct _).bind fun _ => spanned

omit operand in
theorem scenarioStatement : Goes R (scenarioStatement inner) :=
  advance.bind fun _ => (expectName _).bind fun _ => (accept _).bind fun _ => body.bind fun _ =>
    (closeConstruct _).bind fun _ => spanned

theorem statementForm : Goes R (statementForm inner) := by
  refine skipNewlines.bind fun _ => get.bind fun cursor => ?_
  split
  · exact body.giving
  · exact scenarioStatement body
  · exact runStatement
  · exact simulateStatement operand
  · exact (posting operand .debit).bind fun _ => terminated _
  · exact (posting operand .credit).bind fun _ => terminated _
  · exact advance.bind fun _ => (binding operand).bind fun _ => spanned
  · exact advance.bind fun _ => (binding operand).bind fun _ => spanned
  · exact printStatement operand
  · exact printStatement operand
  · exact ifStatement operand body
  · exact whileStatement operand body
  · exact forStatement operand body
  · exact returnStatement operand
  · exact functionStatement body
  · exact importStatement
  · exact both (portfolioStatement operand) (operand.bind fun _ => terminated _)

end Statements

end Goes

instance : Walk Passes where
  refl := .refl
  trans := .trans
  advance := .advance
  skip := .skip

theorem Rules.ofDepth_goes (R : Cursor → Cursor → Prop) [Walk R] (depth : Nat) : (ofDepth depth).Goes R := by
  induction depth with
  | zero => exact ⟨.stays fun _ => rfl, fun _ => .stays fun _ => rfl, .stays fun _ => rfl⟩
  | succ depth ih => exact ⟨.expression ih, .binary ih, .unary ih⟩

theorem reached_statement (inner : Rules) (cursor : Cursor) :
    reached (statement inner cursor) = reached (statementForm inner cursor) ∨
      ∃ diagnostic,
        reached (statement inner cursor) = cursor.recovered (reached (statementForm inner cursor)) diagnostic := by
  rw [statement_eq]
  cases statementForm inner cursor with
  | ok => exact .inl rfl
  | error halt =>
      cases halt with
      | unfinished => exact .inl rfl
      | refused diagnostic => exact .inr ⟨diagnostic, rfl⟩

theorem Rules.statement_passes (depth : Nat) : Grammar.Goes Passes (ofDepth depth).statement := by
  induction depth with
  | zero => exact .stays fun _ => rfl
  | succ depth ih =>
      intro cursor
      have form := Goes.statementForm (.expression (ofDepth_goes Passes depth)) (.block ih) cursor
      change Passes cursor (reached (Grammar.statement (ofDepth depth) cursor))
      rcases reached_statement (ofDepth depth) cursor with same | ⟨diagnostic, resumed⟩
      · rw [same]
        exact form
      · rw [resumed]
        exact form.recovered diagnostic

end Fiscal.Grammar
