import Fiscal.Proofs.Grammar.Statement

set_option autoImplicit false

namespace Fiscal.Grammar

section Law

variable {α β : Type}

-- A reading comes to a bound or ends as the other does.
def Refines (reading other : Reading α) : Prop :=
  ∀ cursor, (∃ after, reading cursor = .error .unfinished after) ∨ reading cursor = other cursor

end Law

structure Rules.Refines (rules other : Rules) : Prop where
  expression : Grammar.Refines rules.expression other.expression
  binary (least : Nat) : Grammar.Refines (rules.binary least) (other.binary least)
  unary : Grammar.Refines rules.unary other.unary
  statement : Grammar.Refines rules.statement other.statement

namespace Refines

section Law

variable {α β : Type} {reading other : Reading α} {next nextOther : α → Reading β}

theorem refl (reading : Reading α) : Refines reading reading := fun _ => .inr rfl

theorem unfinished (other : Reading α) : Refines (throw .unfinished) other := fun cursor => .inl ⟨cursor, rfl⟩

theorem chain (first : Refines reading other) (rest : ∀ value, Refines (next value) (nextOther value)) :
    Refines (reading >>= next) (other >>= nextOther) := by
  intro cursor
  change (∃ after, EStateM.bind reading next cursor = _) ∨
    EStateM.bind reading next cursor = EStateM.bind other nextOther cursor
  unfold EStateM.bind
  rcases first cursor with ⟨after, ran⟩ | same
  · rw [ran]
    exact .inl ⟨after, rfl⟩
  · rw [← same]
    cases reading cursor with
    | ok value after => exact rest value after
    | error halt after => exact .inr rfl

theorem past {next nextOther : α → Reading β} (rest : ∀ value, Refines (next value) (nextOther value)) :
    Refines (reading >>= next) (reading >>= nextOther) :=
  chain (refl reading) rest

theorem before (first : Refines reading other) : Refines (reading >>= next) (other >>= next) :=
  first.chain fun value => refl (next value)

theorem both {test : Prop} [Decidable test] {yes no yesOther noOther : Reading α}
    (holds : Refines yes yesOther) (fails : Refines no noOther) :
    Refines (if test then yes else no) (if test then yesOther else noOther) := by
  split
  · exact holds
  · exact fails

theorem repeatStep {σ : Type} {round roundOther : σ → Reading (σ × Bool)}
    (rounds : ∀ state, Refines (round state) (roundOther state)) (count : Nat) (state : σ) :
    Refines (repeatStep round count state) (Grammar.repeatStep roundOther count state) := by
  induction count generalizing state with
  | zero => exact refl _
  | succ count ih => exact (rounds state).chain fun next => both (ih next.1) (refl _)

theorem repeating {σ : Type} {round roundOther : σ → Reading (σ × Bool)}
    (rounds : ∀ state, Refines (round state) (roundOther state)) (state : σ) :
    Refines (repeating state round) (Grammar.repeating state roundOther) :=
  past fun _ => repeatStep rounds _ state

theorem optionalAfter (kind : TokenKind) (refines : Refines reading other) :
    Refines (optionalAfter kind reading) (Grammar.optionalAfter kind other) :=
  past fun _ => both refines.before (refl _)

theorem unlessAny (kinds : List TokenKind) (refines : Refines reading other) :
    Refines (unlessAny kinds reading) (Grammar.unlessAny kinds other) :=
  past fun _ => both (refl _) refines.before

theorem nextLine {σ : Type} {state : σ} {line lineOther : Reading (σ × Bool)} (refines : Refines line lineOther) :
    Refines (nextLine state line) (Grammar.nextLine state lineOther) :=
  past fun _ => both (refl _) (past fun _ => refines)

theorem joined (refines : Refines reading other) : Refines (joined reading) (Grammar.joined other) :=
  refines.chain fun _ => before (repeating (fun _ => past fun _ => both refines.before (refl _)) _)

theorem eq_of_room {bound : Nat} {takes good : α → Prop} {cursor : Cursor} {twin : Reading α}
    (refines : Refines reading other) (reads : Reads bound takes good cursor reading twin)
    (room : Room bound cursor) : reading cursor = other cursor := by
  rcases refines cursor with ⟨after, ran⟩ | same
  · have leads := reads room
    rw [ran] at leads
    exact leads.elim
  · exact same

end Law

variable {inner other : Rules} (rules : inner.Refines other)

include rules

theorem nextArgument (args : List Expr) : Refines (nextArgument inner args) (Grammar.nextArgument other args) :=
  past fun _ => both (past fun _ => both (refl _) (both (refl _) rules.expression.before)) (refl _)

theorem arguments : Refines (arguments inner) (Grammar.arguments other) := by
  have list : Refines (argumentList inner) (argumentList other) :=
    past fun _ => both (refl _) (rules.expression.chain fun first => repeating (nextArgument rules) [first])
  exact past fun _ => list.before

theorem tableLiteral : Refines (tableLiteral inner) (Grammar.tableLiteral other) := by
  have column (columns : Named Expr) : Refines (nextColumn inner columns) (nextColumn other columns) :=
    past fun key => both (refl _) (past fun _ => rules.expression.before)
  have list : Refines (columnList inner) (columnList other) :=
    past fun _ => both (refl _) (repeating column [])
  exact past fun _ => past fun _ => list.before

theorem cashflowLiteral : Refines (cashflowLiteral inner) (Grammar.cashflowLiteral other) := by
  have flow (flows : List (Flow Expr)) : Refines (nextFlow inner flows) (nextFlow other flows) := by
    refine past fun _ => both (refl _) (past fun _ => past fun _ => both (refl _) (past fun kind => ?_))
    split
    · exact refl _
    · exact chain (past fun _ => rules.expression.before) fun _ => refl _
  exact past fun _ => past fun _ => past fun _ => (repeating flow []).before

theorem portfolioLiteral : Refines (portfolioLiteral inner) (Grammar.portfolioLiteral other) := by
  refine past fun _ => past fun _ => past fun _ => past fun _ => rules.expression.chain fun _ => ?_
  exact past fun _ => rules.expression.before

theorem timeseries : Refines (timeseries inner) (Grammar.timeseries other) :=
  past fun _ => past fun _ => (arguments rules).before

theorem plainLambda : Refines (plainLambda inner) (Grammar.plainLambda other) :=
  past fun _ => past fun _ => rules.expression.before

theorem parenthesized : Refines (parenthesized inner) (Grammar.parenthesized other) :=
  past fun _ => past fun _ =>
    both (past fun _ => past fun _ => past fun _ => rules.expression.before) rules.expression.before

theorem listLiteral : Refines (listLiteral inner) (Grammar.listLiteral other) := by
  have item (items : List Expr) : Refines (nextItem inner items) (nextItem other items) :=
    past fun _ => both (past fun _ => past fun _ => both (refl _) rules.expression.before) (refl _)
  have list : Refines (itemList inner) (itemList other) :=
    past fun _ => both (refl _) (rules.expression.chain fun first => past fun _ => repeating item [first])
  exact past fun _ => past fun _ => list.before

theorem objectLiteral : Refines (objectLiteral inner) (Grammar.objectLiteral other) := by
  have field (fields : Named Expr) : Refines (nextField inner fields) (nextField other fields) :=
    past fun _ => past fun _ => past fun _ => rules.expression.before
  have list : Refines (fieldList inner) (fieldList other) :=
    past fun _ => both (refl _) (repeating field [])
  exact past fun _ => past fun _ => list.before

theorem primary : Refines (primary inner) (Grammar.primary other) := by
  refine past fun cursor => both (tableLiteral rules) (both (cashflowLiteral rules)
    (both (portfolioLiteral rules) ?_))
  split
  · exact refl _
  · exact both (timeseries rules) (both (refl _) (both (plainLambda rules) (both (refl _)
      (both (parenthesized rules) (both (listLiteral rules) (both (objectLiteral rules) (refl _)))))))

theorem sliceStop (target : Expr) (start : Option Expr) :
    Refines (sliceStop inner target start) (Grammar.sliceStop other target start) :=
  chain (past fun _ => both (refl _) rules.expression.before) fun _ => refl _

theorem subscript (target : Expr) : Refines (subscript inner target) (Grammar.subscript other target) := by
  refine past fun _ => past fun _ => both (sliceStop rules target none) (rules.expression.chain fun index => ?_)
  exact past fun _ => both (sliceStop rules target (some index)) (refl _)

theorem nextPostfix (target : Expr) : Refines (nextPostfix inner target) (Grammar.nextPostfix other target) := by
  refine past fun kind => ?_
  split
  · exact Refines.before (past fun _ => (arguments rules).before)
  · exact refl _
  · exact (subscript rules target).before
  · exact refl _

theorem postfixes : Refines (postfixes inner) (Grammar.postfixes other) :=
  (primary rules).chain fun first => repeating (nextPostfix rules) first

theorem unary : Refines (unary inner) (Grammar.unary other) := by
  refine past fun cursor => ?_
  dsimp only
  split
  · exact past fun _ => rules.unary.before
  · exact postfixes rules

theorem binary (least : Nat) : Refines (binary inner least) (Grammar.binary other least) := by
  have operand (left : Expr) : Refines (nextOperand inner least left) (nextOperand other least left) := by
    refine past fun kind => ?_
    split
    · exact refl _
    · exact both (refl _) (past fun _ => (rules.binary _).before)
  exact (unary rules).chain fun first => repeating operand first

theorem expression : Refines (expression inner) (Grammar.expression other) :=
  (binary rules 1).chain fun _ => past fun _ => past fun _ => both rules.expression.before (refl _)

theorem block : Refines (block inner) (Grammar.block other) := by
  have next (statements : List Stmt) : Refines (nextInBlock inner statements) (nextInBlock other statements) :=
    nextLine (past fun _ => both (refl _) rules.statement.before)
  exact past fun _ => past fun _ => (repeating next []).before

theorem binding : Refines (binding inner) (Grammar.binding other) :=
  past fun _ => past fun _ => (expression rules).before

theorem printStatement : Refines (printStatement inner) (Grammar.printStatement other) :=
  past fun _ => (joined (expression rules)).before

theorem returnStatement : Refines (returnStatement inner) (Grammar.returnStatement other) :=
  past fun _ => (unlessAny _ (expression rules)).before

theorem simulateStatement : Refines (simulateStatement inner) (Grammar.simulateStatement other) :=
  past fun _ => past fun _ => past fun _ => (unlessAny _ (expression rules)).chain fun _ =>
    (optionalAfter _ (expression rules)).before

theorem posting (side : Side) : Refines (posting inner side) (Grammar.posting other side) :=
  past fun _ => past fun _ => (expression rules).before

theorem portfolioStatement : Refines (portfolioStatement inner) (Grammar.portfolioStatement other) := by
  have holding (holdings : List Posting) : Refines (nextHolding inner holdings) (nextHolding other holdings) := by
    refine nextLine (past fun _ => both (refl _) (past fun kind => ?_))
    split
    · exact refl _
    · exact (posting rules _).before
  exact past fun _ => past fun _ => past fun _ => past fun _ => past fun _ => (repeating holding []).before

theorem conditional : Refines (conditional inner) (Grammar.conditional other) :=
  (expression rules).chain fun _ => past fun _ => (block rules).before

theorem ifStatement : Refines (ifStatement inner) (Grammar.ifStatement other) := by
  have branch (branches : List (Branch Stmt)) : Refines (nextBranch inner branches) (nextBranch other branches) :=
    past fun _ => past fun _ => past fun _ => both (conditional rules).before (refl _)
  exact past fun _ => (conditional rules).chain fun _ => (repeating branch []).chain fun _ =>
    (optionalAfter _ (block rules)).before

theorem whileStatement : Refines (whileStatement inner) (Grammar.whileStatement other) :=
  past fun _ => (expression rules).chain fun _ => past fun _ => (block rules).before

theorem forStatement : Refines (forStatement inner) (Grammar.forStatement other) := by
  have range (first : Token) (name : String) (start : Expr) :
      Refines (rangeLoop inner first name start) (rangeLoop other first name start) :=
    (expression rules).chain fun _ => (optionalAfter _ (expression rules)).chain fun _ =>
      past fun _ => (block rules).before
  have items (first : Token) (name : String) (list : Expr) :
      Refines (itemLoop inner first name list) (itemLoop other first name list) :=
    past fun _ => (block rules).before
  exact past fun _ => past fun _ => past fun _ => (expression rules).chain fun _ => past fun _ =>
    both (range _ _ _) (items _ _ _)

theorem functionStatement : Refines (functionStatement inner) (Grammar.functionStatement other) :=
  past fun _ => past fun _ => past fun _ => past fun _ => past fun _ => (block rules).before

theorem scenarioStatement : Refines (scenarioStatement inner) (Grammar.scenarioStatement other) :=
  past fun _ => past fun _ => past fun _ => (block rules).before

theorem statementForm : Refines (statementForm inner) (Grammar.statementForm other) := by
  refine past fun _ => past fun cursor => ?_
  split
  · exact (block rules).before
  · exact scenarioStatement rules
  · exact refl _
  · exact simulateStatement rules
  · exact (posting rules .debit).before
  · exact (posting rules .credit).before
  · exact past fun _ => (binding rules).before
  · exact past fun _ => (binding rules).before
  · exact printStatement rules
  · exact printStatement rules
  · exact ifStatement rules
  · exact whileStatement rules
  · exact forStatement rules
  · exact returnStatement rules
  · exact functionStatement rules
  · exact refl _
  · exact both (portfolioStatement rules) (expression rules).before

-- What is refused is refused at both depths, so both put the same placeholder in its place.
theorem statement : Refines (statement inner) (Grammar.statement other) := by
  intro cursor
  rw [statement_eq, statement_eq]
  rcases statementForm rules cursor with ⟨after, ran⟩ | same
  · rw [ran]
    exact .inl ⟨after, rfl⟩
  · rw [same]
    exact .inr rfl

theorem statements (maxErrors : Int) :
    Refines (statements inner maxErrors) (Grammar.statements other maxErrors) := by
  have top (statements : List Stmt) : Refines (nextAtTop inner statements) (nextAtTop other statements) :=
    past fun _ => both (refl _) rules.statement.before
  have round (statements : List Stmt) :
      Refines (programRound inner maxErrors statements) (programRound other maxErrors statements) :=
    past fun _ => both (refl _) (top statements).before
  exact past fun _ => (repeating round []).before

end Refines

namespace Rules

theorem exhausted_refines (rules : Rules) : exhausted.Refines rules :=
  ⟨.unfinished _, fun _ => .unfinished _, .unfinished _, .unfinished _⟩

theorem ofDepth_refines (depth more : Nat) : (ofDepth depth).Refines (ofDepth (depth + more)) := by
  induction depth with
  | zero => exact exhausted_refines _
  | succ depth ih =>
      rw [Nat.succ_add]
      exact ⟨.expression ih, .binary ih, .unary ih, .statement ih⟩

theorem unary_eq {depth other : Nat} {cursor : Cursor} (room : Room depth cursor) (roomOther : Room other cursor) :
    (ofDepth depth).unary cursor = (ofDepth other).unary cursor := by
  have deeper (low high : Nat) (le : low ≤ high) (room : Room low cursor) :
      (ofDepth low).unary cursor = (ofDepth high).unary cursor := by
    obtain ⟨more, rfl⟩ := Nat.exists_eq_add_of_le le
    exact (ofDepth_refines low more).unary.eq_of_room ((sound low).unary cursor) room
  rcases Nat.le_total depth other with le | le
  · exact deeper depth other le room
  · exact (deeper other depth le roomOther).symm

end Rules

end Fiscal.Grammar
