import Fiscal.Proofs.Grammar.Places
import Fiscal.Proofs.Grammar.Statement

set_option autoImplicit false

namespace Fiscal.Grammar

namespace Blind

variable {cursor : Cursor}

theorem closeConstruct (construct : String) :
    Even cursor (closeConstruct construct) (Grammar.closeConstruct construct) :=
  (expectEnd construct).bind fun _ _ => expectLineEnd

theorem acceptElseIf : Even cursor acceptElseIf Grammar.acceptElseIf := by
  refine .get ?_
  simp only [kindAhead_bare]
  refine .both (advance.bind fun _ _ => .pure _) (.both ?_ (.pure _))
  exact advance.bind fun _ _ => advance.bind fun _ _ => .pure _

theorem description : Blind (Option.map Expr.bare) cursor description Grammar.description := by
  refine .get ?_
  dsimp only
  have kinds : cursor.bare.current.kind = cursor.current.kind := rfl
  have payloads : cursor.bare.current.payload = cursor.current.payload := rfl
  rw [kinds, payloads]
  split
  · exact advance.bind fun _ _ => .give rfl
  · exact advance.bind fun _ _ => .give rfl
  · exact .give rfl

theorem runStatement : Blind Stmt.bare cursor runStatement Grammar.runStatement := by
  refine advance.bind fun _ _ => (expectName _).bind fun _ _ => (expect _ _).bind fun _ _ => ?_
  refine (expectName _).bind fun _ _ => expectLineEnd.bind fun _ _ => ?_
  exact .closing _ fun _ => rfl

theorem importStatement : Blind Stmt.bare cursor importStatement Grammar.importStatement := by
  refine advance.bind fun _ _ => (expect _ _).bind fun token _ => ?_
  refine ((optionalAfter _ fun _ => expectName _).plain fun given => ?_).bind fun _ _ => ?_
  · cases given <;> rfl
  · exact expectLineEnd.bind fun _ _ => .closing _ fun _ => rfl

theorem terminated (statement : Stmt) :
    Blind Stmt.bare cursor (terminated statement) (Grammar.terminated statement.bare) :=
  expectLineEnd.bind fun _ _ => .pure statement

theorem report (diagnostic : Source.Diagnostic) :
    Even cursor (report diagnostic) (Grammar.report diagnostic.bare) := rfl

section Rules

variable {inner : Rules} (rules : inner.Placeless)

include rules

theorem nextInBlock (statements : List Stmt) (cursor : Cursor) :
    Blind (fun last => (last.1.map Stmt.bare, last.2)) cursor (nextInBlock inner statements)
      (Grammar.nextInBlock inner (statements.map Stmt.bare)) := by
  refine nextLine statements fun _ => (atAny _).bind fun _ after => .both (.give rfl) ?_
  exact (rules.statement after).bind fun _ _ => .give rfl

theorem block : Blind Stmt.bareBody cursor (block inner) (Grammar.block inner) := by
  refine skipNewlines.bind fun _ _ => (expect _ _).bind fun _ _ => ?_
  refine (repeating (nextInBlock rules) []).bind fun _ _ => (expect _ _).bind fun _ _ => ?_
  refine .closing _ fun _ => ?_
  rw [Stmt.bareBody, Stmt.bareAll_eq, List.map_reverse]

theorem binding : Blind (fun bound => (bound.1, bound.2.bare)) cursor (binding inner) (Grammar.binding inner) := by
  refine (expectName _).bind fun _ _ => (expect _ _).bind fun _ _ => (expression rules).bind fun _ _ => ?_
  exact expectLineEnd.bind fun _ _ => .give rfl

theorem letStatement : Blind Stmt.bare cursor (letStatement inner) (Grammar.letStatement inner) :=
  advance.bind fun _ _ => (binding rules).bind fun _ _ => .closing _ fun _ => rfl

theorem setStatement : Blind Stmt.bare cursor (setStatement inner) (Grammar.setStatement inner) :=
  advance.bind fun _ _ => (binding rules).bind fun _ _ => .closing _ fun _ => rfl

theorem printStatement : Blind Stmt.bare cursor (printStatement inner) (Grammar.printStatement inner) := by
  refine advance.bind fun _ _ => (joined fun _ => expression rules).bind fun _ _ => ?_
  exact expectLineEnd.bind fun _ _ => .closing _ fun _ => rfl

theorem conditional :
    Blind (fun part => (part.1.bare, Stmt.bareBody part.2)) cursor (conditional inner)
      (Grammar.conditional inner) := by
  refine (expression rules).bind fun _ _ => (accept _).bind fun _ _ => (block rules).bind fun _ _ => ?_
  exact .give rfl

theorem nextBranch (branches : List (Branch Stmt)) (cursor : Cursor) :
    Blind (fun last => (last.1.map Stmt.bareBranch, last.2)) cursor (nextBranch inner branches)
      (Grammar.nextBranch inner (branches.map Stmt.bareBranch)) := by
  refine skipNewlines.bind fun _ _ => .get (acceptElseIf.bind fun _ _ => .both ?_ (.give rfl))
  refine (conditional rules).bind fun _ _ => ?_
  exact .closing _ fun _ => rfl

theorem ifStatement : Blind Stmt.bare cursor (ifStatement inner) (Grammar.ifStatement inner) := by
  refine advance.bind fun _ _ => (conditional rules).bind fun _ _ => ?_
  refine (repeating (nextBranch rules) []).bind fun _ _ => ?_
  refine (optionalAfter _ fun _ => block rules).bind fun _ _ => (closeConstruct _).bind fun _ _ => ?_
  refine .closing _ fun _ => ?_
  rw [Stmt.bare, Stmt.bareBranches_eq, Stmt.bareOption_eq, List.map_reverse]

theorem whileStatement : Blind Stmt.bare cursor (whileStatement inner) (Grammar.whileStatement inner) := by
  refine advance.bind fun _ _ => (expression rules).bind fun _ _ => (acceptAny _).bind fun _ _ => ?_
  exact (block rules).bind fun _ _ => (closeConstruct _).bind fun _ _ => .closing _ fun _ => rfl

theorem rangeLoop (first : Token) (name : String) (start : Expr) :
    Blind Stmt.bare cursor (rangeLoop inner first name start)
      (Grammar.rangeLoop inner first.bare name start.bare) := by
  refine (expression rules).bind fun _ _ => (optionalAfter _ fun _ => expression rules).bind fun _ _ => ?_
  refine (accept _).bind fun _ _ => (block rules).bind fun _ _ => (closeConstruct _).bind fun _ _ => ?_
  exact .closing _ fun _ => rfl

theorem itemLoop (first : Token) (name : String) (items : Expr) :
    Blind Stmt.bare cursor (itemLoop inner first name items)
      (Grammar.itemLoop inner first.bare name items.bare) := by
  refine (accept _).bind fun _ _ => (block rules).bind fun _ _ => (closeConstruct _).bind fun _ _ => ?_
  exact .closing _ fun _ => rfl

theorem forStatement : Blind Stmt.bare cursor (forStatement inner) (Grammar.forStatement inner) := by
  refine advance.bind fun first _ => (expectName _).bind fun name _ => (expect _ _).bind fun _ _ => ?_
  refine (expression rules).bind fun start _ => (accept _).bind fun _ _ => ?_
  exact .both (rangeLoop rules first name start) (itemLoop rules first name start)

theorem returnStatement : Blind Stmt.bare cursor (returnStatement inner) (Grammar.returnStatement inner) := by
  refine advance.bind fun _ _ => (unlessAny _ fun _ => expression rules).bind fun _ _ => ?_
  exact expectLineEnd.bind fun _ _ => .closing _ fun _ => rfl

theorem functionStatement : Blind Stmt.bare cursor (functionStatement inner) (Grammar.functionStatement inner) := by
  refine advance.bind fun _ _ => (expectName _).bind fun _ _ => (expect _ _).bind fun _ _ => ?_
  refine parameters.bind fun _ _ => (expect _ _).bind fun _ _ => (block rules).bind fun _ _ => ?_
  exact (closeConstruct _).bind fun _ _ => .closing _ fun _ => rfl

theorem scenarioStatement : Blind Stmt.bare cursor (scenarioStatement inner) (Grammar.scenarioStatement inner) := by
  refine advance.bind fun _ _ => (expectName _).bind fun _ _ => (accept _).bind fun _ _ => ?_
  exact (block rules).bind fun _ _ => (closeConstruct _).bind fun _ _ => .closing _ fun _ => rfl

theorem simulateStatement : Blind Stmt.bare cursor (simulateStatement inner) (Grammar.simulateStatement inner) := by
  refine advance.bind fun _ _ => (expectName _).bind fun _ _ => (accept _).bind fun _ _ => ?_
  refine (unlessAny _ fun _ => expression rules).bind fun _ _ => ?_
  refine (optionalAfter _ fun _ => expression rules).bind fun _ _ => ?_
  exact expectLineEnd.bind fun _ _ => .closing _ fun _ => rfl

theorem posting (side : Side) : Blind Posting.bare cursor (posting inner side) (Grammar.posting inner side) := by
  refine advance.bind fun _ _ => (expectName _).bind fun _ _ => (expression rules).bind fun _ _ => ?_
  exact description.bind fun _ _ => .closing _ fun _ => rfl

theorem nextHolding (holdings : List Posting) (cursor : Cursor) :
    Blind (fun last => (last.1.map Posting.bare, last.2)) cursor (nextHolding inner holdings)
      (Grammar.nextHolding inner (holdings.map Posting.bare)) := by
  refine nextLine holdings fun _ => (at? _).bind fun _ _ => .both (.give rfl) (kindHere.bind fun kind _ => ?_)
  cases Side.ofKind? kind with
  | none => exact .unexpected _
  | some side => exact (posting rules side).bind fun _ _ => expectLineEnd.bind fun _ _ => .give rfl

theorem portfolioStatement :
    Blind Stmt.bare cursor (portfolioStatement inner) (Grammar.portfolioStatement inner) := by
  refine advance.bind fun _ _ => (expectName _).bind fun _ _ => (accept _).bind fun _ _ => ?_
  refine skipNewlines.bind fun _ _ => (expect _ _).bind fun _ _ => ?_
  refine (repeating (nextHolding rules) []).bind fun _ _ => (expect _ _).bind fun _ _ => ?_
  refine (closeConstruct _).bind fun _ _ => .closing _ fun _ => ?_
  rw [Stmt.bare, List.map_reverse]

theorem statementForm : Blind Stmt.bare cursor (statementForm inner) (Grammar.statementForm inner) := by
  refine skipNewlines.bind fun _ after => .get ?_
  have same : after.bare.kind = after.kind := rfl
  simp only [kindAhead_bare, same]
  split
  · exact (block rules).bind fun _ _ => .give rfl
  · exact scenarioStatement rules
  · exact runStatement
  · exact simulateStatement rules
  · exact (posting rules _).bind fun entry _ => terminated (.post entry)
  · exact (posting rules _).bind fun entry _ => terminated (.post entry)
  · exact letStatement rules
  · exact setStatement rules
  · exact printStatement rules
  · exact printStatement rules
  · exact ifStatement rules
  · exact whileStatement rules
  · exact forStatement rules
  · exact returnStatement rules
  · exact functionStatement rules
  · exact importStatement
  · refine .both (portfolioStatement rules) ?_
    exact (expression rules).bind fun expr _ => terminated (.evaluate expr)

omit rules in
theorem resume_bare (remaining : Nat) (cursor : Cursor) :
    resume remaining cursor.bare = (resume remaining cursor).bare := by
  have same : cursor.bare.ahead.length = cursor.ahead.length := List.length_map _
  unfold resume
  dsimp only
  rw [same, advance_bare, show cursor.bare.kind = cursor.kind from rfl]
  split
  · exact skip_bare (fun _ _ => rfl) _
  · exact skip_bare (fun _ _ => rfl) _

theorem statement : Blind Stmt.bare cursor (statement inner) (Grammar.statement inner) := by
  have form : Blind Stmt.bare cursor (Grammar.statementForm inner) (Grammar.statementForm inner) :=
    statementForm rules
  unfold Blind at form ⊢
  rw [statement_eq, statement_eq, form]
  cases Grammar.statementForm inner cursor with
  | ok value after => rfl
  | error halt after =>
      cases halt with
      | unfinished => rfl
      | refused diagnostic =>
          have resumed : cursor.bare.recovered after.bare diagnostic.bare = (cursor.recovered after diagnostic).bare := by
            have same : cursor.bare.ahead.length = cursor.ahead.length := List.length_map _
            unfold Cursor.recovered
            rw [same]
            exact resume_bare _ { after with reports := diagnostic :: after.reports }
          simp only [stripped, Halt.bare, resumed]
          rfl

end Rules

end Blind

theorem Rules.placeless (depth : Nat) : (Rules.ofDepth depth).Placeless := by
  induction depth with
  | zero => exact ⟨fun _ => rfl, fun _ _ => rfl, fun _ => rfl, fun _ => rfl⟩
  | succ depth ih =>
      exact ⟨fun _ => .expression ih, fun least _ => .binary ih least, fun _ => .unary ih, fun _ => .statement ih⟩

namespace Blind

variable {cursor : Cursor} {inner : Rules} (rules : inner.Placeless)

theorem strayDedent : Even cursor strayDedent Grammar.strayDedent :=
  advance.bind fun _ _ => .get (.report _)

include rules

theorem nextAtTop (statements : List Stmt) :
    Blind (List.map Stmt.bare) cursor (nextAtTop inner statements)
      (Grammar.nextAtTop inner (statements.map Stmt.bare)) := by
  refine (at? _).bind fun _ after => .both (strayDedent.bind fun _ _ => .give rfl) ?_
  exact (rules.statement after).bind fun _ _ => .give rfl

theorem programRound (maxErrors : Int) (statements : List Stmt) (cursor : Cursor) :
    Blind (fun last => (last.1.map Stmt.bare, last.2)) cursor (programRound inner maxErrors statements)
      (Grammar.programRound inner maxErrors (statements.map Stmt.bare)) := by
  refine .get (.both (.give rfl) ((nextAtTop rules statements).bind fun _ after => .get ?_))
  have same : after.bare.reports.length = after.reports.length := List.length_map _
  rw [same]
  exact .both (.give rfl) (skipNewlines.bind fun _ _ => .give rfl)

theorem statements (maxErrors : Int) :
    Blind (List.map Stmt.bare) cursor (statements inner maxErrors) (Grammar.statements inner maxErrors) := by
  refine skipNewlines.bind fun _ _ => (repeating (programRound rules maxErrors) []).bind fun _ _ => .give ?_
  rw [List.map_reverse]

end Blind

theorem parse_bare (maxErrors : Int) (lines : Option (List String)) (tokens : List Token) :
    (parse maxErrors none (tokens.map Token.bare)).program.statements =
        (parse maxErrors lines tokens).program.statements.map Stmt.bare ∧
      (parse maxErrors none (tokens.map Token.bare)).reports = (parse maxErrors lines tokens).reports.map (·.bare) := by
  cases tokens with
  | nil => exact ⟨rfl, rfl⟩
  | cons first rest =>
      have blind : readProgram maxErrors none first.bare (rest.map Token.bare) =
          stripped (List.map Stmt.bare) (readProgram maxErrors lines first rest) := by
        unfold readProgram
        rw [List.length_map]
        have same : Blind (List.map Stmt.bare) (Cursor.start first rest lines) _ _ :=
          .statements (Rules.placeless (rest.length + 2)) maxErrors
        exact same
      rw [List.map_cons, parse, parse, blind]
      cases readProgram maxErrors lines first rest with
      | ok statements cursor => exact ⟨rfl, List.map_reverse.symm⟩
      | error halt cursor =>
          refine ⟨rfl, ?_⟩
          cases halt with
          | unfinished => exact List.map_reverse.symm
          | refused diagnostic => simp [stripped, Halt.bare, Halt.diagnostics, Cursor.bare]

end Fiscal.Grammar
