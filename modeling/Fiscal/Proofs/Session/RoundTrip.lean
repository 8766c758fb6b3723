import Fiscal.Proofs.Grammar.Plain
import Fiscal.Proofs.Grammar.ParallelRecovery
import Fiscal.Session

set_option autoImplicit false

namespace Fiscal

namespace Grammar

open Token (mark)

def lineEnd : Token := ⟨.newline, .none, "", default⟩

def fileEnd : Token := ⟨.endOfFile, .none, "", default⟩

section Lines

variable {inner : Rules} {cursor : Cursor} {tokens : List Token} {value : Value}

theorem expectLineEnd_yields (here : cursor.At [lineEnd, fileEnd]) :
    Yields (fun _ => True) [fileEnd] expectLineEnd cursor := by
  refine .atAny here ?_
  rw [if_neg (by decide)]
  refine .accept_here here rfl (by decide) fun after there => ?_
  rw [if_pos rfl]
  exact .give trivial there

def Evaluates (value : Value) (statement : Stmt) : Prop := ∃ expr : Expr, statement = .evaluate expr ∧ expr.Means value

theorem statementForm_plain (opens : Rules.Opens tokens) (gives : inner.deepen.Gives tokens value)
    (here : cursor.At (tokens ++ [lineEnd, fileEnd])) :
    Yields (Evaluates value) [fileEnd] (statementForm inner) cursor := by
  obtain ⟨token, others, rfl, kind⟩ := opens
  refine .skipNewlines here (opens_inside kind).1 (.get ?_)
  have line : Yields (Evaluates value) [fileEnd] (do terminated (.evaluate (← expression inner))) cursor :=
    (gives cursor lineEnd [fileEnd] (by decide) here).bind fun expr next means there =>
      (expectLineEnd_yields there).bind fun _ last _ beyond => .give ⟨expr, rfl, means⟩ beyond
  rw [here.kind]
  rcases opening_cases kind with kind | kind | kind | kind | kind | kind | kind <;> rw [kind] <;> exact line

theorem statement_plain (opens : Rules.Opens tokens) (gives : inner.deepen.Gives tokens value)
    (here : cursor.At (tokens ++ [lineEnd, fileEnd])) :
    Yields (Evaluates value) [fileEnd] (statement inner) cursor := by
  obtain ⟨stmt, next, ran, proper, rest⟩ := statementForm_plain opens gives here
  refine ⟨stmt, next, ?_, proper, rest⟩
  change EStateM.tryCatch (statementForm inner) _ cursor = _
  rw [EStateM.tryCatch, ran]

theorem programRound_plain {maxErrors : Int} (opens : Rules.Opens tokens) (gives : inner.deepen.Gives tokens value)
    (here : cursor.At (tokens ++ [lineEnd, fileEnd])) :
    Yields (fun result => ∃ stmt, result.1 = [stmt] ∧ Evaluates value stmt) [fileEnd]
      (programRound inner.deepen maxErrors []) cursor := by
  have read := statement_plain opens gives here
  obtain ⟨token, others, rfl, kind⟩ := opens
  have inside : token.kind ≠ .endOfFile ∧ token.kind ≠ .dedent := by
    rcases opening_cases kind with kind | kind | kind | kind | kind | kind | kind <;> rw [kind] <;> decide
  refine .get ?_
  rw [show cursor.atEnd = false by rw [Cursor.atEnd, here.kind]; simpa using inside.1, if_neg (by decide)]
  have top : Yields (fun stmts => ∃ stmt, stmts = [stmt] ∧ Evaluates value stmt) [fileEnd] (nextAtTop inner.deepen [])
      cursor := by
    refine .at?_other here inside.2 ?_
    rw [if_neg (by decide)]
    exact read.bind fun stmt next evaluates there => .give ⟨stmt, rfl, evaluates⟩ there
  refine top.bind fun stmts next only there => .get ?_
  split
  · exact .give only there
  · exact .skipNewlines there (by decide) (.give only there)

theorem statements_plain (maxErrors : Int) (opens : Rules.Opens tokens) (gives : inner.deepen.Gives tokens value)
    (here : cursor.At (tokens ++ [lineEnd, fileEnd])) :
    Yields (fun stmts => ∃ stmt, stmts = [stmt] ∧ Evaluates value stmt) [fileEnd] (statements inner.deepen maxErrors)
      cursor := by
  obtain ⟨⟨stmts, more⟩, next, ran, ⟨stmt, rfl, evaluates⟩, there, still⟩ := programRound_plain opens gives here
  have rounds : Yields (fun stmts => ∃ stmt, stmts = [stmt] ∧ Evaluates value stmt) [fileEnd]
      (repeatStep (programRound inner.deepen maxErrors) (tokens ++ [lineEnd, fileEnd]).length []) cursor := by
    rw [List.length_append]
    refine ⟨[stmt], next, ?_, ⟨stmt, rfl, evaluates⟩, there, still⟩
    cases more with
    | false => exact repeatStep_done ran
    | true => exact (repeatStep_more ran).trans (repeatStep_done (programRound_ended [stmt] next there.kind))
  obtain ⟨token, others, rfl, kind⟩ := opens
  refine .skipNewlines here (opens_inside kind).1 ((Yields.repeating here rounds).bind fun stmts last only beyond => ?_)
  obtain ⟨stmt, rfl, evaluates⟩ := only
  exact .give ⟨stmt, rfl, evaluates⟩ beyond

theorem parse_plain (plain : value.Plain) (spells : tokens.map Token.bare = value.spelled ++ [lineEnd, fileEnd])
    (maxErrors : Int) (lines : Option (List String)) :
    ∃ stmt, (parse maxErrors lines tokens).program.statements = [stmt] ∧ (parse maxErrors lines tokens).reports = [] ∧
      Evaluates value stmt := by
  have length := congrArg List.length spells
  rw [List.length_map, List.length_append] at length
  cases tokens with
  | nil => cases length
  | cons first rest =>
      have gives := plain.gives (rest.length + 2) (by simp only [List.length_cons, List.length_nil] at length; omega)
      have here : (Cursor.start first rest lines).At (value.spelled ++ [lineEnd, fileEnd]) := spells
      obtain ⟨stmts, last, ran, ⟨stmt, rfl, evaluates⟩, there, still⟩ :=
        statements_plain maxErrors plain.opens gives here
      have read : readProgram maxErrors lines first rest = .ok [stmt] last := ran
      refine ⟨stmt, ?_, ?_, evaluates⟩
      · rw [parse, read]
      · rw [parse, read]
        change last.reports.reverse = []
        rw [still]
        rfl

end Lines

end Grammar

open Grammar (Evaluates)

namespace Value

variable {value : Value}

theorem Plain.read (plain : value.Plain) (ledgers : Ledgers) (settings : Settings) (file : Option String) :
    ∃ reading stmt, Session.read settings file (value.shown ledgers) = .ok reading ∧ reading.diagnostics = [] ∧
      reading.program.statements = [stmt] ∧ Evaluates value stmt := by
  have scanned : ∃ stream, Token.scan settings.tabWidth settings.currencies file (value.shown ledgers) = .ok stream ∧
      stream.reports = [] ∧ stream.tokens.map Token.bare = value.spelled ++ [Grammar.lineEnd, Grammar.fileEnd] :=
    plain.reads.scanned file
  obtain ⟨stream, scanned, quiet, spells⟩ := scanned
  obtain ⟨stmt, only, silent, evaluates⟩ :=
    Grammar.parse_plain plain spells settings.maxErrors (some (Text.lines (value.shown ledgers)))
  let outcome := Grammar.parse settings.maxErrors (some (Text.lines (value.shown ledgers))) stream.tokens
  refine ⟨⟨stream.tokens, outcome.program, stream.reports ++ outcome.reports⟩, stmt, ?_, ?_, only, evaluates⟩
  · rw [Session.read, scanned]
    rfl
  · change stream.reports ++ outcome.reports = []
    rw [quiet, silent]
    rfl

end Value

namespace Session

theorem runAll_evaluates {value : Value} {stmt : Stmt} (evaluates : Evaluates value stmt) {limits : Limits}
    (enough : value.nesting + 3 ≤ limits.depth) (machine : Machine) :
    ∃ result, runAll (Evaluator.ofLimits limits) [stmt] machine = ([result], none, machine) ∧
      ∀ ledgers, value.same ledgers result = true := by
  obtain ⟨expr, rfl, means⟩ := evaluates
  obtain ⟨depth, deep⟩ := Nat.exists_eq_add_of_le' (show 1 ≤ limits.depth by omega)
  obtain ⟨result, gives, same⟩ := means limits.rounds depth machine (by omega)
  have executes : (Evaluator.ofLimits limits).execute (.evaluate expr) machine = .ok (.done result) machine := by
    rw [Evaluator.ofLimits, deep]
    change Eval.located expr.span (EStateM.bind _ _) machine = _
    rw [Eval.located, EStateM.bind, gives]
    rfl
  refine ⟨result, ?_, same⟩
  rw [runAll, executes]
  rfl

end Session

-- The text of a value is a program that gives an equal value. Nothing is reported, nothing is written, and
-- the machine stays as it is. Only the nesting of the value asks for depth.
theorem printed_values_read_back (limits : Limits) (file : Option String) (machine : Machine) (ledgers : Ledgers)
    (value : Value) (plain : value.Plain) (enough : value.nesting + 3 ≤ limits.depth) :
    ∃ report, Session.execute limits file (value.shown ledgers) machine =
        (.reported report, { machine with output := [], lines := Text.lines (value.shown ledgers) }) ∧
      report.success = true ∧ report.diagnostics = [] ∧ report.output = [] ∧
      ∀ span, value.operate machine.ledgers span .equal report.value = .ok (.bool true) := by
  obtain ⟨reading, stmt, read, quiet, only, evaluates⟩ := plain.read ledgers machine.settings file
  obtain ⟨result, ran, same⟩ := Session.runAll_evaluates evaluates enough
    { machine with output := [], lines := Text.lines (value.shown ledgers) }
  refine ⟨⟨[result], [], none, []⟩, ?_, rfl, rfl, rfl, fun _ => ?_⟩
  · rw [Session.execute, read]
    dsimp only [Session.run]
    rw [only, ran]
    dsimp only
    rw [Session.conclude, quiet]
    rfl
  · exact congrArg (fun equal => Except.ok (Value.bool equal)) (same machine.ledgers)

theorem nested_object_reads_back :
    let value : Value := .object [("rate", .number (-1.5)),
      ("runs", .list [.null, .bool true, .number 1e100, .list []]), ("rest", .object [])]
    let machine := Machine.start Settings.standard ⟨[]⟩ "2024-02-29"
    value.shown #[] = "\x7b rate: -1.5, runs: [null, true, 1e+100, []], rest: \x7b\x7d \x7d" ∧
    ∃ report, Session.execute Limits.standard none (value.shown #[]) machine =
        (.reported report, { machine with output := [], lines := Text.lines (value.shown #[]) }) ∧
      report.success = true ∧ report.diagnostics = [] ∧ report.output = [] ∧
      ∀ span, value.operate machine.ledgers span .equal report.value = .ok (.bool true) := by
  intro value machine
  have plain : value.Plain := by
    refine .object _ (by decide) ?_ ?_
    · simp only [List.forall_mem_cons, List.not_mem_nil, false_implies, implies_true, and_true]
      exact ⟨⟨_, _, rfl, rfl, rfl, rfl, rfl⟩, ⟨_, _, rfl, rfl, rfl, rfl, rfl⟩, ⟨_, _, rfl, rfl, rfl, rfl, rfl⟩⟩
    · simp only [List.forall_mem_cons, List.not_mem_nil, false_implies, implies_true, and_true]
      refine ⟨.number _ (by decide +kernel), .list _ ?_, .object _ (by decide) nofun nofun⟩
      simp only [List.forall_mem_cons, List.not_mem_nil, false_implies, implies_true, and_true]
      exact ⟨.null, .bool true, .number _ (by decide +kernel), .list [] nofun⟩
  exact ⟨by decide +kernel, printed_values_read_back Limits.standard none machine #[] value plain (by decide)⟩

end Fiscal
