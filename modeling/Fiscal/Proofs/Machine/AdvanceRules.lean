import Fiscal.Proofs.Machine.Advance
import Fiscal.Proofs.Machine.Depth

set_option autoImplicit false

namespace Fiscal

open Machine

namespace Calm

theorem itemAt (span : Source.Span) (target key : Value) : Calm (Machine.itemAt span target key) := by
  refine (lift _).bind fun items => (lift _).bind fun place => ?_
  split
  · exact pure _
  · exact failAt _ _

theorem lambda (parameters : List String) (body : Expr) : Calm (Machine.lambda parameters body) :=
  newIdentity.bind fun _ => get fun _ => pure _

theorem financial {α : Type} (name : String) (result : Except Fault α) : Calm (Machine.financial name result) :=
  takingFaults name (liftFault result)

theorem requireCount (name : String) (expected found : Nat) : Calm (Machine.requireCount name expected found) :=
  both (pure _) (throw _)

theorem bindAll (parameters : List String) (arguments : List Value) :
    Calm (Machine.bindAll parameters arguments) := by
  fun_induction Machine.bindAll parameters arguments with
  | case1 parameter parameters argument arguments ih => exact (define _ _).bind fun _ => ih
  | case2 => exact pure _

theorem findScenario (span : Source.Span) (name : String) : Calm (Machine.findScenario span name) := by
  refine (isBound name).bind fun _ => both ((lookup name).bind fun value => ?_) (failAt _ _)
  cases value with
  | block body => exact pure _
  | _ => exact failAt _ _

theorem findModel (span : Source.Span) (name : String) : Calm (Machine.findModel span name) :=
  (isBound name).bind fun _ => both ((lookup name).bind fun _ => both (pure _) (failAt _ _)) (failAt _ _)

theorem bindResults (results : Value) : Calm (Machine.bindResults results) := by
  refine get fun machine => ?_
  split
  · exact define _ _
  · exact throw _
  · exact throw _
  · exact pure _

end Calm

def Evaluator.Advances (step : Ledgers → Ledgers → Prop) (parts other : Evaluator) : Prop :=
  ∀ task, Fiscal.Advances step (parts.answer task) (other.answer task)

namespace Advances

variable {step : Ledgers → Ledgers → Prop} {parts other : Evaluator}

theorem of_done {action broken : Eval Value}
    (answers : Advances step (return Outcome.done (← action)) (return Outcome.done (← broken))) :
    Advances step action broken := by
  have ledgers : ∀ machine, (final ((return Outcome.done (← action) : Eval Outcome) machine)).ledgers =
      (final (action machine)).ledgers := by
    intro machine
    change (final (EStateM.bind action (fun value => Pure.pure (Outcome.done value)) machine)).ledgers = _
    unfold EStateM.bind
    cases action machine with
    | ok value after | error failure after => rfl
  refine ⟨fun machine => ?_, fun machine => ?_⟩
  · rw [← ledgers]
    exact answers.leads machine
  · rcases answers.meets machine with same | ⟨place, stopped, led⟩
    · exact .inl ((done_same_iff broken action machine).mp same)
    · rw [ledgers] at led
      refine .inr ⟨place, ?_, led⟩
      change EStateM.bind broken (fun value => Pure.pure (Outcome.done value)) machine = _ at stopped
      unfold EStateM.bind at stopped
      cases ran : broken machine with
      | ok value after =>
          rw [ran] at stopped
          cases stopped
      | error failure after =>
          rw [ran] at stopped
          cases stopped
          rfl

variable (advances : parts.Advances step other)

include advances

theorem evaluate (expr : Expr) : Advances step (parts.evaluate expr) (other.evaluate expr) :=
  of_done (advances (.evaluate expr))

theorem execute (stmt : Stmt) : Advances step (parts.execute stmt) (other.execute stmt) :=
  advances (.execute stmt)

theorem call (callee : Value) (arguments : List Value) (name : Option String) :
    Advances step (parts.call callee arguments name) (other.call callee arguments name) :=
  of_done (advances (.call callee arguments name))

theorem evaluateAll (exprs : List Expr) :
    Advances step (parts.evaluateAll exprs) (other.evaluateAll exprs) := by
  induction exprs with
  | nil => exact pure _
  | cons expr rest ih => exact (evaluate advances expr).bind fun _ => ih.bind fun _ => pure _

theorem evaluateFields (fields : Named Expr) :
    Advances step (parts.evaluateFields fields) (other.evaluateFields fields) := by
  induction fields with
  | nil => exact pure _
  | cons field rest ih => exact (evaluate advances field.2).bind fun _ => ih.bind fun _ => pure _

theorem executeAll (stmts : List Stmt) : Advances step (parts.executeAll stmts) (other.executeAll stmts) := by
  induction stmts with
  | nil => exact pure _
  | cons stmt rest ih =>
      refine (execute advances stmt).bind fun outcome => ?_
      cases outcome with
      | returned value => exact pure _
      | done value => exact ih

theorem number (what : String) (expr : Expr) :
    Advances step (parts.number what expr) (other.number what expr) :=
  (evaluate advances expr).bind fun _ => calm (.lift _)

theorem whole (what : String) (expr : Expr) : Advances step (parts.whole what expr) (other.whole what expr) :=
  (evaluate advances expr).bind fun _ => calm (.lift _)

theorem text (what : String) (expr : Expr) : Advances step (parts.text what expr) (other.text what expr) :=
  (evaluate advances expr).bind fun _ => calm (.lift _)

theorem numbers (what : String) (expr : Expr) :
    Advances step (parts.numbers what expr) (other.numbers what expr) :=
  (evaluate advances expr).bind fun _ => calm (.lift _)

theorem numberOr (what : String) (standard : Float) (expr : Option Expr) :
    Advances step (parts.numberOr what standard expr) (other.numberOr what standard expr) := by
  cases expr with
  | none => exact pure _
  | some expr => exact number advances what expr

section Expressions

theorem binary (span : Source.Span) (left : Expr) (op : BinaryOperator) (right : Expr) :
    Advances step (Machine.binary parts span left op right) (Machine.binary other span left op right) := by
  refine (evaluate advances left).bind fun first => ?_
  have second := evaluate advances right
  cases op with
  | and => exact both (second.bind fun _ => pure _) (pure _)
  | or => exact both (pure _) (second.bind fun _ => pure _)
  | _ => exact second.bind fun _ => get fun _ => calm (.lift _)

theorem unary (span : Source.Span) (op : UnaryOperator) (operand : Expr) :
    Advances step (Machine.unary parts span op operand) (Machine.unary other span op operand) := by
  refine (evaluate advances operand).bind fun value => ?_
  split
  · exact pure _
  · exact pure _
  · exact calm (.failAt _ _)

theorem callExpr (callee : Expr) (arguments : List Expr) :
    Advances step (Machine.callExpr parts callee arguments) (Machine.callExpr other callee arguments) :=
  (evaluate advances callee).bind fun _ => (evaluateAll advances arguments).bind fun _ =>
    call advances _ _ _

theorem member (target : Expr) (name : String) :
    Advances step (Machine.member parts target name) (Machine.member other target name) :=
  (evaluate advances target).bind fun _ => get fun _ => calm (.lift _)

theorem index (target key : Expr) :
    Advances step (Machine.index parts target key) (Machine.index other target key) := by
  refine (evaluate advances target).bind fun value => (evaluate advances key).bind fun place => ?_
  split
  · exact get fun _ => calm (.lift _)
  · exact calm (.itemAt _ _ _)

theorem wholeOr (what : String) (standard : Int) (expr : Option Expr) :
    Advances step (Machine.wholeOr parts what standard expr) (Machine.wholeOr other what standard expr) := by
  cases expr with
  | none => exact pure _
  | some expr => exact whole advances what expr

theorem slice (span : Source.Span) (target : Expr) (start stop : Option Expr) :
    Advances step (Machine.slice parts span target start stop) (Machine.slice other span target start stop) :=
  (evaluate advances target).bind fun _ => after (.lift _) fun _ => (wholeOr advances _ _ _).bind fun _ =>
    (wholeOr advances _ _ _).bind fun _ => both (calm (.failAt _ _)) (pure _)

theorem tableColumns (columns : Named Expr) :
    Advances step (Machine.tableColumns parts columns) (Machine.tableColumns other columns) := by
  induction columns with
  | nil => exact pure _
  | cons column rest ih => exact (numbers advances _ column.2).bind fun _ => ih.bind fun _ => pure _

theorem table (columns : Named Expr) :
    Advances step (Machine.table parts columns) (Machine.table other columns) :=
  (tableColumns advances columns).bind fun _ => after (.lift _) fun _ => pure _

theorem flows (place : Nat) (entries : List (Flow Expr)) :
    Advances step (Machine.flows parts place entries) (Machine.flows other place entries) := by
  induction entries generalizing place with
  | nil => exact pure _
  | cons flow rest ih => exact (number advances _ flow.amount).bind fun _ => (ih _).bind fun _ => pure _

theorem cashflow (expr : Expr) : Advances step (Machine.cashflow parts expr) (Machine.cashflow other expr) := by
  fun_induction Machine.cashflow parts expr with
  | case1 span left right first second | case2 span left right first second =>
      rw [Machine.cashflow]
      exact first.bind fun _ => second.bind fun _ => pure _
  | case3 expr added subtracted =>
      rw [Machine.cashflow]
      · exact numbers advances _ _
      · exact added
      · exact subtracted

theorem capm (beta riskFree premium : Expr) :
    Advances step (Machine.capm parts beta riskFree premium) (Machine.capm other beta riskFree premium) := by
  refine (evaluate advances beta).bind fun betas => (number advances _ riskFree).bind fun _ =>
    (number advances _ premium).bind fun _ => ?_
  cases betas with
  | number single => exact pure _
  | list items => exact after (.lift _) fun _ => pure _
  | portfolio holdings => exact after (.liftFault _) fun _ => pure _
  | _ => exact calm (.failAt _ _)

theorem expressionForm (expr : Expr) :
    Advances step (Machine.expressionForm parts expr) (Machine.expressionForm other expr) := by
  cases expr with
  | literal span value => exact pure _
  | name span name => exact calm (.lookup name)
  | qualified span qualifier name =>
      cases qualifier with
      | globalScope => exact calm (.lookupGlobal name)
      | parentScope => exact calm (.lookupOuter name)
  | assign span name value => exact (evaluate advances value).bind fun _ => after (.assign _ _) fun _ => pure _
  | binary span left op right => exact binary advances span left op right
  | unary span op operand => exact unary advances span op operand
  | call span callee arguments => exact callExpr advances callee arguments
  | member span target name => exact member advances target name
  | index span target key => exact index advances target key
  | slice span target start stop => exact slice advances span target start stop
  | list span items => exact (evaluateAll advances items).bind fun _ => pure _
  | object span fields => exact (evaluateFields advances fields).bind fun _ => pure _
  | lambda span parameters body => exact calm (.lambda parameters body)
  | timeseries span series window =>
      exact (numbers advances _ series).bind fun _ => (whole advances _ window).bind fun _ =>
        both (calm (.failAt _ _)) (after (.liftFault _) fun _ => pure _)
  | table span columns => exact table advances columns
  | cashflow span entries => exact (flows advances 0 entries).bind fun _ => pure _
  | portfolio span assets weights =>
      exact (numbers advances _ assets).bind fun _ => (numbers advances _ weights).bind fun _ =>
        after (.lift _) fun _ => pure _
  | npv span flows rate =>
      exact (number advances _ rate).bind fun _ => (cashflow advances flows).bind fun _ =>
        after (.financial _ _) fun _ => pure _
  | irr span flows =>
      exact (cashflow advances flows).bind fun _ => get fun _ => after (.financial _ _) fun _ => pure _
  | pv span rate periods payment future =>
      exact (number advances _ rate).bind fun _ => (number advances _ periods).bind fun _ =>
        (numberOr advances _ _ payment).bind fun _ => (numberOr advances _ _ future).bind fun _ =>
          after (.financial _ _) fun _ => pure _
  | fv span rate periods payment present =>
      exact (number advances _ rate).bind fun _ => (number advances _ periods).bind fun _ =>
        (numberOr advances _ _ payment).bind fun _ => (numberOr advances _ _ present).bind fun _ =>
          after (.financial _ _) fun _ => pure _
  | wacc span equityWeight debtWeight costEquity costDebt taxRate =>
      exact (number advances _ equityWeight).bind fun _ => (number advances _ debtWeight).bind fun _ =>
        (number advances _ costEquity).bind fun _ => (number advances _ costDebt).bind fun _ =>
          (number advances _ taxRate).bind fun _ => pure _
  | capm span beta riskFree premium => exact capm advances beta riskFree premium
  | valueAtRisk span series confidence =>
      exact (evaluate advances series).bind fun _ => (number advances _ confidence).bind fun _ =>
        after (.lift _) fun _ => get fun _ => after (.financial _ _) fun _ => pure _
  | sma span series period =>
      exact (numbers advances _ series).bind fun _ => (whole advances _ period).bind fun _ =>
        after (.financial _ _) fun _ => pure _
  | ema span series period =>
      exact (numbers advances _ series).bind fun _ => (whole advances _ period).bind fun _ =>
        after (.financial _ _) fun _ => pure _
  | amortize span principal rate periods =>
      exact (number advances _ principal).bind fun _ => (number advances _ rate).bind fun _ =>
        (whole advances _ periods).bind fun _ => after (.financial _ _) fun _ =>
          after (.lift _) fun _ => pure _

end Expressions

section Calls

omit advances in
theorem inCallScope {α : Type} {body broken : Eval α} (captured : Nat) (parameters : List String)
    (arguments : List Value) (inner : Advances step body broken) :
    Advances step (Machine.inCallScope captured parameters arguments body)
      (Machine.inCallScope captured parameters arguments broken) :=
  after (.openScope captured) fun _ => inScope _ (after (.bindAll _ _) fun _ => inner)

theorem callFunction (function : UserFunction) (arguments : List Value) :
    Advances step (Machine.callFunction parts function arguments)
      (Machine.callFunction other function arguments) := by
  refine after (.requireCount _ _ _) fun _ =>
    (inCallScope _ _ _ (executeAll advances function.body.statements)).bind fun outcome => ?_
  cases outcome with
  | returned value => exact pure _
  | done value => exact pure _

theorem callForm (callee : Value) (arguments : List Value) (name : Option String) :
    Advances step (Machine.call parts callee arguments name) (Machine.call other callee arguments name) := by
  unfold Machine.call
  cases callee with
  | lambda lambda =>
      exact after (.requireCount _ _ _) fun _ => inCallScope _ _ _ (evaluate advances lambda.body)
  | function function => exact callFunction advances function arguments
  | builtin builtin => exact takingFaults _ (apply (fun callee given => call advances callee given none) _ _)
  | _ => exact calm (.throw _)

end Calls

section Statements

theorem block (body : Block) : Advances step (Machine.block parts body) (Machine.block other body) :=
  inNewScope (executeAll advances body.statements)

theorem texts (exprs : List Expr) : Advances step (Machine.texts parts exprs) (Machine.texts other exprs) := by
  induction exprs with
  | nil => exact pure _
  | cons expr rest ih =>
      exact (evaluate advances expr).bind fun _ => after (.shown _) fun _ => ih.bind fun _ => pure _

theorem chooseBranch (otherwise : Option Block) (branches : List (Branch Stmt)) :
    Advances step (Machine.chooseBranch parts otherwise branches)
      (Machine.chooseBranch other otherwise branches) := by
  induction branches with
  | nil =>
      cases otherwise with
      | none => exact pure _
      | some body => exact block advances body
  | cons branch rest ih => exact (evaluate advances _).bind fun _ => both (block advances _) ih

theorem choose (condition : Expr) (body : Block) (branches : List (Branch Stmt)) (otherwise : Option Block) :
    Advances step (Machine.choose parts condition body branches otherwise)
      (Machine.choose other condition body branches otherwise) :=
  (evaluate advances condition).bind fun _ => both (block advances body) (chooseBranch advances _ _)

theorem whileRounds (condition : Expr) (body : List Stmt) (rounds : Nat) :
    Advances step (Machine.whileRounds parts condition body rounds)
      (Machine.whileRounds other condition body rounds) := by
  induction rounds with
  | zero => exact calm (.throw _)
  | succ rounds ih =>
      refine (evaluate advances condition).bind fun _ => both ?_ (pure _)
      refine (executeAll advances body).bind fun outcome => ?_
      cases outcome with
      | returned value => exact pure _
      | done value => exact ih

theorem rangeRounds (counter : String) (size last : Float) (body : List Stmt) (rounds : Nat)
    (current : Float) : Advances step (Machine.rangeRounds parts counter size last body rounds current)
      (Machine.rangeRounds other counter size last body rounds current) := by
  induction rounds generalizing current with
  | zero => exact calm (.throw _)
  | succ rounds ih =>
      refine both (after (.define _ _) fun _ => ?_) (pure _)
      refine (executeAll advances body).bind fun outcome => ?_
      cases outcome with
      | returned value => exact pure _
      | done value => exact ih _

theorem loopStep (size : Option Expr) :
    Advances step (Machine.loopStep parts size) (Machine.loopStep other size) := by
  cases size with
  | none => exact pure _
  | some expr => exact (number advances _ expr).bind fun _ => both (calm (.failAt _ _)) (pure _)

theorem forRange (rounds : Nat) (counter : String) (first last : Expr) (size : Option Expr) (body : Block) :
    Advances step (Machine.forRange parts rounds counter first last size body)
      (Machine.forRange other rounds counter first last size body) :=
  (number advances _ first).bind fun _ => (number advances _ last).bind fun _ =>
    (loopStep advances size).bind fun _ => inNewScope (after (.define _ _) fun _ =>
      rangeRounds advances _ _ _ _ _ _)

theorem eachRound (item : String) (body : List Stmt) (items : List Value) :
    Advances step (Machine.eachRound parts item body items) (Machine.eachRound other item body items) := by
  induction items with
  | nil => exact pure _
  | cons value rest ih =>
      refine after (.define _ _) fun _ => (executeAll advances body).bind fun outcome => ?_
      cases outcome with
      | returned value => exact pure _
      | done value => exact ih

theorem forEach (item : String) (items : Expr) (body : Block) :
    Advances step (Machine.forEach parts item items body) (Machine.forEach other item items body) := by
  refine (evaluate advances items).bind fun value => ?_
  split
  · exact inNewScope (eachRound advances _ _ _)
  · exact calm (.failAt _ _)

theorem giveBack (value : Option Expr) :
    Advances step (Machine.giveBack parts value) (Machine.giveBack other value) := by
  cases value with
  | none => exact pure _
  | some expr => exact (evaluate advances expr).bind fun _ => pure _

theorem signedAmount (posting : Posting) :
    Advances step (Machine.signedAmount parts posting) (Machine.signedAmount other posting) :=
  (number advances _ posting.amount).bind fun _ => pure _

theorem description (words : Option Expr) :
    Advances step (Machine.description parts words) (Machine.description other words) := by
  cases words with
  | none => exact pure _
  | some expr => exact text advances _ expr

theorem holdingAmounts (name : String) (holdings : List Posting) :
    Advances step (Machine.holdingAmounts parts name holdings)
      (Machine.holdingAmounts other name holdings) := by
  induction holdings with
  | nil => exact pure _
  | cons holding rest ih =>
      exact (signedAmount advances holding).bind fun _ => both (calm (.failAt _ _)) (ih.bind fun _ => pure _)

theorem declarePortfolio (span : Source.Span) (name : String) (holdings : List Posting) :
    Advances step (Machine.declarePortfolio parts span name holdings)
      (Machine.declarePortfolio other span name holdings) :=
  (holdingAmounts advances name holdings).bind fun _ => after (.liftFault _) fun _ =>
    both (calm (.failAt _ _)) (after (.lift _) fun _ => after (.define _ _) fun _ => pure _)

theorem scenarioResult (body : Block) :
    Advances step (Machine.scenarioResult parts body) (Machine.scenarioResult other body) :=
  (executeAll advances body.statements).bind fun _ => after (.lookupLocal _) fun _ => pure _

theorem runScenario (span : Source.Span) (scenario model : String) :
    Advances step (Machine.runScenario parts span scenario model)
      (Machine.runScenario other span scenario model) := by
  refine after (.findScenario span scenario) fun body => after (.findModel span model) fun function => ?_
  have inner : Advances step (Eval.inNewScope do
      let result ← Machine.scenarioResult parts body
      parts.call function (modelArguments function result (← localBindings)) (some model))
      (Eval.inNewScope do
      let result ← Machine.scenarioResult other body
      other.call function (modelArguments function result (← localBindings)) (some model)) :=
    inNewScope ((scenarioResult advances body).bind fun _ => get fun _ => call advances _ _ _)
  exact inner.bind fun _ => after (.shown _) fun _ => after (.write _) fun _ => pure _

theorem simulationRun (body : Block) (size : Float) (iteration : Nat) :
    Advances step (Machine.simulationRun parts body size iteration)
      (Machine.simulationRun other body size iteration) :=
  inNewScope (after (.define _ _) fun _ => after (.define _ _) fun _ => scenarioResult advances body)

theorem simulationRuns (body : Block) (size : Float) (runs iteration : Nat) :
    Advances step (Machine.simulationRuns parts body size runs iteration)
      (Machine.simulationRuns other body size runs iteration) := by
  induction runs generalizing iteration with
  | zero => exact pure _
  | succ runs ih => exact (simulationRun advances body size iteration).bind fun _ => (ih _).bind fun _ => pure _

theorem runCount (runs : Option Expr) :
    Advances step (Machine.runCount parts runs) (Machine.runCount other runs) := by
  cases runs with
  | none => exact pure _
  | some expr => exact whole advances _ expr

theorem simulate (span : Source.Span) (scenario : String) (runs size : Option Expr) :
    Advances step (Machine.simulate parts span scenario runs size)
      (Machine.simulate other span scenario runs size) :=
  after (.findScenario span scenario) fun _ => (runCount advances runs).bind fun _ =>
    (numberOr advances _ _ size).bind fun _ => both (calm (.failAt _ _))
      ((simulationRuns advances _ _ _ _).bind fun _ => after (.shown _) fun _ => after (.write _) fun _ =>
        after (.bindResults _) fun _ => pure _)

theorem statementForm (rounds : Nat) (stmt : Stmt) (apart : ∀ posting, stmt ≠ .post posting) :
    Advances step (Machine.statementForm parts rounds stmt) (Machine.statementForm other rounds stmt) := by
  cases stmt with
  | block body => exact block advances body
  | define span name value => exact (evaluate advances value).bind fun _ => after (.define _ _) fun _ => pure _
  | assign span name value => exact (evaluate advances value).bind fun _ => after (.assign _ _) fun _ => pure _
  | print span values log => exact (texts advances values).bind fun _ => after (.write _) fun _ => pure _
  | evaluate expr => exact (evaluate advances expr).bind fun _ => pure _
  | choose span condition body branches otherwise => exact choose advances condition body branches otherwise
  | repeatWhile span condition body => exact inNewScope (whileRounds advances condition _ rounds)
  | forRange span counter first last size body => exact forRange advances rounds counter first last size body
  | forEach span item items body => exact forEach advances item items body
  | giveBack span value => exact giveBack advances value
  | function span name parameters body =>
      exact after .newIdentity fun _ => get fun _ => after (.define _ _) fun _ => pure _
  | importPath span path name => exact after (.define _ _) fun _ => pure _
  | invalid span text => exact pure _
  | post posting => exact absurd rfl (apart posting)
  | portfolio span name holdings => exact declarePortfolio advances span name holdings
  | scenario span name body => exact after (.define _ _) fun _ => pure _
  | run span scenario model => exact runScenario advances span scenario model
  | simulate span scenario runs size => exact simulate advances span scenario runs size

section Posting

variable (opened : ∀ ledgers, step ledgers (ledgers.push []))
  (entered : ∀ ledgers account entry, step ledgers (Ledgers.post ledgers account entry))

include opened

omit advances in
theorem accountLedger (account : String) :
    Advances step (Machine.accountLedger account) (Machine.accountLedger account) := by
  refine after (.lookupLocal account) fun bound => ?_
  split
  · exact pure _
  · exact ⟨fun machine => .single (opened machine.ledgers), fun _ => .inl rfl⟩

include entered

theorem post (posting : Posting) :
    Advances step (Machine.post parts posting) (Machine.post other posting) := by
  refine (signedAmount advances posting).bind fun amount => (description advances _).bind fun words =>
    (accountLedger opened posting.account).bind fun account => get fun machine => ?_
  have enters : Advances step (Eval.post account (Entry.ofAmount machine.today amount words))
      (Eval.post account (Entry.ofAmount machine.today amount words)) :=
    ⟨fun machine => .single (entered machine.ledgers account _), fun _ => .inl rfl⟩
  exact enters.bind fun _ => after (.define _ _) fun _ => pure _

end Posting

end Statements

theorem performed (rounds : Nat) (task : Task) (apart : ∀ posting, task ≠ .execute (.post posting)) :
    Advances step ((parts.deepen rounds).answer task) ((other.deepen rounds).answer task) := by
  cases task with
  | evaluate expr => exact (located expr.span (expressionForm advances expr)).bind fun _ => pure _
  | execute stmt =>
      refine located stmt.span (statementForm advances rounds stmt fun posting same => ?_)
      exact apart posting (congrArg Task.execute same)
  | call callee arguments name => exact (callForm advances callee arguments name).bind fun _ => pure _

-- So it is for postings as well, where it is a step to open a ledger and one to make an entry.
theorem performed_always (opened : ∀ ledgers, step ledgers (ledgers.push []))
    (entered : ∀ ledgers account entry, step ledgers (Ledgers.post ledgers account entry))
    (rounds : Nat) (task : Task) :
    Advances step ((parts.deepen rounds).answer task) ((other.deepen rounds).answer task) := by
  by_cases posts : ∃ posting, task = .execute (.post posting)
  · obtain ⟨posting, rfl⟩ := posts
    exact located _ (post advances opened entered posting)
  · exact performed advances rounds task fun posting same => posts ⟨posting, same⟩

end Advances

end Fiscal
