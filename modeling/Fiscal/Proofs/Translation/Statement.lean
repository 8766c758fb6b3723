import Fiscal.Proofs.Machine.Statement
import Fiscal.Proofs.Translation.Expression

set_option autoImplicit false

namespace Fiscal.Translation

open Machine

variable {move : Translation}

namespace Agrees

variable {machine twin : Machine}

theorem nothing : move.Agrees move.outcome move.law.HoldsOutcome machine twin (Pure.pure Outcome.nothing)
    (Pure.pure Outcome.nothing) :=
  .pureSame _ (congrArg Outcome.done move.value_null) fun _ => move.law.simple _ _ rfl

theorem stays (value : Value) (inner : Machine) (scope : Nat) (knows : move.law.holds inner value) :
    move.law.holds (inner.returning scope) value :=
  move.law.anywhere inner scope value knows

theorem defineAs (name : String) (value counterpart : Value) (same : move.value value = counterpart)
    (knows : move.law.holds machine value) :
    move.Agrees id Law.Any machine twin (Eval.define name value) (Eval.define name counterpart) := by
  subst same
  exact define name value knows

theorem defineSimple (name : String) (value : Value) (simple : value.isSimple = true) :
    move.Agrees id Law.Any machine twin (Eval.define name value) (Eval.define name value) :=
  defineAs name value value (move.simple value simple) (move.law.simple machine value simple)

theorem function (span : Source.Span) (name : String) (parameters : List String) (body : Block)
    (asked : move.law.stmt (.function span name parameters body)) :
    move.Agrees move.outcome move.law.HoldsOutcome machine twin (Machine.function name parameters body)
      (Machine.function name parameters (move.body body)) := by
  refine newIdentity.bind fun identity after next _ counted => ?_
  refine assuming fun sound pairs => .get ?_
  have knows := move.law.function after identity span name parameters body sound counted asked
  rw [move.current after next pairs]
  exact (defineAs name _ _ (move.function _) knows).bindSame fun _ _ _ _ _ => nothing

theorem accountLedger (account : String) :
    move.Agrees move.ledgers (fun after ledger => move.law.holds after (.ledger ledger)) machine twin
      (accountLedger account) (accountLedger account) := by
  refine (lookupLocal account).bind fun found _ _ _ known => ?_
  cases found with
  | none => exact newLedger
  | some value =>
      rw [Option.map_some]
      cases value with
      | ledger ledger =>
          rw [move.ledger]
          exact .pure ledger fun _ => known _ rfl
      | function | lambda | block | table | portfolio | list | object =>
          simp only [move.function, move.lambda, move.block, move.table, move.portfolio, value_list, value_object]
          exact newLedger
      | null | number | text | bool | cashflow | entry | builtin =>
          rw [move.simple _ rfl]
          exact newLedger

theorem findScenario (span : Source.Span) (name : String) :
    move.Agrees move.body (fun after body => move.law.holds after (.block body)) machine twin
      (findScenario span name) (findScenario span name) := by
  refine (isBound name).bindSame fun bound _ _ _ _ => ?_
  cases bound with
  | false => exact failAt _ span
  | true =>
      refine (lookup name).bind fun value _ _ _ knows => ?_
      cases value with
      | block body =>
          rw [move.block]
          exact .pure body fun _ => knows
      | function | lambda | ledger | table | portfolio | list | object =>
          simp only [move.function, move.lambda, move.ledger, move.table, move.portfolio, value_list, value_object]
          exact failAt _ span
      | null | number | text | bool | cashflow | entry | builtin =>
          rw [move.simple _ rfl]
          exact failAt _ span

theorem findModel (span : Source.Span) (name : String) :
    move.Agrees move.value move.law.holds machine twin (findModel span name) (findModel span name) := by
  refine (isBound name).bindSame fun bound _ _ _ _ => ?_
  cases bound with
  | false => exact failAt _ span
  | true =>
      refine (lookup name).bind fun value _ _ _ knows => ?_
      rw [isCallable_value, kindName_value]
      by_cases callable : value.isCallable = true
      · rw [if_pos callable, if_pos callable]
        exact .pure value fun _ => knows
      · rw [if_neg callable, if_neg callable]
        exact failAt _ span

theorem localBindings :
    move.Agrees move.named (fun after bindings => ∀ binding ∈ bindings, move.law.holds after binding.2) machine twin
      localBindings localBindings := by
  refine assuming fun sound pairs => .get ?_
  rw [move.current machine twin pairs, move.found machine twin machine.current sound pairs .refl]
  cases access : machine.scopes[machine.current]? with
  | none => exact .pure [] fun _ binding member => by cases member
  | some scope =>
      refine .pure scope.bindings fun _ binding member => ?_
      exact move.law.found machine machine.current binding.2 sound .refl ⟨scope, binding.1, access, member⟩

theorem bindResults (results : Value) (knows : move.law.holds machine results) :
    move.Agrees id Law.Any machine twin (bindResults results) (bindResults (move.value results)) := by
  refine assuming fun _ pairs => .get ?_
  rw [(move.given machine twin pairs).2.1]
  cases machine.settings.resultsName with
  | text name => exact define name results knows
  | list items => exact .throw _
  | mapping entries => exact .throw _
  | _ => exact .pure _ fun _ => trivial

section Parts

variable {parts : Evaluator} (keeps : move.Parts parts)

include keeps

theorem statements (body : Block) (asked : ∀ stmt ∈ body.statements, move.law.stmt stmt) :
    move.Agrees move.outcome move.law.HoldsOutcome machine twin (parts.executeAll body.statements)
      (parts.executeAll (move.body body).statements) :=
  executeAll keeps (move.rewritten body) asked

theorem block (body : Block) (asked : ∀ stmt ∈ body.statements, move.law.stmt stmt) :
    move.Agrees move.outcome move.law.HoldsOutcome machine twin (Machine.block parts body)
      (Machine.block parts (move.body body)) :=
  inNewScope Law.Follows.stays_outcome (statements keeps body asked)

theorem texts (exprs : List Expr) :
    move.Agrees id Law.Any machine twin (texts parts exprs) (texts parts exprs) := by
  induction exprs generalizing machine twin with
  | nil => exact .pure _ fun _ => trivial
  | cons expr rest ih =>
      refine (keeps.evaluate expr machine twin).bind fun value _ _ _ _ => ?_
      refine (shown value).bindSame fun _ _ _ _ _ => ?_
      exact ih.bindSame fun _ _ _ _ _ => .pure _ fun _ => trivial

theorem print (values : List Expr) (log : Bool) :
    move.Agrees move.outcome move.law.HoldsOutcome machine twin (print parts values log)
      (print parts values log) := by
  refine (texts keeps values).bindSame fun _ _ _ _ _ => ?_
  exact (write _).bindSame fun _ _ _ _ _ => nothing

theorem chooseBranch (otherwise : Option Block) (branches : List (Branch Stmt))
    (asked : ∀ branch ∈ branches, ∀ stmt ∈ branch.body.statements, move.law.stmt stmt)
    (askedLast : ∀ body ∈ otherwise, ∀ stmt ∈ body.statements, move.law.stmt stmt) :
    move.Agrees move.outcome move.law.HoldsOutcome machine twin (chooseBranch parts otherwise branches)
      (chooseBranch parts (otherwise.map move.body)
        (branches.map fun branch => ⟨branch.span, branch.condition, move.body branch.body⟩)) := by
  induction branches generalizing machine twin with
  | nil =>
      cases otherwise with
      | none => exact nothing
      | some body => exact block keeps body (askedLast body rfl)
  | cons branch rest ih =>
      obtain ⟨first, others⟩ := List.forall_mem_cons.mp asked
      refine (keeps.evaluate branch.condition machine twin).bind fun value _ _ _ _ => ?_
      rw [isTruthy_value]
      by_cases holds : value.isTruthy = true
      · rw [if_pos holds, if_pos holds]
        exact block keeps branch.body first
      · rw [if_neg holds, if_neg holds]
        exact ih others

theorem choose (condition : Expr) (body : Block) (branches : List (Branch Stmt)) (otherwise : Option Block)
    (own : ∀ stmt ∈ body.statements, move.law.stmt stmt)
    (asked : ∀ branch ∈ branches, ∀ stmt ∈ branch.body.statements, move.law.stmt stmt)
    (askedLast : ∀ body ∈ otherwise, ∀ stmt ∈ body.statements, move.law.stmt stmt) :
    move.Agrees move.outcome move.law.HoldsOutcome machine twin
      (choose parts condition body branches otherwise)
      (choose parts condition (move.body body)
        (branches.map fun branch => ⟨branch.span, branch.condition, move.body branch.body⟩)
        (otherwise.map move.body)) := by
  refine (keeps.evaluate condition machine twin).bind fun value _ _ _ _ => ?_
  rw [isTruthy_value]
  by_cases holds : value.isTruthy = true
  · rw [if_pos holds, if_pos holds]
    exact block keeps body own
  · rw [if_neg holds, if_neg holds]
    exact chooseBranch keeps otherwise branches asked askedLast

theorem loopStep (step : Option Expr) :
    move.Agrees id Law.Any machine twin (loopStep parts step) (loopStep parts step) := by
  cases step with
  | none => exact .pure _ fun _ => trivial
  | some expr =>
      refine (number keeps "FOR step" expr).bindSame fun size _ _ _ _ => ?_
      by_cases zero : (size == 0) = true
      · rw [if_pos zero]
        exact failAt _ expr.span
      · rw [if_neg zero]
        exact .pure _ fun _ => trivial

section Loops

variable (body : Block) (asked : ∀ stmt ∈ body.statements, move.law.stmt stmt)

include asked

theorem whileRounds (condition : Expr) (rounds : Nat) :
    move.Agrees move.outcome move.law.HoldsOutcome machine twin
      (whileRounds parts condition body.statements rounds)
      (whileRounds parts condition (move.body body).statements rounds) := by
  induction rounds generalizing machine twin with
  | zero => exact .throw _
  | succ rounds ih =>
      refine (keeps.evaluate condition machine twin).bind fun value _ _ _ _ => ?_
      rw [isTruthy_value]
      by_cases holds : value.isTruthy = true
      · rw [if_pos holds, if_pos holds]
        refine (statements keeps body asked).bind fun outcome _ _ _ knows => ?_
        cases outcome with
        | returned value => exact .pure (Outcome.returned value) fun _ => knows
        | done value => exact ih
      · rw [if_neg holds, if_neg holds]
        exact nothing

theorem rangeRounds (counter : String) (step last : Float) (rounds : Nat) (current : Float) :
    move.Agrees move.outcome move.law.HoldsOutcome machine twin
      (rangeRounds parts counter step last body.statements rounds current)
      (rangeRounds parts counter step last (move.body body).statements rounds current) := by
  induction rounds generalizing machine twin current with
  | zero => exact .throw _
  | succ rounds ih =>
      unfold Machine.rangeRounds
      by_cases inside : inRange step last current = true
      · rw [if_pos inside, if_pos inside]
        refine (defineSimple counter (.number current) rfl).bindSame fun _ _ _ _ _ => ?_
        refine (statements keeps body asked).bind fun outcome _ _ _ knows => ?_
        cases outcome with
        | returned value => exact .pure (Outcome.returned value) fun _ => knows
        | done value => exact ih (current + step)
      · rw [if_neg inside, if_neg inside]
        exact nothing

theorem eachRound (item : String) (values : List Value) (known : move.KnowsAll machine values) :
    move.Agrees move.outcome move.law.HoldsOutcome machine twin (eachRound parts item body.statements values)
      (eachRound parts item (move.body body).statements (values.map move.value)) := by
  induction values generalizing machine twin with
  | nil => exact nothing
  | cons value rest ih =>
      obtain ⟨first, others⟩ := List.forall_mem_cons.mp known
      refine (define item value first).bindSame fun _ _ _ kept _ => ?_
      refine (statements keeps body asked).bind fun outcome _ _ keptAgain knows => ?_
      cases outcome with
      | returned value => exact .pure (Outcome.returned value) fun _ => knows
      | done value => exact ih fun other member => keptAgain _ (kept _ (others other member))

theorem forRange (rounds : Nat) (counter : String) (low high : Expr) (step : Option Expr) :
    move.Agrees move.outcome move.law.HoldsOutcome machine twin
      (forRange parts rounds counter low high step body)
      (forRange parts rounds counter low high step (move.body body)) := by
  refine (number keeps "FOR start" low).bindSame fun start _ _ _ _ => ?_
  refine (number keeps "FOR end" high).bindSame fun last _ _ _ _ => ?_
  refine (loopStep keeps step).bindSame fun size _ _ _ _ => ?_
  refine inNewScope Law.Follows.stays_outcome ?_
  refine (defineSimple counter (.number start) rfl).bindSame fun _ _ _ _ _ => ?_
  exact rangeRounds keeps body asked counter size last rounds start

theorem forEach (item : String) (items : Expr) :
    move.Agrees move.outcome move.law.HoldsOutcome machine twin (forEach parts item items body)
      (forEach parts item items (move.body body)) := by
  refine (keeps.evaluate items machine twin).bind fun value after _ _ knows => ?_
  rw [loopItems_value, kindName_value]
  cases found : loopItems? value with
  | none => exact failAt _ items.span
  | some listed =>
      have known := Law.Follows.holds_loopItems value listed knows found
      refine assuming fun sound _ => ?_
      have entered := (move.law.entered after after.current sound .current).2
      refine inNewScope Law.Follows.stays_outcome ?_
      exact eachRound keeps body asked item listed fun value member => entered value (known value member)

end Loops

theorem giveBack (value : Option Expr) :
    move.Agrees move.outcome move.law.HoldsOutcome machine twin (giveBack parts value) (giveBack parts value) := by
  cases value with
  | none => exact .pureSame _ (congrArg Outcome.returned move.value_null) fun _ => move.law.simple _ _ rfl
  | some expr =>
      refine (keeps.evaluate expr machine twin).bind fun value _ _ _ knows => ?_
      exact .pure (Outcome.returned value) fun _ => knows

theorem signedAmount (posting : Posting) :
    move.Agrees id Law.Any machine twin (signedAmount parts posting) (signedAmount parts posting) :=
  (number keeps _ posting.amount).bindSame fun _ _ _ _ _ => .pure _ fun _ => trivial

theorem description (given : Option Expr) :
    move.Agrees id Law.Any machine twin (description parts given) (description parts given) := by
  cases given with
  | none => exact .pure _ fun _ => trivial
  | some expr => exact text keeps "entry description" expr

theorem posting (posting : Posting) :
    move.Agrees move.outcome move.law.HoldsOutcome machine twin (Machine.post parts posting)
      (Machine.post parts posting) := by
  refine (signedAmount keeps posting).bindSame fun amount _ _ _ _ => ?_
  refine (description keeps posting.description).bindSame fun words _ _ _ _ => ?_
  refine (accountLedger posting.account).bind fun ledger after next _ knows => ?_
  refine assuming fun _ pairs => .get ?_
  rw [(move.given after next pairs).2.2, ← move.ledger ledger]
  refine (post ledger _).bindSame fun _ _ _ kept _ => ?_
  exact (define posting.account (.ledger ledger) (kept _ knows)).bindSame fun _ _ _ _ _ => nothing

theorem holdingAmounts (name : String) (holdings : List Posting) :
    move.Agrees id Law.Any machine twin (holdingAmounts parts name holdings)
      (holdingAmounts parts name holdings) := by
  induction holdings generalizing machine twin with
  | nil => exact .pure _ fun _ => trivial
  | cons holding others ih =>
      refine (signedAmount keeps holding).bindSame fun amount _ _ _ _ => ?_
      by_cases negative : amount < 0
      · rw [if_pos negative]
        exact failAt _ holding.span
      · rw [if_neg negative]
        exact ih.bindSame fun _ _ _ _ _ => .pure _ fun _ => trivial

theorem declarePortfolio (span : Source.Span) (name : String) (holdings : List Posting) :
    move.Agrees move.outcome move.law.HoldsOutcome machine twin (declarePortfolio parts span name holdings)
      (declarePortfolio parts span name holdings) := by
  refine (holdingAmounts keeps name holdings).bindSame fun amounts _ _ _ _ => ?_
  refine (liftSame rfl).bindSame fun total _ _ _ _ => ?_
  by_cases empty : (amounts.isEmpty || total == 0) = true
  · rw [if_pos empty]
    exact failAt _ span
  · rw [if_neg empty]
    refine (liftOk _).bindSame fun built after _ _ made => ?_
    have knows := move.law.portfolio after _ _ _ built made
    exact (defineAs name _ _ (move.portfolio built) knows).bindSame fun _ _ _ _ _ => nothing

theorem scenarioResult (body : Block) (asked : ∀ stmt ∈ body.statements, move.law.stmt stmt) :
    move.Agrees move.value move.law.holds machine twin (scenarioResult parts body)
      (scenarioResult parts (move.body body)) := by
  refine (statements keeps body asked).bind fun _ _ _ _ _ => ?_
  refine (lookupLocal "result").bind fun found _ _ _ known => ?_
  cases found with
  | none => exact .plain _ rfl
  | some value => exact .pure value fun _ => known value rfl

theorem runScenario (span : Source.Span) (scenario model : String) :
    move.Agrees move.outcome move.law.HoldsOutcome machine twin (runScenario parts span scenario model)
      (runScenario parts span scenario model) := by
  refine (findScenario span scenario).bind fun body first _ _ knowsBody => ?_
  have asked := move.law.blockBody first body knowsBody
  refine (findModel span model).bind fun callee after next _ knows => ?_
  have inside (sound : move.law.sound after) :
      move.Agrees move.value move.law.holds (after.entering after.current) (next.entering next.current)
        (do
          let result ← Machine.scenarioResult parts body
          parts.call callee (modelArguments callee result (← Machine.localBindings)) (some model))
        (do
          let result ← Machine.scenarioResult parts (move.body body)
          parts.call (move.value callee) (modelArguments (move.value callee) result (← Machine.localBindings))
            (some model)) := by
    have entered := (move.law.entered after after.current sound .current).2
    refine (scenarioResult keeps body asked).bind fun result _ _ keptResult knowsResult => ?_
    refine localBindings.bind fun bindings last _ keptBindings known => ?_
    rw [modelArguments_value]
    refine keeps.call callee _ _ last _ ?_ ?_
    · exact keptBindings _ (keptResult _ (entered _ knows))
    · exact Law.Follows.holds_modelArguments callee result bindings (keptBindings _ knowsResult) known
  refine assuming fun sound _ => ?_
  refine (inNewScope stays (inside sound)).bind fun value _ _ _ _ => ?_
  refine (shown value).bindSame fun _ _ _ _ _ => ?_
  exact (write _).bindSame fun _ _ _ _ _ => nothing

theorem simulationRun (body : Block) (asked : ∀ stmt ∈ body.statements, move.law.stmt stmt) (step : Float)
    (iteration : Nat) :
    move.Agrees move.value move.law.holds machine twin (simulationRun parts body step iteration)
      (simulationRun parts (move.body body) step iteration) := by
  refine inNewScope stays ?_
  refine (defineSimple "iteration" (.number _) rfl).bindSame fun _ _ _ _ _ => ?_
  refine (defineSimple "elapsed" (.number _) rfl).bindSame fun _ _ _ _ _ => ?_
  exact scenarioResult keeps body asked

theorem simulationRuns (body : Block) (asked : ∀ stmt ∈ body.statements, move.law.stmt stmt) (step : Float)
    (runs iteration : Nat) :
    move.Agrees (List.map move.value) move.KnowsAll machine twin (simulationRuns parts body step runs iteration)
      (simulationRuns parts (move.body body) step runs iteration) := by
  induction runs generalizing machine twin iteration with
  | zero => exact .pure _ fun _ value member => by cases member
  | succ runs ih =>
      refine (simulationRun keeps body asked step iteration).bind fun result _ _ _ knows => ?_
      refine (ih (iteration + 1)).bind fun results _ _ kept known => ?_
      exact .pure (result :: results) fun _ => List.forall_mem_cons.mpr ⟨kept _ knows, known⟩

theorem runCount (runs : Option Expr) :
    move.Agrees id Law.Any machine twin (runCount parts runs) (runCount parts runs) := by
  cases runs with
  | none => exact .pure _ fun _ => trivial
  | some expr => exact whole keeps "SIMULATE run count" expr

theorem simulate (span : Source.Span) (scenario : String) (runs step : Option Expr) :
    move.Agrees move.outcome move.law.HoldsOutcome machine twin (simulate parts span scenario runs step)
      (simulate parts span scenario runs step) := by
  refine (findScenario span scenario).bind fun body first _ _ knowsBody => ?_
  have asked := move.law.blockBody first body knowsBody
  refine (runCount keeps runs).bindSame fun count _ _ _ _ => ?_
  refine (numberOr keeps _ 1 step).bindSame fun size _ _ _ _ => ?_
  by_cases negative : count < 0
  · rw [if_pos negative, if_pos negative]
    exact failAt _ _
  · rw [if_neg negative, if_neg negative]
    refine (simulationRuns keeps body asked size count.toNat 0).bind fun values after _ _ known => ?_
    rw [← value_list]
    refine (shown (.list values)).bindSame fun line _ _ keptShown _ => ?_
    refine (write _).bindSame fun _ _ _ keptWritten _ => ?_
    refine (bindResults (.list values) ?_).bindSame fun _ _ _ _ _ => nothing
    exact keptWritten _ (keptShown _ ((move.law.list _ values).mpr known))

theorem statementForm (rounds : Nat) (stmt : Stmt) (asked : move.law.stmt stmt) :
    move.Agrees move.outcome move.law.HoldsOutcome machine twin (statementForm parts rounds stmt)
      (statementForm parts rounds (stmt.onBodies move.body)) := by
  have inner := move.law.statements stmt asked
  cases stmt with
  | block body => exact block keeps body inner
  | define span name value =>
      refine (keeps.evaluate value machine twin).bind fun result _ _ _ knows => ?_
      exact (define name result knows).bindSame fun _ _ _ _ _ => nothing
  | assign span name value =>
      refine (keeps.evaluate value machine twin).bind fun result _ _ _ knows => ?_
      exact (assign name result knows).bindSame fun _ _ _ _ _ => nothing
  | print span values log => exact print keeps values log
  | evaluate expr =>
      refine (keeps.evaluate expr machine twin).bind fun value _ _ _ knows => ?_
      exact .pure (Outcome.done value) fun _ => knows
  | choose span condition body branches otherwise =>
      obtain ⟨front, last⟩ := List.forall_mem_append.mp inner
      obtain ⟨own, others⟩ := List.forall_mem_append.mp front
      refine choose keeps condition body branches otherwise own (fun branch member stmt inside => ?_)
        fun body member stmt inside => ?_
      · exact others stmt (List.mem_flatMap.mpr ⟨branch, member, inside⟩)
      · exact last stmt (List.mem_flatMap.mpr ⟨body, Option.mem_toList.mpr member, inside⟩)
  | repeatWhile span condition body =>
      exact inNewScope Law.Follows.stays_outcome (whileRounds keeps body inner condition rounds)
  | forRange span counter low high step body => exact forRange keeps body inner rounds counter low high step
  | forEach span item items body => exact forEach keeps body inner item items
  | giveBack span value => exact giveBack keeps value
  | function span name parameters body => exact function span name parameters body asked
  | importPath span path name => exact (defineSimple name (.text path) rfl).bindSame fun _ _ _ _ _ => nothing
  | invalid span reason => exact nothing
  | post entry => exact posting keeps entry
  | portfolio span name holdings => exact declarePortfolio keeps span name holdings
  | scenario span name body =>
      have knows := move.law.block machine span name body asked
      exact (defineAs name _ _ (move.block body) knows).bindSame fun _ _ _ _ _ => nothing
  | run span scenario model => exact runScenario keeps span scenario model
  | simulate span scenario runs step => exact simulate keeps span scenario runs step

end Parts

end Agrees

namespace Parts

theorem deepen {parts : Evaluator} (keeps : move.Parts parts) (rounds : Nat) :
    move.Parts (parts.deepen rounds) where
  invalid _ _ _ := rfl
  evaluate expr _ _ := Agrees.expression keeps expr
  execute stmt _ _ asked := by
    change move.Agrees move.outcome move.law.HoldsOutcome _ _ (Machine.statement parts rounds stmt)
      (Machine.statement parts rounds (stmt.onBodies move.body))
    unfold Machine.statement
    rw [Stmt.onBodies_span move.spans]
    exact .located stmt.span (Agrees.statementForm keeps rounds stmt asked)
  call callee arguments name _ _ knows known := Agrees.call keeps callee arguments name knows known

theorem exhausted (keeps : ¬ move.omits) : move.Parts .exhausted where
  invalid _ _ omits := absurd omits keeps
  evaluate _ _ _ := .throw _
  execute _ _ _ _ := .throw _
  call _ _ _ _ _ _ _ := .throw _

theorem ofDepth (move : Translation) (keeps : ¬ move.omits) (rounds depth : Nat) :
    move.Parts (.ofDepth rounds depth) := by
  induction depth with
  | zero => exact exhausted keeps
  | succ depth ih => exact ih.deepen rounds

end Parts

end Fiscal.Translation
