import Fiscal.Proofs.Machine.Call
import Fiscal.Proofs.Machine.Expression

set_option autoImplicit false

namespace Fiscal

open Machine

namespace Law.Follows

variable {law : Law} {declares : Bool} {machine : Machine}

theorem stays_outcome (outcome : Outcome) (inner : Machine) (scope : Nat)
    (held : law.HoldsOutcome inner outcome) : law.HoldsOutcome (inner.returning scope) outcome :=
  law.anywhere inner scope outcome.value held

theorem nothing : law.Follows declares law.HoldsOutcome machine (Pure.pure Outcome.nothing)
    (Pure.pure Outcome.nothing) :=
  .pure _ fun _ => law.simple machine _ rfl

theorem holds_loopItems (value : Value) (items : List Value) (held : law.holds machine value)
    (found : loopItems? value = some items) : law.HoldsAll machine items := by
  cases value with
  | list =>
      cases found
      exact (law.list machine _).mp held
  | text value =>
      cases found
      intro item member
      obtain ⟨c, _, rfl⟩ := List.mem_map.mp member
      exact law.simple machine _ rfl
  | table grid =>
      cases found
      intro item member
      obtain ⟨row, _, rfl⟩ := List.mem_map.mp member
      exact law.holds_row machine row
  | cashflow flows =>
      cases found
      exact (law.list machine _).mp (law.holds_numbers machine flows)
  | _ => cases found

theorem function (span : Source.Span) (name : String) (parameters : List String) (body : Block)
    (code : law.stmt (.function span name parameters body)) :
    law.Follows true law.HoldsOutcome machine (Machine.function name parameters body)
      (Machine.function name parameters body) := by
  refine newIdentity.bind fun identity after _ counted => .get (.assuming fun sound => ?_)
  have held := law.function after identity span name parameters body sound counted code
  exact (define name _ held).bind fun _ _ _ _ => nothing

theorem accountLedger (account : String) :
    law.Follows true (fun after ledger => law.holds after (.ledger ledger)) machine
      (accountLedger account) (accountLedger account) := by
  refine (lookupLocal account).bind fun found _ _ held => ?_
  split
  · exact .pure _ fun _ => held _ rfl
  · exact newLedger

theorem findScenario (span : Source.Span) (name : String)
    (placed : ∀ issue, law.fails (.issue issue (some span))) :
    law.Follows declares (fun after body => law.holds after (.block body)) machine
      (findScenario span name) (findScenario span name) := by
  refine (isBound name).bind fun bound _ _ _ => ?_
  cases bound with
  | false => exact failAt _ span placed
  | true =>
      refine (lookup name).bind fun value after _ held => ?_
      cases value with
      | block body => exact .pure _ fun _ => held
      | _ => exact failAt _ span placed

theorem findModel (span : Source.Span) (name : String)
    (placed : ∀ issue, law.fails (.issue issue (some span))) :
    law.Follows declares law.holds machine (findModel span name) (findModel span name) := by
  refine (isBound name).bind fun bound _ _ _ => ?_
  cases bound with
  | false => exact failAt _ span placed
  | true =>
      refine (lookup name).bind fun value after _ held => ?_
      by_cases callable : value.isCallable = true
      · rw [if_pos callable]
        exact .pure _ fun _ => held
      · rw [if_neg callable]
        exact failAt _ span placed

theorem localBindings :
    law.Follows declares (fun after bindings => ∀ binding ∈ bindings, law.holds after binding.2)
      machine localBindings localBindings := by
  refine .get (.pure _ fun sound binding member => ?_)
  cases access : machine.scopes[machine.current]? with
  | none =>
      rw [access] at member
      cases member
  | some scope =>
      rw [access] at member
      exact law.found machine machine.current binding.2 sound .refl ⟨scope, binding.1, access, member⟩

theorem holds_modelArguments (model result : Value) (bindings : Named Value)
    (held : law.holds machine result) (heldAll : ∀ binding ∈ bindings, law.holds machine binding.2) :
    law.HoldsAll machine (modelArguments model result bindings) := by
  unfold modelArguments
  split
  · intro value member
    cases member
  · refine List.forall_mem_cons.mpr ⟨held, fun value member => ?_⟩
    cases List.mem_singleton.mp member
    exact (law.object machine bindings).mpr heldAll
  · intro value member
    cases List.mem_singleton.mp member
    exact held

theorem bindResults (results : Value) (held : law.holds machine results)
    (allowed : ∀ fault, machine.settings.resultsName.unnamed? = some fault →
      law.fails (.fault fault)) :
    law.Follows true Any machine (bindResults results) (bindResults results) := by
  refine .get ?_
  cases configured : machine.settings.resultsName with
  | text name => exact define name results held
  | list items =>
      rw [configured] at allowed
      exact .throw _ (allowed _ rfl)
  | mapping entries =>
      rw [configured] at allowed
      exact .throw _ (allowed _ rfl)
  | _ => exact .pure _ fun _ => trivial

section Parts

variable {parts other : Evaluator} (keeps : law.Parts parts other)

include keeps

theorem block (body : Block) (code : ∀ stmt ∈ body.statements, law.stmt stmt) :
    law.Follows declares law.HoldsOutcome machine (Machine.block parts body)
      (Machine.block other body) :=
  inNewScope stays_outcome (executeAll keeps body.statements code)

theorem texts (exprs : List Expr) (code : ∀ expr ∈ exprs, law.expr expr) :
    law.Follows false Any machine (texts parts exprs) (texts other exprs) := by
  induction exprs generalizing machine with
  | nil => exact .pure _ fun _ => trivial
  | cons expr rest ih =>
      obtain ⟨first, others⟩ := List.forall_mem_cons.mp code
      refine (keeps.evaluate expr machine first).bind fun value _ _ _ => ?_
      refine (shown value).bind fun _ _ _ _ => ?_
      exact (ih others).bind fun _ _ _ _ => .pure _ fun _ => trivial

theorem print (values : List Expr) (log : Bool) (code : ∀ expr ∈ values, law.expr expr) :
    law.Follows false law.HoldsOutcome machine (print parts values log) (print other values log) := by
  refine (texts keeps values code).bind fun _ _ _ _ => ?_
  exact (write _).bind fun _ _ _ _ => nothing

theorem chooseBranch (otherwise : Option Block) (branches : List (Branch Stmt))
    (conditions : ∀ expr ∈ branches.map Branch.condition, law.expr expr)
    (bodies : ∀ stmt ∈ branches.flatMap (fun branch => branch.body.statements), law.stmt stmt)
    (last : ∀ stmt ∈ otherwise.toList.flatMap Body.statements, law.stmt stmt) :
    law.Follows false law.HoldsOutcome machine (chooseBranch parts otherwise branches)
      (chooseBranch other otherwise branches) := by
  induction branches generalizing machine with
  | nil =>
      cases otherwise with
      | none => exact nothing
      | some body =>
          refine block keeps body fun stmt member => last stmt ?_
          exact List.mem_flatMap.mpr ⟨body, List.mem_cons_self, member⟩
  | cons branch rest ih =>
      obtain ⟨condition, others⟩ := List.forall_mem_cons.mp conditions
      rw [List.flatMap_cons] at bodies
      obtain ⟨body, otherBodies⟩ := List.forall_mem_append.mp bodies
      refine (keeps.evaluate branch.condition machine condition).bind fun value after _ _ => ?_
      by_cases holds : value.isTruthy = true
      · rw [if_pos holds, if_pos holds]
        exact block keeps branch.body body
      · rw [if_neg holds, if_neg holds]
        exact ih others otherBodies

theorem choose (condition : Expr) (body : Block) (branches : List (Branch Stmt))
    (otherwise : Option Block) (first : law.expr condition)
    (statements : ∀ stmt ∈ body.statements, law.stmt stmt)
    (conditions : ∀ expr ∈ branches.map Branch.condition, law.expr expr)
    (bodies : ∀ stmt ∈ branches.flatMap (fun branch => branch.body.statements), law.stmt stmt)
    (last : ∀ stmt ∈ otherwise.toList.flatMap Body.statements, law.stmt stmt) :
    law.Follows false law.HoldsOutcome machine (choose parts condition body branches otherwise)
      (choose other condition body branches otherwise) := by
  refine (keeps.evaluate condition machine first).bind fun value after _ _ => ?_
  by_cases holds : value.isTruthy = true
  · rw [if_pos holds, if_pos holds]
    exact block keeps body statements
  · rw [if_neg holds, if_neg holds]
    exact chooseBranch keeps otherwise branches conditions bodies last

theorem whileRounds (condition : Expr) (body : List Stmt) (rounds : Nat) (first : law.expr condition)
    (code : ∀ stmt ∈ body, law.stmt stmt) :
    law.Follows true law.HoldsOutcome machine (whileRounds parts condition body rounds)
      (whileRounds other condition body rounds) := by
  induction rounds generalizing machine with
  | zero => exact .throw _ law.unfinished
  | succ rounds ih =>
      refine (keeps.evaluate condition machine first).declared.bind fun value after _ _ => ?_
      by_cases holds : value.isTruthy = true
      · rw [if_pos holds, if_pos holds]
        refine (executeAll keeps body code).bind fun outcome last _ held => ?_
        cases outcome with
        | returned value => exact .pure _ fun _ => held
        | done value => exact ih
      · rw [if_neg holds, if_neg holds]
        exact nothing

theorem rangeRounds (counter : String) (step last : Float) (body : List Stmt) (rounds : Nat)
    (current : Float) (code : ∀ stmt ∈ body, law.stmt stmt) :
    law.Follows true law.HoldsOutcome machine
      (rangeRounds parts counter step last body rounds current)
      (rangeRounds other counter step last body rounds current) := by
  induction rounds generalizing machine current with
  | zero => exact .throw _ law.unfinished
  | succ rounds ih =>
      unfold Machine.rangeRounds
      by_cases inside : inRange step last current = true
      · rw [if_pos inside, if_pos inside]
        refine (define counter (.number current) (law.simple machine _ rfl)).bind fun _ _ _ _ => ?_
        refine (executeAll keeps body code).bind fun outcome after _ held => ?_
        cases outcome with
        | returned value => exact .pure _ fun _ => held
        | done value => exact ih (current + step)
      · rw [if_neg inside, if_neg inside]
        exact nothing

theorem loopStep (step : Option Expr) (code : ∀ expr ∈ step.toList, law.expr expr) :
    law.Follows false Any machine (loopStep parts step) (loopStep other step) := by
  cases step with
  | none => exact .pure _ fun _ => trivial
  | some expr =>
      have given := code expr List.mem_cons_self
      refine (number keeps "FOR step" expr given).bind fun size after _ _ => ?_
      by_cases zero : (size == 0) = true
      · rw [if_pos zero]
        exact failAt _ expr.span fun issue => law.atExpr expr issue given
      · rw [if_neg zero]
        exact .pure _ fun _ => trivial

theorem forRange (rounds : Nat) (counter : String) (low high : Expr) (step : Option Expr)
    (body : Block) (first : law.expr low) (second : law.expr high)
    (third : ∀ expr ∈ step.toList, law.expr expr)
    (code : ∀ stmt ∈ body.statements, law.stmt stmt) :
    law.Follows false law.HoldsOutcome machine
      (forRange parts rounds counter low high step body)
      (forRange other rounds counter low high step body) := by
  refine (number keeps "FOR start" low first).bind fun start _ _ _ => ?_
  refine (number keeps "FOR end" high second).bind fun last _ _ _ => ?_
  refine (loopStep keeps step third).bind fun size after _ _ => ?_
  refine inNewScope stays_outcome ?_
  refine (define counter (.number start) (law.simple _ _ rfl)).bind fun _ _ _ _ => ?_
  exact rangeRounds keeps counter size last body.statements rounds start code

theorem eachRound (item : String) (body : List Stmt) (values : List Value)
    (code : ∀ stmt ∈ body, law.stmt stmt) (held : law.HoldsAll machine values) :
    law.Follows true law.HoldsOutcome machine (eachRound parts item body values)
      (eachRound other item body values) := by
  induction values generalizing machine with
  | nil => exact nothing
  | cons value rest ih =>
      obtain ⟨first, others⟩ := List.forall_mem_cons.mp held
      refine (define item value first).bind fun _ _ kept _ => ?_
      refine (executeAll keeps body code).bind fun outcome after keptAgain heldOutcome => ?_
      cases outcome with
      | returned value => exact .pure _ fun _ => heldOutcome
      | done value => exact ih fun other member => keptAgain _ (kept _ (others other member))

theorem forEach (item : String) (items : Expr) (body : Block) (first : law.expr items)
    (code : ∀ stmt ∈ body.statements, law.stmt stmt) :
    law.Follows false law.HoldsOutcome machine (forEach parts item items body)
      (forEach other item items body) := by
  refine (keeps.evaluate items machine first).bind fun value after _ held => ?_
  cases found : loopItems? value with
  | none => exact failAt _ items.span fun issue => law.atExpr items issue first
  | some listed =>
      refine .assuming fun sound => inNewScope stays_outcome ?_
      have entered := law.entered after after.current sound .current
      refine eachRound keeps item body.statements listed code fun item member => ?_
      exact entered.2 item (holds_loopItems value listed held found item member)

theorem giveBack (value : Option Expr) (code : ∀ expr ∈ value.toList, law.expr expr) :
    law.Follows false law.HoldsOutcome machine (giveBack parts value) (giveBack other value) := by
  cases value with
  | none => exact .pure _ fun _ => law.simple machine _ rfl
  | some expr =>
      refine (keeps.evaluate expr machine (code expr List.mem_cons_self)).bind fun _ _ _ held => ?_
      exact .pure _ fun _ => held

theorem signedAmount (posting : Posting) (code : ∀ expr ∈ posting.expressions, law.expr expr) :
    law.Follows false Any machine (signedAmount parts posting) (signedAmount other posting) := by
  obtain ⟨amount, _⟩ := List.forall_mem_cons.mp code
  exact (number keeps _ posting.amount amount).bind fun _ _ _ _ => .pure _ fun _ => trivial

theorem description (given : Option Expr) (code : ∀ expr ∈ given.toList, law.expr expr) :
    law.Follows false Any machine (description parts given) (description other given) := by
  cases given with
  | none => exact .pure _ fun _ => trivial
  | some expr => exact text keeps "entry description" expr (code expr List.mem_cons_self)

theorem posting (posting : Posting) (code : ∀ expr ∈ posting.expressions, law.expr expr) :
    law.Follows true law.HoldsOutcome machine (Machine.post parts posting)
      (Machine.post other posting) := by
  obtain ⟨_, described⟩ := List.forall_mem_cons.mp code
  refine (signedAmount keeps posting code).declared.bind fun amount _ _ _ => ?_
  refine (description keeps posting.description described).declared.bind fun words _ _ _ => ?_
  refine (accountLedger posting.account).bind fun ledger after _ held => .get ?_
  refine (post ledger _).bind fun _ last kept _ => ?_
  exact (define posting.account (.ledger ledger) (kept _ held)).bind fun _ _ _ _ => nothing

theorem holdingAmounts (span : Source.Span) (name : String) (holdings rest : List Posting)
    (code : law.stmt (.portfolio span name holdings)) (included : rest ⊆ holdings) :
    law.Follows false Any machine (holdingAmounts parts name rest)
      (holdingAmounts other name rest) := by
  induction rest generalizing machine with
  | nil => exact .pure _ fun _ => trivial
  | cons holding others ih =>
      obtain ⟨first, later⟩ := List.cons_subset.mp included
      have expressions : ∀ expr ∈ holding.expressions, law.expr expr := fun expr member =>
        law.expressions _ code expr (List.mem_flatMap.mpr ⟨holding, first, member⟩)
      refine (signedAmount keeps holding expressions).bind fun amount after _ _ => ?_
      by_cases negative : amount < 0
      · rw [if_pos negative, if_pos negative]
        exact failAt _ holding.span fun issue =>
          law.atHolding span name holdings issue code holding first
      · rw [if_neg negative, if_neg negative]
        exact (ih later).bind fun _ _ _ _ => .pure _ fun _ => trivial

theorem declarePortfolio (span : Source.Span) (name : String) (holdings : List Posting)
    (code : law.stmt (.portfolio span name holdings))
    (allowed : law.Allows parts (.execute (.portfolio span name holdings)) machine) :
    law.Follows true law.HoldsOutcome machine (declarePortfolio parts span name holdings)
      (declarePortfolio other span name holdings) := by
  refine (holdingAmounts keeps span name holdings holdings code
    (List.Subset.refl holdings)).declared.bindRan fun amounts after entered _ _ => ?_
  have summed : law.Follows true (fun _ total => Number.exactSum amounts = .ok total) after
      (Eval.liftFault (Number.exactSum amounts)) (Eval.liftFault (Number.exactSum amounts)) :=
    lift (Yields.ofFault (fun total sum => sum) fun fault raised =>
      allowed fault (.total span name holdings machine after amounts entered raised))
  refine summed.bind fun total last _ sum => ?_
  by_cases empty : (amounts.isEmpty || total == 0) = true
  · rw [if_pos empty]
    exact failAt _ span fun issue => law.atStmt _ issue code
  · rw [if_neg empty]
    refine (buildPortfolio amounts _ _ fun fault raised => ?_).bind fun built final _ held => ?_
    · exact allowed fault (.shares span name holdings machine after amounts total entered sum
        (Bool.eq_false_iff.mpr empty) raised)
    · exact (define name _ held).bind fun _ _ _ _ => nothing

theorem scenarioResult (body : Block) (code : ∀ stmt ∈ body.statements, law.stmt stmt) :
    law.Follows true law.holds machine (scenarioResult parts body) (scenarioResult other body) := by
  refine (executeAll keeps body.statements code).bind fun _ _ _ _ => ?_
  refine (lookupLocal "result").bind fun found after _ held => .pure _ fun _ => ?_
  cases found with
  | none => exact law.simple after _ rfl
  | some value => exact held value rfl

theorem runScenario (span : Source.Span) (scenario model : String)
    (code : law.stmt (.run span scenario model)) :
    law.Follows false law.HoldsOutcome machine (runScenario parts span scenario model)
      (runScenario other span scenario model) := by
  have placed := fun issue => law.atStmt _ issue code
  refine (findScenario span scenario placed).bind fun body _ _ heldBody => ?_
  refine (findModel span model placed).bind fun callee after kept heldCallee => ?_
  refine .assuming fun sound => ?_
  have entered := law.entered after after.current sound .current
  have statements := law.blockBody _ body heldBody
  have inside : law.Follows true law.holds (after.entering after.current)
      (do
        let result ← Machine.scenarioResult parts body
        parts.call callee (modelArguments callee result (← Machine.localBindings)) (some model))
      (do
        let result ← Machine.scenarioResult other body
        other.call callee (modelArguments callee result (← Machine.localBindings)) (some model)) := by
    refine (scenarioResult keeps body statements).bind fun result _ keptResult heldResult => ?_
    refine localBindings.bind fun bindings last keptBindings heldBindings => ?_
    refine (keeps.call callee _ _ last ?_ ?_).declared
    · exact keptBindings _ (keptResult _ (entered.2 _ heldCallee))
    · exact holds_modelArguments callee result bindings (keptBindings _ heldResult) heldBindings
  refine (inNewScope (fun value inner scope => law.anywhere inner scope value) inside).bind
    fun value _ _ _ => ?_
  refine (shown value).bind fun _ _ _ _ => ?_
  exact (write _).bind fun _ _ _ _ => nothing

theorem simulationRun (body : Block) (step : Float) (iteration : Nat)
    (code : ∀ stmt ∈ body.statements, law.stmt stmt) :
    law.Follows declares law.holds machine (simulationRun parts body step iteration)
      (simulationRun other body step iteration) := by
  refine inNewScope (fun value inner scope => law.anywhere inner scope value) ?_
  refine (define "iteration" _ (law.simple _ _ rfl)).bind fun _ _ _ _ => ?_
  refine (define "elapsed" _ (law.simple _ _ rfl)).bind fun _ _ _ _ => ?_
  exact scenarioResult keeps body code

theorem simulationRuns (body : Block) (step : Float) (runs iteration : Nat)
    (code : ∀ stmt ∈ body.statements, law.stmt stmt) :
    law.Follows declares law.HoldsAll machine (simulationRuns parts body step runs iteration)
      (simulationRuns other body step runs iteration) := by
  induction runs generalizing machine iteration with
  | zero => exact .pure _ fun _ value member => by cases member
  | succ runs ih =>
      refine (simulationRun keeps body step iteration code).bind fun result _ _ held => ?_
      refine (ih (iteration + 1)).bind fun results _ kept heldResults => ?_
      exact .pure _ fun _ => List.forall_mem_cons.mpr ⟨kept _ held, heldResults⟩

theorem runCount (runs : Option Expr) (code : ∀ expr ∈ runs.toList, law.expr expr) :
    law.Follows false Any machine (runCount parts runs) (runCount other runs) := by
  cases runs with
  | none => exact .pure _ fun _ => trivial
  | some expr => exact whole keeps "SIMULATE run count" expr (code expr List.mem_cons_self)

theorem simulate (span : Source.Span) (scenario : String) (runs step : Option Expr)
    (code : law.stmt (.simulate span scenario runs step))
    (allowed : law.Allows parts (.execute (.simulate span scenario runs step)) machine) :
    law.Follows true law.HoldsOutcome machine (simulate parts span scenario runs step)
      (simulate other span scenario runs step) := by
  obtain ⟨counts, steps⟩ := List.forall_mem_append.mp (law.expressions _ code)
  refine (findScenario span scenario fun issue => law.atStmt _ issue code).bindRan
    fun body first found _ heldBody => ?_
  have statements := law.blockBody _ body heldBody
  refine (runCount keeps runs counts).declared.bindRan fun count second counted _ _ => ?_
  refine (numberOr keeps _ 1 step steps).declared.bindRan fun size third stepped _ _ => ?_
  by_cases negative : count < 0
  · rw [if_pos negative, if_pos negative]
    refine failAt _ _ fun issue => ?_
    cases runs with
    | none => exact law.atStmt _ issue code
    | some expr => exact law.atExpr expr issue (counts expr List.mem_cons_self)
  · rw [if_neg negative, if_neg negative]
    refine (simulationRuns keeps body size count.toNat 0 statements).bindRan
      fun values after simulated _ held => ?_
    refine (shown (.list values)).bindRan fun line same unchanged keptShown _ => ?_
    refine (write _).bindRan fun _ last written keptWritten _ => ?_
    cases unchanged
    cases written
    refine (bindResults (.list values) ?_ fun fault raised => ?_).bind fun _ _ _ _ => nothing
    · exact keptWritten _ (keptShown _ ((law.list after values).mpr held))
    · exact allowed fault (.results span scenario runs step machine first second third after body
        count size values found counted stepped negative simulated raised)

theorem statementForm (rounds : Nat) (stmt : Stmt) (code : law.stmt stmt)
    (allowed : law.Allows parts (.execute stmt) machine) :
    law.Follows stmt.declares law.HoldsOutcome machine (statementForm parts rounds stmt)
      (statementForm other rounds stmt) := by
  have expressions := law.expressions stmt code
  have statements := law.statements stmt code
  cases stmt with
  | block body => exact block keeps body statements
  | define span name value =>
      refine (keeps.evaluate value machine (expressions value List.mem_cons_self)).declared.bind
        fun result _ _ held => ?_
      exact (define name result held).bind fun _ _ _ _ => nothing
  | assign span name value =>
      refine (keeps.evaluate value machine (expressions value List.mem_cons_self)).bind
        fun result _ _ held => ?_
      exact (assign name result held).bind fun _ _ _ _ => nothing
  | print span values log => exact print keeps values log expressions
  | evaluate expr =>
      refine (keeps.evaluate expr machine (expressions expr List.mem_cons_self)).bind
        fun _ _ _ held => ?_
      exact .pure _ fun _ => held
  | choose span condition body branches otherwise =>
      obtain ⟨first, conditions⟩ := List.forall_mem_cons.mp expressions
      obtain ⟨front, last⟩ := List.forall_mem_append.mp statements
      obtain ⟨own, bodies⟩ := List.forall_mem_append.mp front
      exact choose keeps condition body branches otherwise first own conditions bodies last
  | repeatWhile span condition body =>
      refine inNewScope stays_outcome ?_
      exact whileRounds keeps condition body.statements rounds
        (expressions condition List.mem_cons_self) statements
  | forRange span counter low high step body =>
      simp only [Stmt.expressions, List.forall_mem_cons] at expressions
      exact forRange keeps rounds counter low high step body expressions.1 expressions.2.1
        expressions.2.2 statements
  | forEach span item items body =>
      exact forEach keeps item items body (expressions items List.mem_cons_self) statements
  | giveBack span value => exact giveBack keeps value expressions
  | function span name parameters body => exact function span name parameters body code
  | importPath span path name =>
      exact (define name (.text path) (law.simple machine _ rfl)).bind fun _ _ _ _ => nothing
  | invalid span reason => exact nothing
  | post entry => exact posting keeps entry expressions
  | portfolio span name holdings => exact declarePortfolio keeps span name holdings code allowed
  | scenario span name body =>
      refine (define name (.block body) (law.block machine span name body code)).bind fun _ _ _ _ => ?_
      exact nothing
  | run span scenario model => exact runScenario keeps span scenario model code
  | simulate span scenario runs step => exact simulate keeps span scenario runs step code allowed

theorem statement (rounds : Nat) (stmt : Stmt) (code : law.stmt stmt)
    (allowed : law.Allows parts (.execute stmt) machine) :
    law.Follows stmt.declares law.HoldsOutcome machine (statement parts rounds stmt)
      (statement other rounds stmt) :=
  located stmt.span (fun issue => law.atStmt stmt issue code)
    (statementForm keeps rounds stmt code allowed)

end Parts

end Law.Follows

end Fiscal
