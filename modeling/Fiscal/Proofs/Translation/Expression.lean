import Fiscal.Proofs.Machine.Expression
import Fiscal.Proofs.Translation.Library

set_option autoImplicit false

namespace Fiscal.Translation

open Machine

variable (move : Translation)

structure Parts (parts : Evaluator) : Prop where
  invalid (span : Source.Span) (message : String) :
    move.omits → parts.execute (.invalid span message) = pure .nothing
  evaluate (expr : Expr) (machine twin : Machine) :
    move.Agrees move.value move.law.holds machine twin (parts.evaluate expr) (parts.evaluate expr)
  execute (stmt : Stmt) (machine twin : Machine) (asked : move.law.stmt stmt) :
    move.Agrees move.outcome move.law.HoldsOutcome machine twin (parts.execute stmt)
      (parts.execute (stmt.onBodies move.body))
  call (callee : Value) (arguments : List Value) (name : Option String) (machine twin : Machine)
    (knows : move.law.holds machine callee) (known : move.KnowsAll machine arguments) :
    move.Agrees move.value move.law.holds machine twin (parts.call callee arguments name)
      (parts.call (move.value callee) (arguments.map move.value) name)

namespace Agrees

variable {move} {machine twin : Machine}

theorem number_pure (x : Float) :
    move.Agrees move.value move.law.holds machine twin (Pure.pure (.number x)) (Pure.pure (.number x)) :=
  .plain _ rfl

theorem numbers_pure (xs : List Float) :
    move.Agrees move.value move.law.holds machine twin (Pure.pure (.numbers xs)) (Pure.pure (.numbers xs)) :=
  .pureSame _ (move.value_numbers xs) fun _ => move.law.holds_numbers machine xs

theorem financial {α : Type} (name : String) (computed : Except Fault α) :
    move.Agrees id Law.Any machine twin (financial name computed) (financial name computed) :=
  takingFaults name (liftSame rfl)

theorem itemAt (span : Source.Span) (target key : Value) (knows : move.law.holds machine target) :
    move.Agrees move.value move.law.holds machine twin (itemAt span target key)
      (itemAt span (move.value target) (move.value key)) := by
  unfold Machine.itemAt
  rw [kindName_value, asInt_value]
  refine (lift (indexable_value target) (Yields.indexable target knows)).bind fun items _ _ _ knownItems => ?_
  refine (liftSame rfl).bindSame fun place _ _ kept _ => ?_
  rw [List.length_map, List.getElem?_map]
  by_cases negative : place < 0
  · rw [if_pos negative, if_pos negative]
    exact failAt _ span
  · rw [if_neg negative, if_neg negative]
    cases found : items[place.toNat]? with
    | none => exact failAt _ span
    | some item => exact .pure _ fun _ => kept _ (knownItems item (List.mem_of_getElem? found))

theorem memberOf (value : Value) (name : String) (knows : move.law.holds machine value) :
    move.Agrees move.value move.law.holds machine twin
      (do Eval.lift (value.member (← MonadState.get).ledgers name))
      (do Eval.lift ((move.value value).member (← MonadState.get).ledgers name)) := by
  refine assuming fun _ pairs => .get ?_
  exact lift (member_value (move.entries machine twin pairs) value name)
    (Yields.member machine.ledgers value name knows fun _ _ _ _ _ => move.fails _)

theorem qualified (qualifier : Qualifier) (name : String) :
    move.Agrees move.value move.law.holds machine twin (qualified qualifier name) (qualified qualifier name) := by
  cases qualifier with
  | globalScope => exact lookupGlobal name
  | parentScope => exact lookupOuter name

theorem lambda (parameters : List String) (body : Expr) :
    move.Agrees move.value move.law.holds machine twin (Machine.lambda parameters body)
      (Machine.lambda parameters body) := by
  refine newIdentity.bind fun identity after next _ counted => ?_
  refine assuming fun sound pairs => .get ?_
  rw [move.current after next pairs, ← move.lambda ⟨identity, parameters, body, after.current⟩]
  refine .pure _ fun _ => ?_
  exact move.law.lambda after identity body.span parameters body sound counted (move.code _)

theorem requireCount (name : String) (expected found : Nat) :
    move.Agrees id Law.Any machine twin (requireCount name expected found) (requireCount name expected found) := by
  unfold Machine.requireCount
  by_cases same : expected = found
  · rw [if_pos same]
    exact .pure _ fun _ => trivial
  · rw [if_neg same]
    exact .throw _

theorem bindAll (parameters : List String) (arguments : List Value) (known : move.KnowsAll machine arguments) :
    move.Agrees id Law.Any machine twin (bindAll parameters arguments)
      (bindAll parameters (arguments.map move.value)) := by
  induction parameters generalizing machine twin arguments with
  | nil => exact .pure _ fun _ => trivial
  | cons parameter rest ih =>
      cases arguments with
      | nil => exact .pure _ fun _ => trivial
      | cons argument others =>
          obtain ⟨first, knownOthers⟩ := List.forall_mem_cons.mp known
          refine (define parameter argument first).bindSame fun _ _ _ kept _ => ?_
          exact ih others fun value member => kept _ (knownOthers value member)

theorem inCallScope {α : Type} {place : α → α} {good : Machine → α → Prop} {action other : Eval α}
    {captured : Nat} (callee : Value) (made : callee.scope? = some captured) (knows : move.law.holds machine callee)
    (parameters : List String) (arguments : List Value) (known : move.KnowsAll machine arguments)
    (stays : ∀ value inner scope, good inner value → good (inner.returning scope) value)
    (body : ∀ inner next, (∀ held, move.law.holds machine held → move.law.holds inner held) →
      move.Agrees place good inner next action other) :
    move.Agrees place good machine twin (inCallScope captured parameters arguments action)
      (inCallScope (move.scopes captured) parameters (arguments.map move.value) other) := by
  refine assuming fun sound _ => ?_
  have entrance : MayEnter move.law.holds machine captured := .captured callee captured knows made
  have entered := (move.law.entered machine captured sound entrance).2
  refine inOpened (fun _ => entrance) stays ?_
  refine (bindAll parameters arguments fun value member => entered _ (known value member)).bindSame
    fun _ after next kept _ => body after next fun held holds => kept held (entered held holds)

section Parts

variable {parts : Evaluator} (keeps : move.Parts parts)

include keeps

theorem executeAll {stmts others : List Stmt} (rewritten : Stmt.Rewritten move.omits move.body stmts others)
    (asked : ∀ stmt ∈ stmts, move.law.stmt stmt) :
    move.Agrees move.outcome move.law.HoldsOutcome machine twin (parts.executeAll stmts)
      (parts.executeAll others) := by
  induction rewritten generalizing machine twin with
  | nil => exact .pureSame _ (congrArg Outcome.done move.value_null) fun _ => move.law.simple _ _ rfl
  | keep stmt rest others _ ih =>
      obtain ⟨first, later⟩ := List.forall_mem_cons.mp asked
      refine (keeps.execute stmt machine twin first).bind fun outcome _ _ _ knows => ?_
      cases outcome with
      | returned value => exact .pure (Outcome.returned value) fun _ => knows
      | done value => exact ih later
  | leave span message rest others allowed _ ih =>
      have skipped : parts.executeAll (.invalid span message :: rest) = parts.executeAll rest := by
        rw [Evaluator.executeAll, keeps.invalid span message allowed]
        rfl
      rw [skipped]
      exact ih (List.forall_mem_cons.mp asked).2

theorem callLambda (made : Lambda) (arguments : List Value) (name : Option String)
    (callee : move.law.holds machine (.lambda made)) (known : move.KnowsAll machine arguments) :
    move.Agrees move.value move.law.holds machine twin (callLambda parts made arguments name)
      (call parts (move.value (.lambda made)) (arguments.map move.value) name) := by
  rw [move.lambda]
  change move.Agrees move.value move.law.holds machine twin (Machine.callLambda parts made arguments name)
    (Machine.callLambda parts _ (arguments.map move.value) name)
  unfold Machine.callLambda
  rw [List.length_map]
  refine (requireCount _ _ _).bindSame fun _ _ _ kept _ => ?_
  refine inCallScope (.lambda made) rfl (kept _ callee) made.parameters arguments
    (fun value member => kept _ (known value member)) (fun _ _ _ => move.law.anywhere _ _ _) ?_
  exact fun inner next _ => keeps.evaluate made.body inner next

theorem callFunction (declared : UserFunction) (arguments : List Value) (name : Option String)
    (callee : move.law.holds machine (.function declared)) (known : move.KnowsAll machine arguments) :
    move.Agrees move.value move.law.holds machine twin (callFunction parts declared arguments)
      (call parts (move.value (.function declared)) (arguments.map move.value) name) := by
  rw [move.function]
  change move.Agrees move.value move.law.holds machine twin (Machine.callFunction parts declared arguments)
    (Machine.callFunction parts _ (arguments.map move.value))
  unfold Machine.callFunction
  rw [List.length_map]
  refine (requireCount _ _ _).bindSame fun _ _ _ kept _ => ?_
  refine (inCallScope (.function declared) rfl (kept _ callee) declared.parameters arguments
    (fun value member => kept _ (known value member)) (fun _ _ _ => move.law.anywhere _ _ _)
    fun inner next _ => executeAll keeps (move.rewritten declared.body)
      (move.law.functionBody machine declared callee)).bind fun outcome _ _ _ knows => ?_
  cases outcome with
  | returned value => exact .pure value fun _ => knows
  | done value => exact .plain _ rfl

theorem callBuiltin (builtin : Builtin) (arguments : List Value) (known : move.KnowsAll machine arguments) :
    move.Agrees move.value move.law.holds machine twin (callBuiltin parts builtin arguments)
      (callBuiltin parts builtin (arguments.map move.value)) :=
  takingFaults builtin.name (apply (fun callee values machine twin knows known =>
    keeps.call callee values none machine twin knows known) known)

theorem call (callee : Value) (arguments : List Value) (name : Option String)
    (knows : move.law.holds machine callee) (known : move.KnowsAll machine arguments) :
    move.Agrees move.value move.law.holds machine twin (call parts callee arguments name)
      (call parts (move.value callee) (arguments.map move.value) name) := by
  cases callee with
  | lambda made => exact callLambda keeps made arguments name knows known
  | function declared => exact callFunction keeps declared arguments name knows known
  | builtin builtin =>
      rw [value_builtin]
      exact callBuiltin keeps builtin arguments known
  | ledger | block | table | portfolio | list | object =>
      simp only [move.ledger, move.block, move.table, move.portfolio, value_list, value_object]
      exact .throw _
  | null | number | text | bool | cashflow | entry =>
      rw [move.simple _ rfl]
      exact .throw _

theorem evaluateAll (exprs : List Expr) :
    move.Agrees (List.map move.value) move.KnowsAll machine twin (parts.evaluateAll exprs)
      (parts.evaluateAll exprs) := by
  induction exprs generalizing machine twin with
  | nil => exact .pure _ fun _ value member => by cases member
  | cons expr rest ih =>
      refine (keeps.evaluate expr machine twin).bind fun value _ _ _ knows => ?_
      refine ih.bind fun values _ _ kept known => ?_
      exact .pure (value :: values) fun _ => List.forall_mem_cons.mpr ⟨kept _ knows, known⟩

theorem evaluateFields (fields : Named Expr) :
    move.Agrees move.named (fun after values => ∀ field ∈ values, move.law.holds after field.2) machine twin
      (parts.evaluateFields fields) (parts.evaluateFields fields) := by
  induction fields generalizing machine twin with
  | nil => exact .pure _ fun _ value member => by cases member
  | cons field rest ih =>
      refine (keeps.evaluate field.2 machine twin).bind fun value _ _ _ knows => ?_
      refine ih.bind fun values _ _ kept known => ?_
      exact .pure ((field.1, value) :: values) fun _ => List.forall_mem_cons.mpr ⟨kept _ knows, known⟩

theorem number (what : String) (expr : Expr) :
    move.Agrees id Law.Any machine twin (parts.number what expr) (parts.number what expr) :=
  (keeps.evaluate expr machine twin).bind fun value _ _ _ _ => liftSame (move.asNumber_value what value)

theorem whole (what : String) (expr : Expr) :
    move.Agrees id Law.Any machine twin (parts.whole what expr) (parts.whole what expr) :=
  (keeps.evaluate expr machine twin).bind fun value _ _ _ _ => liftSame (move.asInt_value what value)

theorem text (what : String) (expr : Expr) :
    move.Agrees id Law.Any machine twin (parts.text what expr) (parts.text what expr) :=
  (keeps.evaluate expr machine twin).bind fun value _ _ _ _ => liftSame (move.asText_value what value)

theorem numbers (what : String) (expr : Expr) :
    move.Agrees id Law.Any machine twin (parts.numbers what expr) (parts.numbers what expr) :=
  (keeps.evaluate expr machine twin).bind fun value _ _ _ _ => liftSame (move.asNumbers_value what value)

theorem numberOr (what : String) (standard : Float) (given : Option Expr) :
    move.Agrees id Law.Any machine twin (parts.numberOr what standard given)
      (parts.numberOr what standard given) := by
  cases given with
  | none => exact .pure _ fun _ => trivial
  | some expr => exact number keeps what expr

theorem wholeOr (what : String) (standard : Int) (given : Option Expr) :
    move.Agrees id Law.Any machine twin (wholeOr parts what standard given)
      (wholeOr parts what standard given) := by
  cases given with
  | none => exact .pure _ fun _ => trivial
  | some expr => exact whole keeps what expr

theorem cashflow (expr : Expr) :
    move.Agrees id Law.Any machine twin (cashflow parts expr) (cashflow parts expr) := by
  fun_induction Machine.cashflow parts expr generalizing machine twin with
  | case1 span left right first second | case2 span left right first second =>
      refine first.bindSame fun _ _ _ _ _ => ?_
      exact second.bindSame fun _ _ _ _ _ => .pure _ fun _ => trivial
  | case3 expr noSum noDifference => exact numbers keeps "cashflow" expr

theorem unary (span : Source.Span) (op : UnaryOperator) (operand : Expr) :
    move.Agrees move.value move.law.holds machine twin (unary parts span op operand)
      (unary parts span op operand) := by
  refine (keeps.evaluate operand machine twin).bind fun value _ _ _ _ => ?_
  cases op with
  | not =>
      dsimp only
      rw [isTruthy_value]
      exact .plain _ rfl
  | negate =>
      cases value with
      | number x =>
          rw [value_number]
          exact number_pure _
      | ledger | function | lambda | block | table | portfolio | list | object =>
          simp only [move.ledger, move.function, move.lambda, move.block, move.table, move.portfolio, value_list,
            value_object]
          exact failAt _ span
      | null | text | bool | cashflow | entry | builtin =>
          rw [move.simple _ rfl]
          exact failAt _ span

theorem truth (right : Expr) :
    move.Agrees move.value move.law.holds machine twin (return .bool (← parts.evaluate right).isTruthy)
      (return .bool (← parts.evaluate right).isTruthy) := by
  refine (keeps.evaluate right machine twin).bind fun value _ _ _ _ => ?_
  rw [isTruthy_value]
  exact .plain _ rfl

theorem binary (span : Source.Span) (left : Expr) (op : BinaryOperator) (right : Expr) :
    move.Agrees move.value move.law.holds machine twin (binary parts span left op right)
      (binary parts span left op right) := by
  refine (keeps.evaluate left machine twin).bind fun value after next _ knows => ?_
  rw [isTruthy_value]
  split
  · by_cases holds : value.isTruthy = true
    · rw [if_pos holds]
      exact truth keeps right
    · rw [if_neg holds]
      exact .plain _ rfl
  · by_cases holds : value.isTruthy = true
    · rw [if_pos holds]
      exact .plain _ rfl
    · rw [if_neg holds]
      exact truth keeps right
  · refine (keeps.evaluate right after next).bind fun other last _ kept knowsOther => ?_
    refine assuming fun _ pairs => .get ?_
    exact lift (operate_value (move.entries _ _ pairs) span op value other (kept _ knows) knowsOther)
      (Yields.operate last.ledgers span op value other fun _ => move.fails _)

theorem callExpr (callee : Expr) (arguments : List Expr) :
    move.Agrees move.value move.law.holds machine twin (callExpr parts callee arguments)
      (callExpr parts callee arguments) := by
  refine (keeps.evaluate callee machine twin).bind fun function _ _ _ knows => ?_
  refine (evaluateAll keeps arguments).bind fun values after next kept known => ?_
  exact keeps.call function values _ after next (kept _ knows) known

theorem member (target : Expr) (name : String) :
    move.Agrees move.value move.law.holds machine twin (member parts target name) (member parts target name) :=
  (keeps.evaluate target machine twin).bind fun value _ _ _ knows => memberOf value name knows

theorem index (target key : Expr) :
    move.Agrees move.value move.law.holds machine twin (index parts target key) (index parts target key) := by
  refine (keeps.evaluate target machine twin).bind fun value _ _ _ knows => ?_
  refine (keeps.evaluate key _ _).bind fun place _ _ kept _ => ?_
  rw [memberKey_value]
  cases memberKey? value place with
  | some name => exact memberOf value name (kept _ knows)
  | none => exact itemAt key.span value place (kept _ knows)

theorem slice (span : Source.Span) (target : Expr) (start stop : Option Expr) :
    move.Agrees move.value move.law.holds machine twin (slice parts span target start stop)
      (slice parts span target start stop) := by
  refine (keeps.evaluate target machine twin).bind fun value _ _ _ knows => ?_
  refine (lift (indexable_value value) (Yields.indexable value knows)).bind fun items _ _ keptItems _ => ?_
  rw [List.length_map, kindName_value]
  refine (wholeOr keeps "slice start" 0 start).bindSame fun low _ _ keptFrom _ => ?_
  refine (wholeOr keeps "slice end" items.length stop).bindSame fun last after _ keptLast _ => ?_
  dsimp only
  split
  · exact failAt _ span
  · rw [sliced_value]
    have knownSlice : move.law.holds after (sliced value low.toNat (min last items.length - low).toNat) :=
      Law.Follows.holds_sliced value _ _ (keptLast _ (keptFrom _ (keptItems _ knows)))
    exact .pure _ fun _ => knownSlice

theorem tableColumns (columns : Named Expr) :
    move.Agrees id Law.Any machine twin (tableColumns parts columns) (tableColumns parts columns) := by
  induction columns generalizing machine twin with
  | nil => exact .pure _ fun _ => trivial
  | cons column rest ih =>
      refine (numbers keeps _ column.2).bindSame fun _ _ _ _ _ => ?_
      exact ih.bindSame fun _ _ _ _ _ => .pure _ fun _ => trivial

theorem table (columns : Named Expr) :
    move.Agrees move.value move.law.holds machine twin (Machine.table parts columns) (Machine.table parts columns) :=
  (tableColumns keeps columns).bindSame fun _ _ _ _ _ => buildTable _

theorem flows (place : Nat) (entries : List (Flow Expr)) :
    move.Agrees id Law.Any machine twin (flows parts place entries) (flows parts place entries) := by
  induction entries generalizing machine twin place with
  | nil => exact .pure _ fun _ => trivial
  | cons entry rest ih =>
      refine (number keeps _ entry.amount).bindSame fun _ _ _ _ _ => ?_
      exact (ih (place + 1)).bindSame fun _ _ _ _ _ => .pure _ fun _ => trivial

theorem portfolio (assets weights : Expr) :
    move.Agrees move.value move.law.holds machine twin (Machine.portfolio parts assets weights)
      (Machine.portfolio parts assets weights) := by
  refine (numbers keeps _ assets).bindSame fun _ _ _ _ _ => ?_
  refine (numbers keeps _ weights).bindSame fun _ _ _ _ _ => ?_
  refine (liftOk _).bindSame fun built after _ _ made => ?_
  exact .pureSame _ (move.portfolio built) fun _ => move.law.portfolio after _ _ _ built made

theorem npv (series rate : Expr) :
    move.Agrees move.value move.law.holds machine twin (npv parts series rate) (npv parts series rate) := by
  refine (number keeps "NPV rate" rate).bindSame fun _ _ _ _ _ => ?_
  refine (cashflow keeps series).bindSame fun _ _ _ _ _ => ?_
  exact (financial _ _).bindSame fun _ _ _ _ _ => number_pure _

theorem irr (series : Expr) :
    move.Agrees move.value move.law.holds machine twin (irr parts series) (irr parts series) := by
  refine (cashflow keeps series).bindSame fun _ _ _ _ _ => ?_
  refine assuming fun _ pairs => .get ?_
  rw [(move.given _ _ pairs).2.1]
  exact (financial _ _).bindSame fun _ _ _ _ _ => number_pure _

theorem annuity (name first second third fourth : String)
    (formula : Float → Float → Float → Float → Except Fault Float) (rate periods : Expr)
    (payment lump : Option Expr) :
    move.Agrees move.value move.law.holds machine twin
      (do
        let rate ← parts.number first rate
        let periods ← parts.number second periods
        let payment ← parts.numberOr third 0 payment
        let lump ← parts.numberOr fourth 0 lump
        return .number (← Machine.financial name (formula rate periods payment lump)))
      (do
        let rate ← parts.number first rate
        let periods ← parts.number second periods
        let payment ← parts.numberOr third 0 payment
        let lump ← parts.numberOr fourth 0 lump
        return .number (← Machine.financial name (formula rate periods payment lump))) := by
  refine (number keeps first rate).bindSame fun _ _ _ _ _ => ?_
  refine (number keeps second periods).bindSame fun _ _ _ _ _ => ?_
  refine (numberOr keeps third 0 payment).bindSame fun _ _ _ _ _ => ?_
  refine (numberOr keeps fourth 0 lump).bindSame fun _ _ _ _ _ => ?_
  exact (financial _ _).bindSame fun _ _ _ _ _ => number_pure _

theorem average (name first second : String) (formula : List Float → Int → Except Fault (List Float))
    (series period : Expr) :
    move.Agrees move.value move.law.holds machine twin
      (do
        let numbers ← parts.numbers first series
        let size ← parts.whole second period
        return .numbers (← Machine.financial name (formula numbers size)))
      (do
        let numbers ← parts.numbers first series
        let size ← parts.whole second period
        return .numbers (← Machine.financial name (formula numbers size))) := by
  refine (numbers keeps first series).bindSame fun _ _ _ _ _ => ?_
  refine (whole keeps second period).bindSame fun _ _ _ _ _ => ?_
  exact (financial _ _).bindSame fun _ _ _ _ _ => numbers_pure _

theorem wacc (equityWeight debtWeight costEquity costDebt taxRate : Expr) :
    move.Agrees move.value move.law.holds machine twin
      (wacc parts equityWeight debtWeight costEquity costDebt taxRate)
      (wacc parts equityWeight debtWeight costEquity costDebt taxRate) := by
  refine (number keeps "WACC equity weight" equityWeight).bindSame fun _ _ _ _ _ => ?_
  refine (number keeps "WACC debt weight" debtWeight).bindSame fun _ _ _ _ _ => ?_
  refine (number keeps "WACC cost of equity" costEquity).bindSame fun _ _ _ _ _ => ?_
  refine (number keeps "WACC cost of debt" costDebt).bindSame fun _ _ _ _ _ => ?_
  exact (number keeps "WACC tax rate" taxRate).bindSame fun _ _ _ _ _ => number_pure _

theorem capm (beta riskFree premium : Expr) :
    move.Agrees move.value move.law.holds machine twin (capm parts beta riskFree premium)
      (capm parts beta riskFree premium) := by
  refine (keeps.evaluate beta machine twin).bind fun betas _ _ _ _ => ?_
  refine (number keeps _ riskFree).bindSame fun rate _ _ _ _ => ?_
  refine (number keeps _ premium).bindSame fun excess _ _ _ _ => ?_
  cases betas with
  | number =>
      rw [value_number]
      exact number_pure _
  | list items =>
      rw [value_list]
      dsimp only
      rw [← value_list, asNumbers_value]
      exact (liftSame rfl).bindSame fun _ _ _ _ _ => numbers_pure _
  | portfolio holdings =>
      rw [move.portfolio]
      exact (liftSame rfl).bindSame fun _ _ _ _ _ => number_pure _
  | ledger | function | lambda | block | table | object =>
      simp only [move.ledger, move.function, move.lambda, move.block, move.table, value_object]
      exact failAt _ beta.span
  | null | text | bool | cashflow | entry | builtin =>
      rw [move.simple _ rfl]
      exact failAt _ beta.span

theorem valueAtRisk (series confidence : Expr) :
    move.Agrees move.value move.law.holds machine twin (valueAtRisk parts series confidence)
      (valueAtRisk parts series confidence) := by
  refine (keeps.evaluate series machine twin).bind fun observed _ _ _ _ => ?_
  refine (number keeps "VAR confidence" confidence).bindSame fun _ _ _ _ _ => ?_
  refine (liftSame (riskSeries_value observed)).bindSame fun _ _ _ _ _ => ?_
  refine assuming fun _ pairs => .get ?_
  rw [(move.given _ _ pairs).2.1]
  exact (financial _ _).bindSame fun _ _ _ _ _ => number_pure _

theorem amortize (principal rate periods : Expr) :
    move.Agrees move.value move.law.holds machine twin (amortize parts principal rate periods)
      (amortize parts principal rate periods) := by
  refine (number keeps "AMORTIZE principal" principal).bindSame fun _ _ _ _ _ => ?_
  refine (number keeps "AMORTIZE rate" rate).bindSame fun _ _ _ _ _ => ?_
  refine (whole keeps "AMORTIZE periods" periods).bindSame fun _ _ _ _ _ => ?_
  exact (financial _ _).bindSame fun _ _ _ _ _ => buildTable _

theorem timeseries (series window : Expr) :
    move.Agrees move.value move.law.holds machine twin (timeseries parts series window)
      (timeseries parts series window) := by
  refine (numbers keeps "timeseries source" series).bindSame fun observed _ _ _ _ => ?_
  refine (whole keeps "timeseries window" window).bindSame fun size _ _ _ _ => ?_
  by_cases small : size < 1
  · rw [if_pos small]
    exact failAt _ window.span
  · rw [if_neg small]
    exact (liftSame rfl).bindSame fun _ _ _ _ _ => numbers_pure _

theorem expressionForm (expr : Expr) :
    move.Agrees move.value move.law.holds machine twin (expressionForm parts expr) (expressionForm parts expr) := by
  cases expr with
  | literal span value =>
      have simple : (literal value).isSimple = true := by cases value <;> rfl
      exact .plain _ simple
  | name span name => exact lookup name
  | qualified span qualifier name => exact qualified qualifier name
  | assign span name value =>
      refine (keeps.evaluate value machine twin).bind fun result _ _ _ knows => ?_
      exact (assign name result knows).bindSame fun _ _ _ kept _ => .pure _ fun _ => kept _ knows
  | binary span left op right => exact binary keeps span left op right
  | unary span op operand => exact unary keeps span op operand
  | call span callee arguments => exact callExpr keeps callee arguments
  | member span target name => exact member keeps target name
  | index span target key => exact index keeps target key
  | slice span target start stop => exact slice keeps span target start stop
  | list span items =>
      refine (evaluateAll keeps items).bind fun values _ _ _ known => ?_
      rw [← value_list]
      exact .pure _ fun _ => (move.law.list _ values).mpr known
  | object span fields =>
      refine (evaluateFields keeps fields).bind fun values _ _ _ known => ?_
      rw [← value_object]
      exact .pure _ fun _ => (move.law.object _ values).mpr known
  | lambda span parameters body => exact lambda parameters body
  | timeseries span series window => exact timeseries keeps series window
  | table span columns => exact table keeps columns
  | cashflow span entries =>
      exact (flows keeps 0 entries).bindSame fun _ _ _ _ _ => .plain _ rfl
  | portfolio span assets weights => exact portfolio keeps assets weights
  | npv span series rate => exact npv keeps series rate
  | irr span series => exact irr keeps series
  | pv span rate periods payment future => exact annuity keeps "PV" _ _ _ _ Finance.pv rate periods payment future
  | fv span rate periods payment present => exact annuity keeps "FV" _ _ _ _ Finance.fv rate periods payment present
  | wacc span equityWeight debtWeight costEquity costDebt taxRate =>
      exact wacc keeps equityWeight debtWeight costEquity costDebt taxRate
  | capm span beta riskFree premium => exact capm keeps beta riskFree premium
  | valueAtRisk span series confidence => exact valueAtRisk keeps series confidence
  | sma span series period => exact average keeps "SMA" _ _ Finance.sma series period
  | ema span series period => exact average keeps "EMA" _ _ Finance.ema series period
  | amortize span principal rate periods => exact amortize keeps principal rate periods

theorem expression (expr : Expr) :
    move.Agrees move.value move.law.holds machine twin (expression parts expr) (expression parts expr) :=
  located expr.span (expressionForm keeps expr)

end Parts

end Agrees

end Fiscal.Translation
