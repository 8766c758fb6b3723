import Fiscal.Proofs.Machine.Call

set_option autoImplicit false

namespace Fiscal

open Machine

namespace Law.Follows

variable {law : Law} {declares : Bool} {machine : Machine}

theorem holds_sliced (target : Value) (start count : Nat) (held : law.holds machine target) :
    law.holds machine (sliced target start count) := by
  cases target with
  | list items =>
      refine (law.list machine _).mpr fun item member => ?_
      exact (law.list machine items).mp held item (List.mem_of_mem_drop (List.mem_of_mem_take member))
  | cashflow flows => exact law.holds_numbers machine _
  | text value => exact law.simple machine _ rfl
  | _ => exact held

theorem itemAt (span : Source.Span) (target key : Value) (held : law.holds machine target)
    (placed : ∀ issue, law.fails (.issue issue (some span))) :
    law.Follows false law.holds machine (itemAt span target key) (itemAt span target key) := by
  refine (indexable target held).bind fun items after _ heldItems => ?_
  refine (lifted (Yields.asInt _ key)).bind fun place last kept _ => ?_
  split
  · rename_i item found
    refine .pure _ fun _ => kept _ (heldItems item ?_)
    by_cases negative : place < 0
    · rw [if_pos negative] at found
      cases found
    · rw [if_neg negative] at found
      exact List.mem_of_getElem? found
  · exact failAt _ span placed

theorem financial {α : Type} (name : String) (computed : Except Fault α) :
    law.Follows declares Any machine (financial name computed) (financial name computed) := by
  constructor
  · exact fun _ => .inl rfl
  · intro _
    cases computed with
    | ok value => exact ⟨.rest _ _, trivial⟩
    | error fault => exact ⟨.rest _ _, law.unplaced _⟩

theorem qualified (qualifier : Qualifier) (name : String) :
    law.Follows declares law.holds machine (qualified qualifier name) (qualified qualifier name) := by
  cases qualifier with
  | globalScope => exact lookupGlobal name
  | parentScope => exact lookupOuter name

theorem lambda (span : Source.Span) (parameters : List String) (body : Expr)
    (code : law.expr (.lambda span parameters body)) :
    law.Follows declares law.holds machine (Machine.lambda parameters body)
      (Machine.lambda parameters body) := by
  refine newIdentity.bind fun identity after _ counted => .get ?_
  exact .pure _ fun sound => law.lambda after identity span parameters body sound counted code

section Parts

variable {parts other : Evaluator} (keeps : law.Parts parts other)

include keeps

theorem evaluateAll (exprs : List Expr) (code : ∀ expr ∈ exprs, law.expr expr) :
    law.Follows false law.HoldsAll machine (parts.evaluateAll exprs) (other.evaluateAll exprs) := by
  induction exprs generalizing machine with
  | nil => exact .pure _ fun _ value member => by cases member
  | cons expr rest ih =>
      obtain ⟨first, others⟩ := List.forall_mem_cons.mp code
      refine (keeps.evaluate expr machine first).bind fun value after _ held => ?_
      refine (ih others).bind fun values last kept heldAll => ?_
      exact .pure _ fun _ => List.forall_mem_cons.mpr ⟨kept _ held, heldAll⟩

theorem evaluateFields (fields : Named Expr) (code : ∀ expr ∈ fields.map Prod.snd, law.expr expr) :
    law.Follows false (fun after values => law.HoldsAll after (values.map Prod.snd)) machine
      (parts.evaluateFields fields) (other.evaluateFields fields) := by
  induction fields generalizing machine with
  | nil => exact .pure _ fun _ value member => by cases member
  | cons field rest ih =>
      obtain ⟨first, others⟩ := List.forall_mem_cons.mp code
      refine (keeps.evaluate field.2 machine first).bind fun value after _ held => ?_
      refine (ih others).bind fun values last kept heldAll => ?_
      exact .pure _ fun _ => List.forall_mem_cons.mpr ⟨kept _ held, heldAll⟩

theorem number (what : String) (expr : Expr) (code : law.expr expr) :
    law.Follows false Any machine (parts.number what expr) (other.number what expr) :=
  (keeps.evaluate expr machine code).bind fun value _ _ _ => lift (Yields.asNumber what value)

theorem whole (what : String) (expr : Expr) (code : law.expr expr) :
    law.Follows false Any machine (parts.whole what expr) (other.whole what expr) :=
  (keeps.evaluate expr machine code).bind fun value _ _ _ => lift (Yields.asInt what value)

theorem text (what : String) (expr : Expr) (code : law.expr expr) :
    law.Follows false Any machine (parts.text what expr) (other.text what expr) :=
  (keeps.evaluate expr machine code).bind fun value _ _ _ => lift (Yields.asText what value)

theorem numbers (what : String) (expr : Expr) (code : law.expr expr) :
    law.Follows false Any machine (parts.numbers what expr) (other.numbers what expr) :=
  (keeps.evaluate expr machine code).bind fun value _ _ _ => lift (Yields.asNumbers what value)

theorem numberOr (what : String) (standard : Float) (given : Option Expr)
    (code : ∀ expr ∈ given.toList, law.expr expr) :
    law.Follows false Any machine (parts.numberOr what standard given)
      (other.numberOr what standard given) := by
  cases given with
  | none => exact .pure _ fun _ => trivial
  | some expr => exact number keeps what expr (code expr List.mem_cons_self)

theorem wholeOr (what : String) (standard : Int) (given : Option Expr)
    (code : ∀ expr ∈ given.toList, law.expr expr) :
    law.Follows false Any machine (wholeOr parts what standard given)
      (wholeOr other what standard given) := by
  cases given with
  | none => exact .pure _ fun _ => trivial
  | some expr => exact whole keeps what expr (code expr List.mem_cons_self)

theorem cashflow (expr : Expr) (code : law.expr expr) :
    law.Follows false Any machine (cashflow parts expr) (cashflow other expr) := by
  fun_induction Machine.cashflow parts expr generalizing machine with
  | case1 span left right first second | case2 span left right first second =>
      rw [Machine.cashflow]
      refine (first (law.children _ code _ List.mem_cons_self)).bind fun _ _ _ _ => ?_
      refine (second (law.children _ code _ ?_)).bind fun _ _ _ _ => .pure _ fun _ => trivial
      exact List.mem_cons_of_mem _ List.mem_cons_self
  | case3 expr noSum noDifference =>
      rw [Machine.cashflow]
      · exact numbers keeps "cashflow" expr code
      · exact noSum
      · exact noDifference

theorem unary (span : Source.Span) (op : UnaryOperator) (operand : Expr) (code : law.expr operand)
    (placed : ∀ issue, law.fails (.issue issue (some span))) :
    law.Follows false law.holds machine (unary parts span op operand)
      (unary other span op operand) := by
  refine (keeps.evaluate operand machine code).bind fun value after _ _ => ?_
  split
  · exact .pure _ fun _ => law.simple after _ rfl
  · exact .pure _ fun _ => law.simple after _ rfl
  · exact failAt _ span placed

theorem truth (right : Expr) (code : law.expr right) :
    law.Follows false law.holds machine (return .bool (← parts.evaluate right).isTruthy)
      (return .bool (← other.evaluate right).isTruthy) :=
  (keeps.evaluate right machine code).bind fun _ after _ _ => .pure _ fun _ =>
    law.simple after _ rfl

theorem binary (span : Source.Span) (left : Expr) (op : BinaryOperator) (right : Expr)
    (first : law.expr left) (second : law.expr right)
    (placed : ∀ issue, law.fails (.issue issue (some span))) :
    law.Follows false law.holds machine (binary parts span left op right)
      (binary other span left op right) := by
  refine (keeps.evaluate left machine first).bind fun value after _ _ => ?_
  split
  · by_cases holds : value.isTruthy = true
    · rw [if_pos holds, if_pos holds]
      exact truth keeps right second
    · rw [if_neg holds, if_neg holds]
      exact .pure _ fun _ => law.simple after _ rfl
  · by_cases holds : value.isTruthy = true
    · rw [if_pos holds, if_pos holds]
      exact .pure _ fun _ => law.simple after _ rfl
    · rw [if_neg holds, if_neg holds]
      exact truth keeps right second
  · refine (keeps.evaluate right after second).bind fun other last _ _ => .get ?_
    exact lift (Yields.operate last.ledgers span op value other placed)

theorem callExpr (callee : Expr) (arguments : List Expr) (first : law.expr callee)
    (rest : ∀ argument ∈ arguments, law.expr argument) :
    law.Follows false law.holds machine (callExpr parts callee arguments)
      (callExpr other callee arguments) := by
  refine (keeps.evaluate callee machine first).bind fun function _ _ heldFunction => ?_
  refine (evaluateAll keeps arguments rest).bind fun values after kept heldValues => ?_
  exact keeps.call function values _ after (kept _ heldFunction) heldValues

theorem member (target : Expr) (name : String) (code : law.expr target)
    (allowed : ∀ account fault after, name = "balance" →
      parts.evaluate target machine = .ok (.ledger account) after →
      Number.exactSum ((after.ledgers.entries account).map Entry.amount) = .error fault →
      law.fails (.fault fault)) :
    law.Follows false law.holds machine (member parts target name) (member other target name) := by
  refine (keeps.evaluate target machine code).bindRan fun value after ran _ held => .get ?_
  refine lift (Yields.member after.ledgers value name held ?_)
  intro account fault same balance raised
  rw [same] at ran
  exact allowed account fault after balance ran raised

theorem index (target key : Expr) (first : law.expr target) (second : law.expr key) :
    law.Follows false law.holds machine (index parts target key) (index other target key) := by
  refine (keeps.evaluate target machine first).bind fun value _ _ held => ?_
  refine (keeps.evaluate key _ second).bind fun place after kept _ => ?_
  split
  · rename_i name named
    refine .get (lift (Yields.member after.ledgers value name (kept _ held) ?_))
    intro account fault same _ _
    rw [same] at named
    cases named
  · exact itemAt key.span value place (kept _ held) fun issue => law.atExpr key issue second

theorem slice (span : Source.Span) (target : Expr) (start stop : Option Expr)
    (first : law.expr target) (second : ∀ expr ∈ start.toList, law.expr expr)
    (third : ∀ expr ∈ stop.toList, law.expr expr)
    (placed : ∀ issue, law.fails (.issue issue (some span))) :
    law.Follows false law.holds machine (slice parts span target start stop)
      (slice other span target start stop) := by
  refine (keeps.evaluate target machine first).bind fun value _ _ held => ?_
  refine (indexable value held).bind fun items _ keptItems _ => ?_
  refine (wholeOr keeps "slice start" 0 start second).bind fun low _ keptFrom _ => ?_
  refine (wholeOr keeps "slice end" items.length stop third).bind fun last after keptLast _ => ?_
  dsimp only
  split
  · exact failAt _ span placed
  · exact .pure _ fun _ => holds_sliced _ _ _ (keptLast _ (keptFrom _ (keptItems _ held)))

theorem tableColumns (columns : Named Expr) (code : ∀ expr ∈ columns.map Prod.snd, law.expr expr) :
    law.Follows false (fun _ read => read.names = columns.names) machine (tableColumns parts columns)
      (tableColumns other columns) := by
  induction columns generalizing machine with
  | nil => exact .pure _ fun _ => rfl
  | cons column rest ih =>
      obtain ⟨first, others⟩ := List.forall_mem_cons.mp code
      refine (numbers keeps _ column.2 first).bind fun _ _ _ _ => ?_
      exact (ih others).bind fun _ _ _ same => .pure _ fun _ => congrArg (column.1 :: ·) same

theorem table (columns : Named Expr) (code : ∀ expr ∈ columns.map Prod.snd, law.expr expr)
    (distinct : law.Distinct columns.names) :
    law.Follows false law.holds machine (Machine.table parts columns)
      (Machine.table other columns) := by
  refine (tableColumns keeps columns code).bind fun read _ _ same => ?_
  have read : law.Distinct read.names := same.symm ▸ distinct
  exact (buildTable _ read).bind fun _ _ _ held => .pure _ fun _ => held

theorem flows (place : Nat) (entries : List (Flow Expr))
    (code : ∀ expr ∈ entries.map Flow.amount, law.expr expr) :
    law.Follows false Any machine (flows parts place entries) (flows other place entries) := by
  induction entries generalizing machine place with
  | nil => exact .pure _ fun _ => trivial
  | cons entry rest ih =>
      obtain ⟨first, others⟩ := List.forall_mem_cons.mp code
      refine (number keeps _ entry.amount first).bind fun _ _ _ _ => ?_
      exact (ih (place + 1) others).bind fun _ _ _ _ => .pure _ fun _ => trivial

theorem portfolio (assets weights : Expr) (first : law.expr assets) (second : law.expr weights)
    (allowed : ∀ amounts shares fault middle after,
      parts.numbers "PORTFOLIO assets" assets machine = .ok amounts middle →
      parts.numbers "PORTFOLIO weights" weights middle = .ok shares after →
      Portfolio.build amounts shares none = .error (.fault fault) → law.fails (.fault fault)) :
    law.Follows false law.holds machine (Machine.portfolio parts assets weights)
      (Machine.portfolio other assets weights) := by
  refine (numbers keeps _ assets first).bindRan fun amounts middle ran _ _ => ?_
  refine (numbers keeps _ weights second).bindRan fun shares after weighed _ _ => ?_
  refine (buildPortfolio amounts shares none fun fault raised => ?_).bind fun _ _ _ held =>
    .pure _ fun _ => held
  exact allowed amounts shares fault middle after ran weighed raised

theorem npv (series rate : Expr) (first : law.expr series) (second : law.expr rate) :
    law.Follows false law.holds machine (npv parts series rate) (npv other series rate) := by
  refine (number keeps "NPV rate" rate second).bind fun _ _ _ _ => ?_
  refine (cashflow keeps series first).bind fun _ _ _ _ => ?_
  exact (financial _ _).bind fun _ after _ _ => .pure _ fun _ => law.simple after _ rfl

theorem irr (series : Expr) (code : law.expr series) :
    law.Follows false law.holds machine (irr parts series) (irr other series) := by
  refine (cashflow keeps series code).bind fun _ _ _ _ => .get ?_
  exact (financial _ _).bind fun _ after _ _ => .pure _ fun _ => law.simple after _ rfl

theorem annuity (name first second third fourth : String)
    (formula : Float → Float → Float → Float → Except Fault Float) (rate periods : Expr)
    (payment lump : Option Expr) (rated : law.expr rate) (counted : law.expr periods)
    (paid : ∀ expr ∈ payment.toList, law.expr expr) (added : ∀ expr ∈ lump.toList, law.expr expr) :
    law.Follows false law.holds machine
      (do
        let rate ← parts.number first rate
        let periods ← parts.number second periods
        let payment ← parts.numberOr third 0 payment
        let lump ← parts.numberOr fourth 0 lump
        return .number (← Machine.financial name (formula rate periods payment lump)))
      (do
        let rate ← other.number first rate
        let periods ← other.number second periods
        let payment ← other.numberOr third 0 payment
        let lump ← other.numberOr fourth 0 lump
        return .number (← Machine.financial name (formula rate periods payment lump))) := by
  refine (number keeps first rate rated).bind fun _ _ _ _ => ?_
  refine (number keeps second periods counted).bind fun _ _ _ _ => ?_
  refine (numberOr keeps third 0 payment paid).bind fun _ _ _ _ => ?_
  refine (numberOr keeps fourth 0 lump added).bind fun _ _ _ _ => ?_
  exact (financial _ _).bind fun _ after _ _ => .pure _ fun _ => law.simple after _ rfl

theorem average (name first second : String)
    (formula : List Float → Int → Except Fault (List Float)) (series period : Expr)
    (listed : law.expr series) (counted : law.expr period) :
    law.Follows false law.holds machine
      (do
        let numbers ← parts.numbers first series
        let size ← parts.whole second period
        return .numbers (← Machine.financial name (formula numbers size)))
      (do
        let numbers ← other.numbers first series
        let size ← other.whole second period
        return .numbers (← Machine.financial name (formula numbers size))) := by
  refine (numbers keeps first series listed).bind fun _ _ _ _ => ?_
  refine (whole keeps second period counted).bind fun _ _ _ _ => ?_
  exact (financial _ _).bind fun _ after _ _ => .pure _ fun _ => law.holds_numbers after _

theorem wacc (equityWeight debtWeight costEquity costDebt taxRate : Expr)
    (first : law.expr equityWeight) (second : law.expr debtWeight) (third : law.expr costEquity)
    (fourth : law.expr costDebt) (fifth : law.expr taxRate) :
    law.Follows false law.holds machine
      (wacc parts equityWeight debtWeight costEquity costDebt taxRate)
      (wacc other equityWeight debtWeight costEquity costDebt taxRate) := by
  refine (number keeps "WACC equity weight" equityWeight first).bind fun _ _ _ _ => ?_
  refine (number keeps "WACC debt weight" debtWeight second).bind fun _ _ _ _ => ?_
  refine (number keeps "WACC cost of equity" costEquity third).bind fun _ _ _ _ => ?_
  refine (number keeps "WACC cost of debt" costDebt fourth).bind fun _ _ _ _ => ?_
  refine (number keeps "WACC tax rate" taxRate fifth).bind fun _ after _ _ => ?_
  exact .pure _ fun _ => law.simple after _ rfl

theorem capm (beta riskFree premium : Expr) (first : law.expr beta) (second : law.expr riskFree)
    (third : law.expr premium)
    (allowed : ∀ holdings rate excess fault start middle after,
      parts.evaluate beta machine = .ok (.portfolio holdings) start →
      parts.number "CAPM risk-free rate" riskFree start = .ok rate middle →
      parts.number "CAPM premium" premium middle = .ok excess after →
      Number.exactSum holdings.weighted = .error fault → law.fails (.fault fault)) :
    law.Follows false law.holds machine (capm parts beta riskFree premium)
      (capm other beta riskFree premium) := by
  refine (keeps.evaluate beta machine first).bindRan fun betas start evaluated _ _ => ?_
  refine (number keeps _ riskFree second).bindRan fun rate middle rated _ _ => ?_
  refine (number keeps _ premium third).bindRan fun excess after exceeded _ _ => ?_
  cases betas with
  | number => exact .pure _ fun _ => law.simple after _ rfl
  | list items =>
      refine (lifted (Yields.asNumbers _ _)).bind fun _ last _ _ => ?_
      exact .pure _ fun _ => law.holds_numbers last _
  | portfolio holdings =>
      have summed : law.Follows false Any after (Eval.liftFault (Number.exactSum holdings.weighted))
          (Eval.liftFault (Number.exactSum holdings.weighted)) :=
        lift (Yields.ofFault (fun _ _ => trivial) fun fault raised =>
          allowed holdings rate excess fault start middle after evaluated rated exceeded raised)
      exact summed.bind fun _ last _ _ => .pure _ fun _ => law.simple last _ rfl
  | _ => exact failAt _ beta.span fun issue => law.atExpr beta issue first

theorem valueAtRisk (series confidence : Expr) (first : law.expr series)
    (second : law.expr confidence) :
    law.Follows false law.holds machine (valueAtRisk parts series confidence)
      (valueAtRisk other series confidence) := by
  refine (keeps.evaluate series machine first).bind fun observed _ _ _ => ?_
  refine (number keeps "VAR confidence" confidence second).bind fun _ _ _ _ => ?_
  refine (lifted (Yields.riskSeries observed)).bind fun _ _ _ _ => .get ?_
  exact (financial _ _).bind fun _ after _ _ => .pure _ fun _ => law.simple after _ rfl

theorem amortize (principal rate periods : Expr) (first : law.expr principal)
    (second : law.expr rate) (third : law.expr periods) :
    law.Follows false law.holds machine (amortize parts principal rate periods)
      (amortize other principal rate periods) := by
  refine (number keeps "AMORTIZE principal" principal first).bind fun _ _ _ _ => ?_
  refine (number keeps "AMORTIZE rate" rate second).bind fun _ _ _ _ => ?_
  refine (whole keeps "AMORTIZE periods" periods third).bind fun _ _ _ _ => ?_
  refine (financial _ _).bind fun rows _ _ _ => ?_
  have distinct : (scheduleColumns rows).names.Nodup :=
    (by decide : ["payment", "interest", "principal", "balance"].Nodup)
  exact (buildTable _ (.inl distinct)).bind fun _ _ _ held => .pure _ fun _ => held

theorem timeseries (series window : Expr) (first : law.expr series) (second : law.expr window) :
    law.Follows false law.holds machine (timeseries parts series window)
      (timeseries other series window) := by
  refine (numbers keeps "timeseries source" series first).bind fun observed _ _ _ => ?_
  refine (whole keeps "timeseries window" window second).bind fun size after _ _ => ?_
  by_cases small : size < 1
  · rw [if_pos small]
    exact failAt _ window.span fun issue => law.atExpr window issue second
  · rw [if_neg small]
    have means : law.Follows false Any after (Eval.liftFault (Finance.rollingMean observed size))
        (Eval.liftFault (Finance.rollingMean observed size)) := by
      refine lift (Yields.ofFault (fun _ _ => trivial) fun fault raised => ?_)
      rw [Finance.rollingMean, if_neg small] at raised
      cases raised
    exact means.bind fun _ last _ _ => .pure _ fun _ => law.holds_numbers last _

theorem expressionForm (expr : Expr) (code : law.expr expr)
    (allowed : law.Allows parts (.evaluate expr) machine) :
    law.Follows false law.holds machine (expressionForm parts expr) (expressionForm other expr) := by
  have children := law.children expr code
  have placed := fun issue => law.atExpr expr issue code
  cases expr with
  | literal span value =>
      refine .pure _ fun _ => law.simple machine _ ?_
      cases value <;> rfl
  | name span name => exact lookup name
  | qualified span qualifier name => exact qualified qualifier name
  | lambda span parameters body => exact lambda span parameters body code
  | list span items =>
      refine (evaluateAll keeps items children).bind fun values after _ held => ?_
      exact .pure _ fun _ => (law.list after values).mpr held
  | object span fields =>
      refine (evaluateFields keeps fields children).bind fun values after _ held => ?_
      refine .pure _ fun _ => (law.object after values).mpr fun field member => ?_
      exact held field.2 (List.mem_map_of_mem member)
  | table span columns => exact table keeps columns children (law.literalNames span columns code)
  | cashflow span entries =>
      refine (flows keeps 0 entries children).bind fun _ after _ _ => ?_
      exact .pure _ fun _ => law.simple after _ rfl
  | call span callee arguments =>
      obtain ⟨first, rest⟩ := List.forall_mem_cons.mp children
      exact callExpr keeps callee arguments first rest
  | slice span target start stop =>
      obtain ⟨first, rest⟩ := List.forall_mem_cons.mp children
      obtain ⟨second, third⟩ := List.forall_mem_append.mp rest
      exact slice keeps span target start stop first second third placed
  | pv span rate periods payment future =>
      simp only [Expr.children, List.forall_mem_cons, List.forall_mem_append] at children
      exact annuity keeps "PV" _ _ _ _ Finance.pv rate periods payment future children.1 children.2.1
        children.2.2.1 children.2.2.2
  | fv span rate periods payment present =>
      simp only [Expr.children, List.forall_mem_cons, List.forall_mem_append] at children
      exact annuity keeps "FV" _ _ _ _ Finance.fv rate periods payment present children.1 children.2.1
        children.2.2.1 children.2.2.2
  | assign span name value =>
      simp only [Expr.children, List.forall_mem_cons] at children
      refine (keeps.evaluate value machine children.1).bind fun result after _ held => ?_
      exact (assign name result held).bind fun _ _ kept _ => .pure _ fun _ => kept _ held
  | binary span left op right =>
      simp only [Expr.children, List.forall_mem_cons] at children
      exact binary keeps span left op right children.1 children.2.1 placed
  | unary span op operand =>
      simp only [Expr.children, List.forall_mem_cons] at children
      exact unary keeps span op operand children.1 placed
  | member span target name =>
      simp only [Expr.children, List.forall_mem_cons] at children
      refine member keeps target name children.1 fun account fault after balance ran raised => ?_
      subst balance
      exact allowed fault (.balance span target machine after account ran raised)
  | index span target key =>
      simp only [Expr.children, List.forall_mem_cons] at children
      exact index keeps target key children.1 children.2.1
  | timeseries span series window =>
      simp only [Expr.children, List.forall_mem_cons] at children
      exact timeseries keeps series window children.1 children.2.1
  | portfolio span assets weights =>
      simp only [Expr.children, List.forall_mem_cons] at children
      refine portfolio keeps assets weights children.1 children.2.1 ?_
      intro amounts shares fault middle after ran weighed raised
      exact allowed fault
        (.weights span assets weights machine middle after amounts shares ran weighed raised)
  | npv span series rate =>
      simp only [Expr.children, List.forall_mem_cons] at children
      exact npv keeps series rate children.1 children.2.1
  | irr span series =>
      simp only [Expr.children, List.forall_mem_cons] at children
      exact irr keeps series children.1
  | wacc span equityWeight debtWeight costEquity costDebt taxRate =>
      simp only [Expr.children, List.forall_mem_cons] at children
      exact wacc keeps equityWeight debtWeight costEquity costDebt taxRate children.1 children.2.1
        children.2.2.1 children.2.2.2.1 children.2.2.2.2.1
  | capm span beta riskFree premium =>
      simp only [Expr.children, List.forall_mem_cons] at children
      refine capm keeps beta riskFree premium children.1 children.2.1 children.2.2.1 ?_
      intro holdings rate excess fault start middle after evaluated rated exceeded raised
      exact allowed fault (.beta span beta riskFree premium machine start middle after holdings rate
        excess evaluated rated exceeded raised)
  | valueAtRisk span series confidence =>
      simp only [Expr.children, List.forall_mem_cons] at children
      exact valueAtRisk keeps series confidence children.1 children.2.1
  | sma span series period =>
      simp only [Expr.children, List.forall_mem_cons] at children
      exact average keeps "SMA" _ _ Finance.sma series period children.1 children.2.1
  | ema span series period =>
      simp only [Expr.children, List.forall_mem_cons] at children
      exact average keeps "EMA" _ _ Finance.ema series period children.1 children.2.1
  | amortize span principal rate periods =>
      simp only [Expr.children, List.forall_mem_cons] at children
      exact amortize keeps principal rate periods children.1 children.2.1 children.2.2.1

theorem expression (expr : Expr) (code : law.expr expr)
    (allowed : law.Allows parts (.evaluate expr) machine) :
    law.Follows false law.holds machine (expression parts expr) (expression other expr) :=
  located expr.span (fun issue => law.atExpr expr issue code)
    (expressionForm keeps expr code allowed)

end Parts

end Law.Follows

end Fiscal
