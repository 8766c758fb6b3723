import Fiscal.Machine.Run
import Fiscal.Proofs.Value.Coercion
import Fiscal.Proofs.Library.Apply

set_option autoImplicit false

namespace Fiscal

open Machine

inductive Task where
  | evaluate (expr : Expr)
  | execute (stmt : Stmt)
  | call (callee : Value) (arguments : List Value) (name : Option String)

def Task.declares : Task → Bool
  | execute stmt => stmt.declares
  | evaluate _ | call _ _ _ => false

def Evaluator.answer (evaluator : Evaluator) : Task → Eval Outcome
  | .evaluate expr => return .done (← evaluator.evaluate expr)
  | .execute stmt => evaluator.execute stmt
  | .call callee arguments name => return .done (← evaluator.call callee arguments name)

def Machine.final {α : Type} : EStateM.Result Failure Machine α → Machine
  | .ok _ after => after
  | .error _ after => after

def Setting.unnamed? : Setting → Option Fault
  | list _ => some (.noName "list")
  | mapping _ => some (.noName "dict")
  | null | bool _ | int _ | float _ | text _ => none

inductive Unguarded (parts : Evaluator) (fault : Fault) : Task → Machine → Prop where
  | balance (span : Source.Span) (target : Expr) (machine after : Machine) (account : Nat)
      (evaluated : parts.evaluate target machine = .ok (.ledger account) after)
      (raised : Number.exactSum ((after.ledgers.entries account).map Entry.amount) = .error fault) :
      Unguarded parts fault (.evaluate (.member span target "balance")) machine
  | weights (span : Source.Span) (assets shares : Expr) (machine middle after : Machine)
      (amounts weights : List Float)
      (evaluated : parts.numbers "PORTFOLIO assets" assets machine = .ok amounts middle)
      (weighed : parts.numbers "PORTFOLIO weights" shares middle = .ok weights after)
      (raised : Portfolio.build amounts weights none = .error (.fault fault)) :
      Unguarded parts fault (.evaluate (.portfolio span assets shares)) machine
  | beta (span : Source.Span) (betas riskFree premium : Expr) (machine first second after : Machine)
      (holdings : Portfolio) (rate excess : Float)
      (evaluated : parts.evaluate betas machine = .ok (.portfolio holdings) first)
      (rated : parts.number "CAPM risk-free rate" riskFree first = .ok rate second)
      (exceeded : parts.number "CAPM premium" premium second = .ok excess after)
      (raised : Number.exactSum holdings.weighted = .error fault) :
      Unguarded parts fault (.evaluate (.capm span betas riskFree premium)) machine
  | total (span : Source.Span) (name : String) (holdings : List Posting) (machine after : Machine)
      (amounts : List Float) (entered : holdingAmounts parts name holdings machine = .ok amounts after)
      (raised : Number.exactSum amounts = .error fault) :
      Unguarded parts fault (.execute (.portfolio span name holdings)) machine
  | shares (span : Source.Span) (name : String) (holdings : List Posting) (machine after : Machine)
      (amounts : List Float) (total : Float)
      (entered : holdingAmounts parts name holdings machine = .ok amounts after)
      (summed : Number.exactSum amounts = .ok total)
      (positive : (amounts.isEmpty || total == 0) = false)
      (raised : Portfolio.build amounts (amounts.map (· / total))
        (some (holdings.map Posting.account)) = .error (.fault fault)) :
      Unguarded parts fault (.execute (.portfolio span name holdings)) machine
  | results (span : Source.Span) (scenario : String) (runs step : Option Expr)
      (machine first second third after : Machine) (body : Block) (count : Int) (size : Float)
      (values : List Value) (found : findScenario span scenario machine = .ok body first)
      (counted : runCount parts runs first = .ok count second)
      (stepped : parts.numberOr "SIMULATE step" 1 step second = .ok size third)
      (proper : ¬ count < 0)
      (simulated : simulationRuns parts body size count.toNat 0 third = .ok values after)
      (raised : after.settings.resultsName.unnamed? = some fault) :
      Unguarded parts fault (.execute (.simulate span scenario runs step)) machine

namespace Law

variable (law : Law)

def Allows (parts : Evaluator) (task : Task) (machine : Machine) : Prop :=
  ∀ fault, Unguarded parts fault task machine → law.fails (.fault fault)

def Asks (machine : Machine) : Task → Prop
  | .evaluate expr => law.expr expr
  | .execute stmt => law.stmt stmt
  | .call callee arguments _ => law.holds machine callee ∧ law.HoldsAll machine arguments

-- Whatever the rules of the language ask an evaluator for follows the law.
structure Parts (parts other : Evaluator) : Prop where
  evaluate (expr : Expr) (machine : Machine) : law.expr expr →
    law.Follows false law.holds machine (parts.evaluate expr) (other.evaluate expr)
  execute (stmt : Stmt) (machine : Machine) : law.stmt stmt →
    law.Follows stmt.declares law.HoldsOutcome machine (parts.execute stmt) (other.execute stmt)
  call (callee : Value) (arguments : List Value) (name : Option String) (machine : Machine) :
    law.holds machine callee → law.HoldsAll machine arguments →
    law.Follows false law.holds machine (parts.call callee arguments name)
      (other.call callee arguments name)

end Law

namespace Law.Follows

variable {law : Law} {declares : Bool} {machine : Machine}

theorem requireCount (name : String) (expected found : Nat) :
    law.Follows declares Any machine (requireCount name expected found)
      (requireCount name expected found) := by
  unfold Machine.requireCount
  by_cases same : expected = found
  · rw [if_pos same]
    exact .pure _ fun _ => trivial
  · rw [if_neg same]
    exact .throw _ (law.unplaced _)

theorem bindAll (parameters : List String) (arguments : List Value)
    (held : law.HoldsAll machine arguments) :
    law.Follows true Any machine (bindAll parameters arguments) (bindAll parameters arguments) := by
  induction parameters generalizing machine arguments with
  | nil => exact .pure _ fun _ => trivial
  | cons parameter rest ih =>
      cases arguments with
      | nil => exact .pure _ fun _ => trivial
      | cons argument others =>
          obtain ⟨first, heldOthers⟩ := List.forall_mem_cons.mp held
          refine (define parameter argument first).bind fun _ _ kept _ => ?_
          exact ih others fun value member => kept _ (heldOthers value member)

theorem inCallScope {α : Type} {good : Machine → α → Prop} {action other : Eval α} (callee : Value)
    (captured : Nat) (parameters : List String) (arguments : List Value)
    (heldCallee : law.holds machine callee) (made : callee.scope? = some captured)
    (held : law.HoldsAll machine arguments)
    (stays : ∀ value inner scope, good inner value → good (inner.returning scope) value)
    (body : ∀ inner, law.Follows true good inner action other) :
    law.Follows declares good machine (inCallScope captured parameters arguments action)
      (inCallScope captured parameters arguments other) := by
  refine .assuming fun sound => ?_
  have entrance : MayEnter law.holds machine captured := .captured callee captured heldCallee made
  have entered := law.entered machine captured sound entrance
  refine inOpened captured (fun _ => entrance) stays ?_
  refine (bindAll parameters arguments fun value member => ?_).bind fun _ after _ _ => body after
  exact entered.2 value (held value member)

section Parts

variable {parts other : Evaluator} (keeps : law.Parts parts other)

include keeps

theorem executeAll (stmts : List Stmt) (code : ∀ stmt ∈ stmts, law.stmt stmt) :
    law.Follows true law.HoldsOutcome machine (parts.executeAll stmts) (other.executeAll stmts) := by
  induction stmts generalizing machine with
  | nil => exact .pure _ fun _ => law.simple machine _ rfl
  | cons stmt rest ih =>
      obtain ⟨first, others⟩ := List.forall_mem_cons.mp code
      refine (keeps.execute stmt machine first).declared.bind fun outcome after _ held => ?_
      cases outcome with
      | returned value => exact .pure _ fun _ => held
      | done value => exact ih others

theorem callLambda (made : Lambda) (arguments : List Value) (name : Option String)
    (callee : law.holds machine (.lambda made)) (held : law.HoldsAll machine arguments) :
    law.Follows false law.holds machine (callLambda parts made arguments name)
      (callLambda other made arguments name) := by
  refine (requireCount _ _ _).bind fun _ after kept _ => ?_
  refine inCallScope (.lambda made) made.scope _ arguments (kept _ callee) rfl
    (fun value member => kept _ (held value member)) ?_ ?_
  · exact fun value inner scope held => law.anywhere inner scope value held
  · exact fun inner => (keeps.evaluate made.body inner (law.lambdaBody _ made callee)).declared

theorem callFunction (declared : UserFunction) (arguments : List Value)
    (callee : law.holds machine (.function declared)) (held : law.HoldsAll machine arguments) :
    law.Follows false law.holds machine (callFunction parts declared arguments)
      (callFunction other declared arguments) := by
  refine (requireCount _ _ _).bind fun _ _ kept _ => ?_
  have body := law.functionBody _ declared callee
  refine (inCallScope (.function declared) declared.scope _ arguments (kept _ callee) rfl
    (fun value member => kept _ (held value member))
    (fun outcome inner scope held => law.anywhere inner scope outcome.value held)
    fun inner => executeAll keeps declared.body.statements body).bind fun outcome after _ held => ?_
  cases outcome with
  | returned value => exact .pure _ fun _ => held
  | done value => exact .pure _ fun _ => law.simple after _ rfl

-- Within a builtin every fault may arise, also one that a call back has raised.
theorem callBuiltin (taken : law.TakesFaults) (builtin : Builtin) (arguments : List Value)
    (held : law.HoldsAll machine arguments) :
    law.Follows false law.holds machine (callBuiltin parts builtin arguments)
      (callBuiltin other builtin arguments) := by
  refine takingFaults builtin.name taken ?_
  have faults : law.withFaults.AllowsFaults := fun fault => .inr ⟨fault, rfl⟩
  refine apply _ _ faults ?_ builtin arguments held
  intro callee values machine heldCallee heldValues
  exact (keeps.call callee values none machine heldCallee heldValues).faulting

theorem call (callee : Value) (arguments : List Value) (name : Option String)
    (taken : (∃ builtin, callee = .builtin builtin) → law.TakesFaults)
    (heldCallee : law.holds machine callee) (held : law.HoldsAll machine arguments) :
    law.Follows false law.holds machine (call parts callee arguments name)
      (call other callee arguments name) := by
  cases callee with
  | lambda made => exact callLambda keeps made arguments name heldCallee held
  | function declared => exact callFunction keeps declared arguments heldCallee held
  | builtin builtin => exact callBuiltin keeps (taken ⟨builtin, rfl⟩) builtin arguments held
  | _ => exact .throw _ (law.unplaced _)

end Parts

end Law.Follows

end Fiscal
