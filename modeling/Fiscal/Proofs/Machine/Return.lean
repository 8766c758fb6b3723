import Fiscal.Proofs.Machine.Unwinding

set_option autoImplicit false

namespace Fiscal

open Machine

def NeverReturns (action : Eval Outcome) : Prop :=
  ∀ machine value after, action machine ≠ .ok (.returned value) after

namespace NeverReturns

theorem bind {α : Type} {action : Eval α} {next : α → Eval Outcome}
    (rest : ∀ value, NeverReturns (next value)) :
    NeverReturns (action >>= next) := by
  intro machine value after ran
  obtain ⟨middle, state, _, later⟩ := Eval.bind_ok ran
  exact rest middle state value after later

theorem done (value : Value) : NeverReturns (pure (.done value)) := by
  intro machine given after ran
  cases ran

theorem fails (failure : Failure) : NeverReturns (throw failure) := by
  intro machine given after ran
  cases ran

theorem bound {α : Type} (action : Eval α) : NeverReturns (action >>= fun _ => pure .nothing) :=
  bind fun _ => done .null

theorem simulate (parts : Evaluator) (span : Source.Span) (scenario : String) (runs step : Option Expr) :
    NeverReturns (simulate parts span scenario runs step) := by
  refine bind fun body => bind fun count => bind fun size => ?_
  by_cases negative : count < 0
  · rw [if_pos negative]
    exact fails _
  · rw [if_neg negative]
    exact bind fun results => bind fun shown => bind fun _ => bound _

theorem declarePortfolio (parts : Evaluator) (span : Source.Span) (name : String)
    (holdings : List Posting) : NeverReturns (declarePortfolio parts span name holdings) := by
  refine bind fun amounts => bind fun total => ?_
  by_cases empty : (amounts.isEmpty || total == 0) = true
  · rw [if_pos empty]
    exact fails _
  · rw [if_neg empty]
    exact bind fun built => bound _

end NeverReturns

section Statements

variable {parts : Evaluator} {rounds : Nat} {machine after : Machine} {value : Value}

end Statements

section Bodies

variable {rounds depth : Nat} {machine after : Machine} {value : Value}

end Bodies

end Fiscal
