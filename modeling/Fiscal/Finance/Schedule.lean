import Fiscal.Finance.Scalar

set_option autoImplicit false

namespace Fiscal.Finance

open Scalar

structure Installment (α : Type) where
  payment : α
  interest : α
  principal : α
  balance : α

variable {α : Type} [Add α] [Sub α] [Mul α] [Div α] [BEq α] [Scalar α]

def levelPayment (principal rate : α) (periods : Nat) : Except Fault α := do
  let shrinkage ← checkedPower (one + rate) (ofInt (-periods))
  divide (principal * rate) (one - shrinkage)

def installments (payment rate : α) : Nat → α → List (Installment α)
  | 0, _ => []
  | periods + 1, balance =>
      let interest := balance * rate
      let part := payment - interest
      let left := balance - part
      ⟨payment, interest, part, left⟩ :: installments payment rate periods left

def amortize (principal rate : α) (periods : Int) : Except Fault (List (Installment α)) :=
  if periods < 1 then .error (.tooFew "AMORTIZE needs at least one period")
  else do
    let payment ← levelPayment principal rate periods.toNat
    return installments payment rate periods.toNat principal

end Fiscal.Finance
