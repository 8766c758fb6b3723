import Fiscal.Finance.Scalar

set_option autoImplicit false

namespace Fiscal.Finance

open Scalar

section Formulas

variable {α : Type} [Add α] [Sub α] [Mul α] [Div α] [Neg α] [BEq α] [Scalar α]

def discounted (rate : α) (period : Nat) : List α → List α
  | [] => []
  | flow :: rest => flow * power (one + rate) (-period) :: discounted rate (period + 1) rest

def npv (rate : α) (flows : List α) : Except Fault α :=
  if flows.isEmpty then .ok zero
  else if rate == -one then .error .zeroDiscount
  else .ok (Number.pairwiseSum zero (discounted rate 1 flows))

def sensitivities (rate : α) (period : Nat) : List α → List α
  | [] => []
  | flow :: rest =>
      -ofNat period * flow / power (one + rate) (period + 1)
        :: sensitivities rate (period + 1) rest

def npvDerivative (rate : α) (flows : List α) : α :=
  Number.pairwiseSum zero (sensitivities rate 1 flows)

/-- Newton steps toward a rate of net present value zero, with no test for convergence. -/
def irr (flows : List α) : Nat → α → Except Fault α
  | 0, rate => .ok rate
  | steps + 1, rate =>
      let slope := npvDerivative rate flows
      -- No step leads on from here, whether or not the rate is a solution.
      if slope == zero || !isFinite slope then .ok rate
      else
        match npv rate flows with
        | .ok value => irr flows steps (rate - value / slope)
        | .error fault => .error fault

def presentValue (growth rate payment lump : α) : Except Fault α := do
  let shrinkage ← divide one growth
  let annuity ← divide (payment * (one - shrinkage)) rate
  let discountedLump ← divide lump growth
  return annuity - discountedLump

def futureValue (growth rate payment lump : α) : Except Fault α := do
  let annuity ← divide (payment * (growth - one)) rate
  return lump * growth + annuity

end Formulas

section Compounding

variable {α : Type} [Add α] [Sub α] [Mul α] [Div α] [LT α] [DecidableLT α] [BEq α] [Scalar α]

-- Compound growth over a number of periods, which must be whole where the base is negative.
def growth (rate periods : α) : Except Fault α :=
  let base := one + rate
  if base < zero && !isWhole periods then
    .error (.complexGrowth (toFloat rate) (toFloat periods))
  else checkedPower base periods

def pv (rate periods payment lump : α) : Except Fault α := do
  presentValue (← growth rate periods) rate payment lump

def fv (rate periods payment lump : α) : Except Fault α := do
  futureValue (← growth rate periods) rate payment lump

end Compounding

end Fiscal.Finance
