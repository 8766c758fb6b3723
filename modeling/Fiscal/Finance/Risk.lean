import Fiscal.Finance.Scalar

set_option autoImplicit false

namespace Fiscal.Finance

open Scalar

def wacc (equityWeight debtWeight costEquity costDebt taxRate : Float) : Float :=
  equityWeight * costEquity + debtWeight * costDebt * (1.0 - taxRate)

def capm (riskFree beta market : Float) : Float :=
  riskFree + beta * (market - riskFree)

def simpleReturns : List Float → Except Fault (List Float)
  | a :: b :: rest => do
      let first ← divide (b - a) a
      return first :: (← simpleReturns (b :: rest))
  | _ => .ok []

def mean (series : List Float) : Float :=
  Number.pairwiseSum 0 series / Number.ofNat series.length

def volatility (returns : List Float) : Except Fault Float :=
  if returns.isEmpty then .error (.tooFew "volatility needs at least one return")
  else .ok (mean (returns.map fun x => x * x)).sqrt

def standardDeviation (series : List Float) : Float :=
  let center := mean series
  (mean (series.map fun x => (x - center) * (x - center))).sqrt

abbrev ZScores := List (Float × Float)

def ZScores.standard : ZScores := [(0.95, 1.65), (0.99, 2.33)]

def ZScores.put (level score : Float) : ZScores → ZScores
  | [] => [(level, score)]
  | (known, old) :: rest =>
      if known == level then (known, score) :: rest else (known, old) :: put level score rest

def ZScores.find (scores : ZScores) (level other : Float) : Float :=
  ((scores.find? fun entry => entry.1 == level).map Prod.snd).getD other

def valueAtRisk (series : List Float) (confidence : Float) (scores : ZScores) (other : Float) :
    Except Fault Float :=
  if series.isEmpty then .error (.tooFew "VAR needs at least one observation")
  else .ok (scores.find confidence other * standardDeviation series)

end Fiscal.Finance
