import Fiscal.Failure
import Fiscal.Number.Sum

set_option autoImplicit false

namespace Fiscal

structure Portfolio where
  assets : List Float
  weights : List Float
  names : Option (List String)

namespace Portfolio

def tolerance : Float := 1e-9

def negativeWeight? (weights : List Float) : Option (Float × Nat) :=
  weights.zipIdx.find? fun weight => weight.1 < 0

def build (assets weights : List Float) (names : Option (List String)) :
    Except Failure Portfolio :=
  if assets.length != weights.length then
    .error (.brokenInvariant
      ("PORTFOLIO has " ++ toString assets.length ++ " assets but "
        ++ toString weights.length ++ " weights"))
  else
    match negativeWeight? weights with
    | some (weight, index) =>
        .error (.brokenInvariant
          ("PORTFOLIO weight at index " ++ toString index ++ " is negative ("
            ++ Number.exact weight ++ ")"))
    | none => do
        let total ← Fault.lift (Number.exactSum weights)
        if (total - 1).abs > tolerance then
          .error (.brokenInvariant
            ("PORTFOLIO weights must sum to 1, got " ++ Number.exact total))
        else .ok ⟨assets, weights, names⟩

def weighted (portfolio : Portfolio) : List Float :=
  List.zipWith (· * ·) portfolio.assets portfolio.weights

end Portfolio

end Fiscal
