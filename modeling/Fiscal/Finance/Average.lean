import Fiscal.Finance.Scalar

set_option autoImplicit false

namespace Fiscal.Finance

open Scalar

variable {α : Type} [Add α] [Sub α] [Mul α] [Div α] [Scalar α]

def windowMean (size : Nat) (series : List α) : α :=
  let weight := one / ofNat size
  Number.sumFrom zero ((series.take size).map (· * weight))

def sma (series : List α) (period : Int) : Except Fault (List α) :=
  if period < 1 then .error (.tooFew "SMA period must be at least 1")
  else
    let size := period.toNat
    .ok ((List.range (series.length + 1 - size)).map fun start =>
      windowMean size (series.drop start))

def blend (k average : α) : List α → List α
  | [] => []
  | x :: rest =>
      let next := x * k + average * (one - k)
      next :: blend k next rest

def ema (series : List α) (period : Int) : Except Fault (List α) :=
  if period < 1 then .error (.tooFew "EMA period must be at least 1")
  else
    match series with
    | [] => .ok []
    | first :: rest => .ok (first :: blend (ofNat 2 / ofNat (period + 1).toNat) first rest)

def runningSums (total : α) : List α → List α
  | [] => []
  | x :: rest => (total + x) :: runningSums (total + x) rest

def cumulativeSums : List α → List α
  | [] => [zero]
  | first :: rest => zero :: first :: runningSums first rest

def trailingMean (sums : Array α) (window place : Nat) : α :=
  let start := place + 1 - window
  (sums.getD (place + 1) zero - sums.getD start zero) / ofNat (place + 1 - start)

def rollingMean (series : List α) (window : Int) : Except Fault (List α) :=
  if window < 1 then .error (.tooFew "window must be at least 1")
  else
    let sums := (cumulativeSums series).toArray
    .ok ((List.range series.length).map (trailingMean sums window.toNat))

end Fiscal.Finance
