import Fiscal.Fault

set_option autoImplicit false

namespace Fiscal.Number

def isZero (x : Float) : Bool := x == 0

def truncatedRemainder (x y : Float) : Float :=
  if isFinite x && isFinite y then
    ofBits (isNegative x)
      (bitsOfRatio (unitsOfBits (magnitudeBits x) % unitsOfBits (magnitudeBits y)) 1)
  else if isFinite x && isInfinite y then x
  else notANumber

def floorRemainder (x y : Float) : Float :=
  let remainder := truncatedRemainder x y
  if remainder == 0 then (if isNegative y then -0.0 else 0.0)
  else if (y < 0) != (remainder < 0) then remainder + y
  else remainder

def divide (x y : Float) : Except Fault Float :=
  if isZero y then .error .divisionByZero else .ok (x / y)

def power (base exponent : Float) : Except Fault Float :=
  if isZero base && exponent < 0 && isFinite exponent then .error .zeroToNegativePower
  else
    let result := Float.pow base exponent
    if isInfinite result && isFinite base && isFinite exponent then .error .powerOverflow
    else .ok result

end Fiscal.Number
