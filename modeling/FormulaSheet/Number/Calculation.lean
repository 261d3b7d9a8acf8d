import FormulaSheet.Number.Integral

/-!
# Calculations

Calculations that may fail: remainder, power, exponential and logarithm, and powers of ten for rounding
to decimal places. A failure is told apart from an infinite or undefined result of infinite or
undefined operands, which is handed on.

`remainder` is exact: it has the sign of the dividend and is computed in whole numbers.
-/

namespace FormulaSheet
namespace Number

/-- No number. -/
def nan : Float :=
  Float.ofBits 0x7ff8000000000000

/-- The remainder of two exact values, in units of the smaller of their exponents. -/
def exactRemainder (negative : Bool) (m : Nat) (e : Int) (n : Nat) (f : Int) : Float :=
  let unit := min e f
  ofBinary negative (m * Nat.pow 2 (e - unit).toNat % (n * Nat.pow 2 (f - unit).toNat)) unit

/-- The remainder of a division that is rounded towards zero. -/
def remainder (x y : Float) : Except Fault Float :=
  match parts x, parts y with
  | .nan, _ | _, .nan => .ok nan
  | .infinite _, _ => .error .outsideDomain
  | .finite .., .infinite _ => .ok x
  | .finite negative m e, .finite _ n f =>
    if n = 0 then .error .outsideDomain else .ok (exactRemainder negative m e n f)

/-- A power: fails where finite operands have no real power, or none that is finite. -/
def realPower (base exponent : Float) : Except Fault Float :=
  let result := Float.pow base exponent
  if result.isFinite || !(base.isFinite && exponent.isFinite) then .ok result
  else if result.isNaN || base == 0 then .error .outsideDomain
  else .error .outOfRange

/-- A power that is a finite real number. -/
def finitePower (base exponent : Float) : Except Fault Float :=
  match realPower base exponent with
  | .error fault => .error fault
  | .ok result => if result.isFinite then .ok result else .error .powerOutOfRange

/-- The exponential function; a finite number must have a finite one. -/
def exponential (x : Float) : Except Fault Float :=
  let result := Float.exp x
  if result.isInf && x.isFinite then .error .outOfRange else .ok result

/-- A power of ten with an integer exponent. -/
def powerOfTen (places : Int) : Except Fault Float :=
  let result := Float.pow 10 (ofInteger places)
  if result.isInf then .error .powerOfTenOutOfRange else .ok result

/-- A quotient, whose divisor is not zero. -/
def quotient (x y : Float) : Except Fault Float :=
  if y == 0 then .error .divisionByZero else .ok (x / y)

/-- Rounds to a number of decimal places, away from zero at a half. -/
def roundToPlaces (x : Float) (places : Int) : Except Fault Float := do
  let scale ← powerOfTen places
  let rounded ← roundHalfAway (x * scale)
  quotient rounded scale

end Number
end FormulaSheet
