import FormulaSheet.Number.Binary
import FormulaSheet.Number.Fault

/-!
# Integers from doubles

Rounding down, up, towards zero and to the nearest integer. The integer is exact, however large the
double; an infinity and what is no number have none.

`roundHalfAway` keeps the sign of its argument, so a small negative number rounds to the negative zero.
-/

namespace FormulaSheet
namespace Number

/-- The integer part of `mantissa * 2 ^ exponent`. -/
def wholePart (mantissa : Nat) (exponent : Int) : Nat :=
  mantissa * Nat.pow 2 exponent.toNat / Nat.pow 2 (-exponent).toNat

/-- The part of `mantissa * 2 ^ exponent` behind the point, in units of `2 ^ exponent`. -/
def fractionPart (mantissa : Nat) (exponent : Int) : Nat :=
  mantissa * Nat.pow 2 exponent.toNat % Nat.pow 2 (-exponent).toNat

/-- A natural number with a sign. -/
def withSign (negative : Bool) (n : Nat) : Int :=
  if negative then -n else n

/-- Reads an exact value off a double. -/
def onFinite {α : Type} (x : Float) (use : Bool → Nat → Int → α) : Except Fault α :=
  match parts x with
  | .nan => .error .integerOfNaN
  | .infinite _ => .error .integerOfInfinity
  | .finite negative mantissa exponent => .ok (use negative mantissa exponent)

/-- The integer next to a double on the side of zero. -/
def truncate (x : Float) : Except Fault Int :=
  onFinite x fun negative mantissa exponent => withSign negative (wholePart mantissa exponent)

/-- The greatest integer that is not above a double. -/
def floor (x : Float) : Except Fault Int :=
  onFinite x fun negative mantissa exponent =>
    let whole := withSign negative (wholePart mantissa exponent)
    if negative && fractionPart mantissa exponent != 0 then whole - 1 else whole

/-- The least integer that is not below a double. -/
def ceiling (x : Float) : Except Fault Int :=
  onFinite x fun negative mantissa exponent =>
    let whole := withSign negative (wholePart mantissa exponent)
    if !negative && fractionPart mantissa exponent != 0 then whole + 1 else whole

/-- The integer nearest to a double, away from zero at a half; the sign stays. -/
def roundHalfAway (x : Float) : Except Fault Float :=
  onFinite x fun negative mantissa exponent =>
    let whole := wholePart mantissa exponent
    let up := Nat.pow 2 (-exponent).toNat ≤ 2 * fractionPart mantissa exponent
    nearest negative (if up then whole + 1 else whole) 1

/-- The integer that a double is equal to, if it is one. -/
def integer? (x : Float) : Option Int :=
  match parts x with
  | .finite negative mantissa exponent =>
    if fractionPart mantissa exponent = 0 then some (withSign negative (wholePart mantissa exponent))
    else none
  | _ => none

end Number
end FormulaSheet
