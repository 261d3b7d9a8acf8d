import FormulaSheet.Function.Fault
import FormulaSheet.Number.Calculation
import FormulaSheet.Value

/-!
# Mathematical functions

Functions of numbers. `LOG` takes an optional base and `ROUND` an optional number of decimal places.
-/

namespace FormulaSheet
namespace Function

/-- A function of one number. -/
def unary (name : String) (f : Float → Except CallFault Float) :
    List Value → Except CallFault Value
  | [arg] => (f arg.toNumber).map Value.number
  | _ => .error (.argumentCount name 1)

/-- `ABS` -/
def absolute : List Value → Except CallFault Value :=
  unary "ABS" fun x => .ok x.abs

/-- An integer as the result of a function. -/
def integerResult (n : Except Number.Fault Int) : Except CallFault Float :=
  calculate (n.map Number.ofInteger)

/-- `CEILING` -/
def ceiling : List Value → Except CallFault Value :=
  unary "CEILING" fun x => integerResult (Number.ceiling x)

/-- `FLOOR` -/
def floor : List Value → Except CallFault Value :=
  unary "FLOOR" fun x => integerResult (Number.floor x)

/-- `INT` -/
def integer : List Value → Except CallFault Value :=
  unary "INT" fun x => integerResult (Number.floor x)

/-- `EXP` -/
def exponential : List Value → Except CallFault Value :=
  unary "EXP" fun x => calculate (Number.exponential x)

/-- One, minus one or zero, by the sign of a number; zero for what is no number. -/
def signOf (x : Float) : Float :=
  if x > 0 then 1 else if x < 0 then -1 else 0

/-- `SIGN` -/
def sign : List Value → Except CallFault Value :=
  unary "SIGN" fun x => .ok (signOf x)

/-- `SQRT` -/
def squareRoot : List Value → Except CallFault Value :=
  unary "SQRT" fun x => if x < 0 then .error .negativeSquareRoot else .ok x.sqrt

/-- `LN` -/
def naturalLogarithm : List Value → Except CallFault Value :=
  unary "LN" fun x => if x ≤ 0 then .error (.notPositive "LN") else .ok x.log

/-- `LOG`: to the base ten, or to a base that is given. -/
def logarithm : List Value → Except CallFault Value
  | [arg] =>
    let x := arg.toNumber
    if x ≤ 0 then .error (.notPositive "LOG") else .ok (.number x.log10)
  | [arg, base] =>
    let x := arg.toNumber
    let b := base.toNumber
    if x ≤ 0 then .error (.notPositive "LOG")
    else if b ≤ 0 || b == 1 then .error .logarithmBase
    else .ok (.number (x.log / b.log))
  | _ => .error (.argumentChoice "LOG" 1 2)

/-- `ROUND`: to an integer, or to a number of decimal places, away from zero at a half. -/
def round : List Value → Except CallFault Value
  | [arg] => (calculate (Number.roundHalfAway arg.toNumber)).map Value.number
  | [arg, places] => do
    let n ← calculate (Number.truncate places.toNumber)
    let rounded ← calculate (Number.roundToPlaces arg.toNumber n)
    return .number rounded
  | _ => .error (.argumentChoice "ROUND" 1 2)

/-- `MOD`: with the sign of the dividend. -/
def modulo : List Value → Except CallFault Value
  | [dividend, divisor] =>
    if divisor.toNumber == 0 then .error .zeroDivisor
    else (calculate (Number.remainder dividend.toNumber divisor.toNumber)).map Value.number
  | _ => .error (.argumentCount "MOD" 2)

/-- `POWER` -/
def power : List Value → Except CallFault Value
  | [base, exponent] =>
    (calculate (Number.finitePower base.toNumber exponent.toNumber)).map Value.number
  | _ => .error (.argumentCount "POWER" 2)

end Function
end FormulaSheet
