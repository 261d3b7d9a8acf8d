import FormulaSheet.Function.Aggregate

/-!
# Conditions

The choice between two values, the logical connectives, and tests for the kind of a value. A test has one
or zero as its value.
-/

namespace FormulaSheet
namespace Function

/-- `IF` -/
def choose : List Value → Except CallFault Value
  | [condition, whenTrue, whenFalse] =>
    .ok (if condition.isTruthy then whenTrue else whenFalse)
  | _ => .error (.argumentCount "IF" 3)

/-- `AND` -/
def all (args : List Value) : Except CallFault Value :=
  .ok (Value.ofBool (args.all Value.isTruthy))

/-- `OR` -/
def any (args : List Value) : Except CallFault Value :=
  .ok (Value.ofBool (args.any Value.isTruthy))

/-- `NOT` -/
def negate : List Value → Except CallFault Value
  | [arg] => .ok (Value.ofBool !arg.isTruthy)
  | _ => .error (.argumentCount "NOT" 1)

/-! ### Kinds of values -/

/-- A test of one value. -/
def test (name : String) (holds : Value → Bool) : List Value → Except CallFault Value
  | [arg] => .ok (Value.ofBool (holds arg))
  | _ => .error (.argumentCount name 1)

/-- `ISBLANK`: the empty text. -/
def isBlankValue : List Value → Except CallFault Value :=
  test "ISBLANK" (· == .text "")

/-- `ISNUMBER` -/
def isNumberValue : List Value → Except CallFault Value :=
  test "ISNUMBER" isNumber

/-- `ISTEXT` -/
def isTextValue : List Value → Except CallFault Value :=
  test "ISTEXT" (!isNumber ·)

/-- `TYPE`: one for a number and two for a text. -/
def kind : List Value → Except CallFault Value
  | [arg] => .ok (.number (if isNumber arg then 1 else 2))
  | _ => .error (.argumentCount "TYPE" 1)

end Function
end FormulaSheet
