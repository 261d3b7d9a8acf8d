import FormulaSheet.Failure
import FormulaSheet.Formula.Expr
import FormulaSheet.Number.Calculation
import FormulaSheet.Value

/-!
# Operators on values

Concatenation takes both operands as texts, `=` and `<>` compare values of any kind, and all other
operators take their operands as numbers. The result of a calculation is finite: an infinite or
undefined one is a failure, which names the operator.

`finite_of_apply` says that the result of an operator is a text or a finite number.
-/

namespace FormulaSheet

/-- A finite number as a value; a failure of what it came from if it is not finite. -/
def finite (source : String) (x : Float) : Except EvalFault Value :=
  if x.isFinite then .ok (.number x) else .error (.notFinite source)

/-- The result of a calculation as a value. -/
def finiteResult (source : String) (explain : Number.Fault → EvalFault)
    (result : Except Number.Fault Float) : Except EvalFault Value :=
  match result with
  | .error fault => .error (explain fault)
  | .ok x => finite source x

/-- Applies an operator to two values. -/
def BinaryOp.apply (op : BinaryOp) (left right : Value) : Except EvalFault Value :=
  let x := left.toNumber
  let y := right.toNumber
  match op with
  | concatenate => .ok (.text (left.toText ++ right.toText))
  | equal => .ok (Value.ofBool (left.equals right))
  | notEqual => .ok (Value.ofBool (!left.equals right))
  | less => .ok (Value.ofBool (x < y))
  | lessEqual => .ok (Value.ofBool (x ≤ y))
  | greater => .ok (Value.ofBool (x > y))
  | greaterEqual => .ok (Value.ofBool (x ≥ y))
  | add => finite op.symbol (x + y)
  | subtract => finite op.symbol (x - y)
  | multiply => finite op.symbol (x * y)
  | divide => if y == 0 then .error .divisionByZero else finite op.symbol (x / y)
  | modulo =>
    if y == 0 then .error .moduloByZero
    else finiteResult op.symbol .modulo (Number.remainder x y)
  | power => finiteResult op.symbol .power (Number.finitePower x y)

/-- Applies a sign to a value. -/
def Sign.apply (sign : Sign) (operand : Value) : Except EvalFault Value :=
  match sign with
  | plus => finite sign.symbol operand.toNumber
  | minus => finite sign.symbol (-operand.toNumber)

/-- A text, or a finite number. -/
def Value.IsFinite : Value → Prop
  | number x => x.isFinite = true
  | text _ => True

theorem isFinite_of_finite {source : String} {x : Float} {v : Value}
    (h : finite source x = .ok v) : v.IsFinite := by
  unfold finite at h
  by_cases isFinite : x.isFinite = true
  · rw [if_pos isFinite] at h
    cases h
    exact isFinite
  · rw [if_neg isFinite] at h
    cases h

theorem isFinite_of_finiteResult {source : String} {explain : Number.Fault → EvalFault}
    {result : Except Number.Fault Float} {v : Value}
    (h : finiteResult source explain result = .ok v) : v.IsFinite := by
  cases result with
  | error fault => cases h
  | ok x => exact isFinite_of_finite h

theorem Value.isFinite_ofBool (b : Bool) : (Value.ofBool b).IsFinite := by
  cases b with
  | false => exact (by decide +kernel : (0 : Float).isFinite = true)
  | true => exact (by decide +kernel : (1 : Float).isFinite = true)

/-- The result of an operator is a text or a finite number. -/
theorem BinaryOp.isFinite_of_apply {op : BinaryOp} {left right v : Value}
    (h : op.apply left right = .ok v) : v.IsFinite := by
  cases op with
  | concatenate => cases h; trivial
  | equal | notEqual | less | lessEqual | greater | greaterEqual =>
    cases h
    exact Value.isFinite_ofBool _
  | add | subtract | multiply => exact isFinite_of_finite h
  | divide =>
    simp only [apply] at h
    split at h
    · cases h
    · exact isFinite_of_finite h
  | modulo =>
    simp only [apply] at h
    split at h
    · cases h
    · exact isFinite_of_finiteResult h
  | power => exact isFinite_of_finiteResult h

/-- The result of a sign is a finite number. -/
theorem Sign.isFinite_of_apply {sign : Sign} {operand v : Value}
    (h : sign.apply operand = .ok v) : v.IsFinite := by
  cases sign <;> exact isFinite_of_finite h

end FormulaSheet
