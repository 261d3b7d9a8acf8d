import FormulaSheet.Number.Binary
import FormulaSheet.Text.Class

/-!
# The shortest decimal of a double

The reals that round to a double form an interval around it, which holds its ends when the mantissa
is even. `shortest` looks for a decimal in that interval with one digit, then with two, and so on; on
each grid only the two neighbours of the double can lie in it. Of two hits the nearer one is taken,
and the even one if both are equally near. Seventeen digits always suffice; the exact expansion
stands behind them.
-/

namespace FormulaSheet
namespace Number

/-- The number `coefficient * 10 ^ exponent`. -/
structure Decimal where
  coefficient : Nat
  exponent : Int
  deriving DecidableEq, Repr

/--
A decimal lies among the reals that round to `mantissa * 2 ^ exponent`. The ends are counted in
quarters of a unit: two quarters away, or one quarter below a power of two, where the units change.
-/
def roundsTo (mantissa : Nat) (exponent : Int) (d : Decimal) : Bool :=
  let below := if mantissa = Nat.pow 2 52 ∧ leastExponent < exponent then 1 else 2
  let value := d.coefficient * Nat.pow 10 d.exponent.toNat * Nat.pow 2 (2 - exponent).toNat
  let unit := Nat.pow 10 (-d.exponent).toNat * Nat.pow 2 (exponent - 2).toNat
  if mantissa % 2 = 0 then
    (4 * mantissa - below) * unit ≤ value && value ≤ (4 * mantissa + 2) * unit
  else (4 * mantissa - below) * unit < value && value < (4 * mantissa + 2) * unit

/-- The number of decimal digits in front of the point; zero or less counts zeros behind it. -/
def decimalMagnitude (num den : Nat) : Int :=
  if den ≤ num then (Text.naturalDigits (num / den)).length
  else 1 - (Text.naturalDigits ((den - 1) / num)).length

/-- A decimal whose coefficient ends in zero, with one zero less. -/
def Decimal.dropZero (d : Decimal) : Decimal :=
  if d.coefficient % 10 = 0 then ⟨d.coefficient / 10, d.exponent + 1⟩ else d

/-- The nearer of a decimal and the next one on its grid; the even one if both are equally near. -/
def nearerOf (num den : Nat) (d next : Decimal) : Decimal :=
  let twice := 2 * num * Nat.pow 10 (-d.exponent).toNat
  let middle := (2 * d.coefficient + 1) * den * Nat.pow 10 d.exponent.toNat
  if twice < middle then d
  else if middle < twice then next
  else if d.coefficient % 2 = 0 then d else next

/-- The decimal with at most `digits` digits that rounds to `mantissa * 2 ^ exponent`, if any. -/
def withDigits? (mantissa : Nat) (exponent : Int) (digits : Nat) : Option Decimal :=
  let num := mantissa * Nat.pow 2 exponent.toNat
  let den := Nat.pow 2 (-exponent).toNat
  let grid := decimalMagnitude num den - digits
  let low : Decimal := ⟨num * Nat.pow 10 (-grid).toNat / (den * Nat.pow 10 grid.toNat), grid⟩
  let high : Decimal := ⟨low.coefficient + 1, grid⟩
  match roundsTo mantissa exponent low, roundsTo mantissa exponent high with
  | true, true => some (nearerOf num den low high)
  | true, false => some low
  | false, true => some high
  | false, false => none

/-- The exact value of `mantissa * 2 ^ exponent` as a decimal. -/
def exactDecimal (mantissa : Nat) (exponent : Int) : Decimal :=
  if 0 ≤ exponent then ⟨mantissa * Nat.pow 2 exponent.toNat, 0⟩
  else ⟨mantissa * Nat.pow 5 (-exponent).toNat, exponent⟩

/-- The decimal with the fewest digits that rounds to the positive `mantissa * 2 ^ exponent`. -/
def shortest (mantissa : Nat) (exponent : Int) : Decimal :=
  (((List.range 17).findSome? fun n => withDigits? mantissa exponent (n + 1)).getD
    (exactDecimal mantissa exponent)).dropZero

end Number
end FormulaSheet
