import FormulaSheet.Function.Fault
import FormulaSheet.Number.Integral
import FormulaSheet.Value

/-!
# Aggregates

Functions of any number of arguments: sums, means, extremes, counts and sparklines. Sums are formed from
left to right, and of equal extremes the first one is taken. A sparkline draws its numbers as bars of nine
heights, the least number lowest and the greatest one highest.
-/

namespace FormulaSheet
namespace Function

/-- The sum of the arguments. -/
def total (args : List Value) : Float :=
  args.foldl (fun sum arg => sum + arg.toNumber) 0

/-- `SUM` -/
def sum (args : List Value) : Except CallFault Value :=
  .ok (.number (total args))

/-- `AVERAGE` -/
def average : List Value → Except CallFault Value
  | [] => .error (.noArguments "AVERAGE")
  | args => .ok (.number (total args / Float.ofNat args.length))

/-- The first of the least numbers. -/
def least (first : Float) (others : List Float) : Float :=
  others.foldl (fun best x => if x < best then x else best) first

/-- The first of the greatest numbers. -/
def greatest (first : Float) (others : List Float) : Float :=
  others.foldl (fun best x => if best < x then x else best) first

/-- `MIN` -/
def minimum : List Value → Except CallFault Value
  | [] => .error (.noArguments "MIN")
  | first :: others => .ok (.number (least first.toNumber (others.map Value.toNumber)))

/-- `MAX` -/
def maximum : List Value → Except CallFault Value
  | [] => .error (.noArguments "MAX")
  | first :: others => .ok (.number (greatest first.toNumber (others.map Value.toNumber)))

/-- The argument is a number. -/
def isNumber : Value → Bool
  | .number _ => true
  | .text _ => false

/-- A count as a value. -/
def countValue (n : Nat) : Value :=
  .number (Float.ofNat n)

/-- `COUNT`: the number of numbers. -/
def count (args : List Value) : Except CallFault Value :=
  .ok (countValue (args.countP isNumber))

/-- `COUNTA`: the number of numbers and of texts that are not empty. -/
def countFilled (args : List Value) : Except CallFault Value :=
  .ok (countValue (args.countP (· != .text "")))

/-! ### Sparklines -/

/-- The bars of a sparkline, from the lowest to the highest. -/
def bars : List Char :=
  ' ' :: (List.range 8).map fun n => Char.ofNat (0x2581 + n)

/-- The bar of a number between two different extremes. -/
def bar (low high x : Float) : Except CallFault Char :=
  (calculate (Number.truncate ((x - low) / (high - low) * 8 + 0.5))).map
    fun height => bars.getD height.toNat ' '

/-- `SPARKLINE`: bars as high as the numbers, or half as high if all are equal. -/
def sparkline : List Value → Except CallFault Value
  | [] => .error (.noArguments "SPARKLINE")
  | first :: others => do
    let numbers := others.map Value.toNumber
    let low := least first.toNumber numbers
    let high := greatest first.toNumber numbers
    let drawn ←
      if high == low then pure ((first :: others).map fun _ => bars.getD 4 ' ')
      else (first.toNumber :: numbers).mapM (bar low high)
    return .text (String.ofList drawn)

end Function
end FormulaSheet
