import FormulaSheet.Number.Display
import FormulaSheet.Number.Read
import FormulaSheet.Text.Class

/-!
# Values

A formula has a number or a text as its value, and either can be used as the other. What a cell holds
is always a text, which counts as a number if it is written like one.
-/

namespace FormulaSheet

/-- The value of a formula. -/
inductive Value where
  | number (x : Float)
  | text (s : String)
  deriving DecidableEq, Inhabited

namespace Value

/-- Reads a text that is a number as a whole: no blanks at its ends, and no underscores in it. -/
def numberOfText? (s : String) : Option Float :=
  let cs := s.toList
  if cs = [] ∨ Text.strip cs ≠ cs ∨ cs.contains '_' then none else Number.read? cs

/-- The value of the text of a cell. -/
def ofCellText (s : String) : Value :=
  match numberOfText? s with
  | some x => .number x
  | none => .text s

/-- A value as a number; a text that is no number counts as zero. -/
def toNumber : Value → Float
  | number x => x
  | text s => (numberOfText? s).getD (Number.zero false)

/-- A value as a text. -/
def toText : Value → String
  | number x => Number.plain x
  | text s => s

/-- A value holds as a condition unless it is zero or the empty text. -/
def isTruthy : Value → Bool
  | number x => x != 0
  | text s => s != ""

/-- The number that stands for the outcome of a test. -/
def ofBool (b : Bool) : Value :=
  .number (if b then 1 else 0)

/-- The difference below which two numbers count as equal: the spacing of the doubles above one. -/
def tolerance : Float :=
  Number.ofBinary false 1 (-52)

/-- Numbers are compared up to the tolerance, texts exactly, and mixed values as texts. -/
def equals : Value → Value → Bool
  | number x, number y => (x - y).abs < tolerance
  | text s, text t => s == t
  | v, w => v.toText == w.toText

@[simp] theorem toNumber_number (x : Float) : (number x).toNumber = x := rfl

@[simp] theorem toText_text (s : String) : (text s).toText = s := rfl

end Value

end FormulaSheet
