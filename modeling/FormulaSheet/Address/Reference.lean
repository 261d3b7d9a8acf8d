import FormulaSheet.Address.Column
import FormulaSheet.Address.Coord
import FormulaSheet.Number.Integer
import FormulaSheet.Text.Quoted

/-!
# References to cells

A reference is the label of a column followed by the number of a row, counted from one: `AA12`. Letters
may be in either case, the row may have leading zeros, and nothing else may stand in it.

* `reference?` reads a reference; a text that is none, or that names row zero, gives nothing.
* `write` gives the reference of a cell, and fails at coordinates below zero.
* `name` is the reference of a cell whose coordinates are known not to be negative.
-/

namespace FormulaSheet
namespace Address

/-- Why an address cannot be read or written. -/
inductive Fault where
  /-- A column below zero. -/
  | negativeColumn (col : Int)
  /-- A row below zero. -/
  | negativeRow (row : Int)
  /-- A text that is no reference. -/
  | notAReference (text : String)
  /-- A row number of too many digits. -/
  | rowNumber (fault : Number.IntegerFault)
  deriving DecidableEq, Repr

/-- The message of a faulty address. -/
def Fault.message : Fault → String
  | negativeColumn col => s!"Column index must be non-negative: {col}"
  | negativeRow row => s!"Row index must be non-negative: {row}"
  | notAReference text => s!"Invalid cell reference: {Text.quoted text}"
  | rowNumber fault => fault.message

/-- The label of a column that may be any integer. -/
def writeColumn (col : Int) : Except Fault (List Char) :=
  if col < 0 then .error (.negativeColumn col) else .ok (columnLabel col.toNat)

/-- The reference of a cell. -/
def write (c : Coord) : Except Fault (List Char) :=
  if c.row < 0 then .error (.negativeRow c.row)
  else
    match writeColumn c.col, Number.writeNatural (c.row + 1).toNat with
    | .error fault, _ => .error fault
    | .ok _, .error fault => .error (.rowNumber fault)
    | .ok label, .ok digits => .ok (label ++ digits)

/-- The reference of a cell whose coordinates are not negative. -/
def name (c : Coord) : String :=
  String.ofList (columnLabel c.col.toNat ++ Text.naturalDigits (c.row + 1).toNat)

/-- The cell in the column of some letters and the row of some digits; there is no row zero. -/
def ofLettersAndDigits? (letters digits : List Char) : Except Number.IntegerFault (Option Coord) :=
  match Number.readNatural digits with
  | .error fault => .error fault
  | .ok 0 => .ok none
  | .ok (row + 1) => .ok ((columnIndex? letters).map fun col : Nat => ⟨row, col⟩)

/-- Reads a reference. -/
def reference? (cs : List Char) : Except Number.IntegerFault (Option Coord) :=
  let letters := cs.takeWhile Char.isAlpha
  let digits := cs.dropWhile Char.isAlpha
  if letters ≠ [] ∧ digits ≠ [] ∧ digits.all Char.isDigit then ofLettersAndDigits? letters digits
  else .ok none

/-- Reads a reference, and fails if the text is none. -/
def reference (text : String) : Except Fault Coord :=
  match reference? text.toList with
  | .error fault => .error (.rowNumber fault)
  | .ok none => .error (.notAReference text)
  | .ok (some c) => .ok c

theorem writeColumn_of_nonneg {col : Int} (h : 0 ≤ col) :
    writeColumn col = .ok (columnLabel col.toNat) := by
  rw [writeColumn, if_neg (by omega)]

/-- The reference of a cell, where there is one, is its name. -/
theorem write_eq_ok {c : Coord} (row : 0 ≤ c.row) (col : 0 ≤ c.col) {digits : List Char}
    (h : Number.writeNatural (c.row + 1).toNat = .ok digits) :
    write c = .ok (columnLabel c.col.toNat ++ digits) := by
  rw [write, if_neg (by omega), writeColumn_of_nonneg col, h]

end Address
end FormulaSheet
