import FormulaSheet.Category
import FormulaSheet.Text.Class

/-!
# Integers of limited length

Integers are read from and written to at most 4300 decimal digits. Leading zeros count when an integer
is read.
-/

namespace FormulaSheet
namespace Number

/-- The most decimal digits that an integer is read from or written with. -/
def digitLimit : Nat := 4300

/-- An integer beyond the limit. -/
inductive IntegerFault where
  /-- A text of too many digits. -/
  | tooLongToRead (digits : Nat)
  /-- An integer of too many digits. -/
  | tooLongToWrite
  deriving DecidableEq, Repr

/-- The message of an integer beyond the limit. -/
def IntegerFault.message : IntegerFault → String
  | tooLongToRead digits =>
    s!"Exceeds the limit ({digitLimit} digits) for integer string conversion: value has {digits} " ++
      "digits; use sys.set_int_max_str_digits() to increase the limit"
  | tooLongToWrite =>
    s!"Exceeds the limit ({digitLimit} digits) for integer string conversion; " ++
      "use sys.set_int_max_str_digits() to increase the limit"

/-- Reads a run of ASCII digits. -/
def readNatural (digits : List Char) : Except IntegerFault Nat :=
  if digitLimit < digits.length then .error (.tooLongToRead digits.length)
  else .ok (Text.digitsValue digits)

/-- Writes a natural number in decimal. -/
def writeNatural (n : Nat) : Except IntegerFault (List Char) :=
  let digits := Text.naturalDigits n
  if digitLimit < digits.length then .error .tooLongToWrite else .ok digits

theorem readNatural_of_length_le {digits : List Char} (h : digits.length ≤ digitLimit) :
    readNatural digits = .ok (Text.digitsValue digits) := by
  rw [readNatural, if_neg (by omega)]

end Number
end FormulaSheet
