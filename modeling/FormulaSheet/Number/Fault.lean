import FormulaSheet.Category

/-!
# Failed calculations

The reasons for which a calculation on numbers has no result, with their messages.
-/

namespace FormulaSheet
namespace Number

/-- Why a calculation has no result. -/
inductive Fault where
  /-- An integer was asked of something that is no number. -/
  | integerOfNaN
  /-- An integer was asked of an infinity. -/
  | integerOfInfinity
  /-- The operands lie outside the domain of the operation. -/
  | outsideDomain
  /-- The result lies beyond the largest number. -/
  | outOfRange
  /-- A power of ten lies beyond the largest number. -/
  | powerOfTenOutOfRange
  /-- A power came out as an infinity or as no number. -/
  | powerOutOfRange
  /-- A division by zero. -/
  | divisionByZero
  /-- An integer lies beyond the largest number. -/
  | integerOutOfRange
  /-- An integer lies beyond the largest size. -/
  | sizeOutOfRange
  deriving DecidableEq, Repr

/-- The category of a failed calculation. -/
def Fault.category : Fault → Category
  | integerOfNaN | outsideDomain => .argument
  | integerOfInfinity | outOfRange | powerOfTenOutOfRange | powerOutOfRange
  | integerOutOfRange | sizeOutOfRange => .overflow
  | divisionByZero => .zeroDivision

/-- The message of a failed calculation. -/
def Fault.message : Fault → String
  | integerOfNaN => "cannot convert float NaN to integer"
  | integerOfInfinity => "cannot convert float infinity to integer"
  | outsideDomain => "math domain error"
  | outOfRange => "math range error"
  | powerOfTenOutOfRange => "(34, 'Numerical result out of range')"
  | powerOutOfRange => "power result out of range"
  | divisionByZero => "float division by zero"
  | integerOutOfRange => "int too large to convert to float"
  | sizeOutOfRange => "cannot fit 'int' into an index-sized integer"

/-- Every failed calculation is a failure of a computation. -/
theorem Fault.isComputation_category (fault : Fault) : fault.category.isComputation = true := by
  cases fault <;> rfl

end Number
end FormulaSheet
