/-!
# Categories of failures

Every failure of the library belongs to one category. Two properties of a category matter to the
sheet: a failed computation of a function becomes a failure of the formula that calls it, and a
failure of a formula is shown as an error text, while all others reach the caller.
-/

namespace FormulaSheet

/-- What a failure is about. -/
inductive Category where
  /-- A character or a text literal that no token covers. -/
  | token
  /-- Tokens that form no formula. -/
  | grammar
  /-- An evaluation without a value. -/
  | evaluation
  /-- Nesting, or a chain of cells, beyond its limit. -/
  | depth
  /-- A formula that would depend on its own cell. -/
  | cycle
  /-- A page that could not be fetched. -/
  | fetch
  /-- An argument outside the domain of an operation. -/
  | argument
  /-- A result too large for its type. -/
  | overflow
  /-- A division by zero. -/
  | zeroDivision
  /-- Any other failed calculation. -/
  | arithmetic
  /-- A position outside of what holds it. -/
  | position
  /-- A failure that the library attaches no meaning to. -/
  | internal
  deriving DecidableEq, Repr

namespace Category

/-- Failures of a formula, which a sheet shows as an error text. -/
def isFormula : Category → Bool
  | token | grammar | evaluation | depth | cycle => true
  | _ => false

/-- Failures of a computation, which turn into failures of the formula that asked for it. -/
def isComputation : Category → Bool
  | argument | overflow | zeroDivision | arithmetic => true
  | _ => false

end Category

end FormulaSheet
