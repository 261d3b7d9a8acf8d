import FormulaSheet.Address.Range
import FormulaSheet.Formula.SyntaxError
import FormulaSheet.Function.Fault

/-!
# Failures of a sheet

Everything that can go wrong when a cell is read, a formula evaluated or a text entered, with the category
and the message of each failure. `Failure.isShown` holds of the failures that a sheet shows as an error
text instead of passing them on.
-/

namespace FormulaSheet

/-- Why an expression has no value. -/
inductive EvalFault where
  /-- A division by zero. -/
  | divisionByZero
  /-- A remainder for the divisor zero. -/
  | moduloByZero
  /-- A remainder that is not defined. -/
  | modulo (fault : Number.Fault)
  /-- A power that is not a finite real number. -/
  | power (fault : Number.Fault)
  /-- An infinite or undefined result of an operator, a sign or a function. -/
  | notFinite (source : String)
  /-- A range that is no argument. -/
  | bareRange (start finish : String)
  /-- A text in place of a reference. -/
  | notAReference (ref : String)
  /-- A range whose ends are no references. -/
  | range (fault : Address.Fault)
  /-- A range of more cells than the limit. -/
  | longRange (start finish : String) (size limit : Int)
  /-- A name that no function has. -/
  | unknownFunction (name : String)
  /-- A function without a result. -/
  | call (name : String) (fault : CallFault)
  deriving DecidableEq

/-- The message of an expression without a value. -/
def EvalFault.message : EvalFault → String
  | divisionByZero => "Division by zero"
  | moduloByZero => "Modulo by zero"
  | modulo fault => s!"Invalid modulo operands: {fault.message}"
  | power fault => s!"Invalid power operation: {fault.message}"
  | notFinite source => s!"{source}: result is not a finite number"
  | bareRange start finish => s!"Range {start}:{finish} is only valid as a function argument"
  | notAReference ref => s!"Invalid cell reference: {ref}"
  | range fault => fault.message
  | longRange start finish size limit =>
    s!"Range {start}:{finish} spans {size} cells; the limit is {limit}"
  | unknownFunction name => s!"Unknown function: {name}"
  | call name fault => s!"{name}: {fault.message}"

/-- Whatever can go wrong on a sheet. -/
inductive Failure where
  /-- A text that is no formula. -/
  | formula (error : SyntaxError)
  /-- An expression without a value. -/
  | eval (fault : EvalFault)
  /-- An expression with more levels than the limit. -/
  | deepExpression (limit : Int)
  /-- A chain of dependent cells longer than the limit, at the cell where that shows. -/
  | longChain (limit : Int) (cell : Coord)
  /-- A formula that would depend on its own cell. -/
  | cycle (cell : Coord)
  /-- An address that cannot be read or written. -/
  | address (fault : Address.Fault)
  /-- A failure of a function that no formula turns into its own. -/
  | call (fault : CallFault)
  /-- An integer of too many digits to be written. -/
  | integer (fault : Number.IntegerFault)
  /-- A cell outside of the sheet. -/
  | outside (cell : Coord) (rows cols : Int)
  /-- A sheet without rows or without columns. -/
  | noCells (rows cols : Int)
  deriving DecidableEq

namespace Failure

/-- The category of a failure. -/
def category : Failure → Category
  | formula (.token _) => .token
  | formula (.grammar ..) => .grammar
  | formula (.tooDeep _) | deepExpression _ | longChain .. => .depth
  | eval _ => .evaluation
  | cycle _ => .cycle
  | call fault => fault.category
  | outside .. => .position
  | address _ | integer _ | noCells .. => .argument

/-- The message of a failure. -/
def message : Failure → String
  | formula error => error.message
  | eval fault => fault.message
  | deepExpression limit => s!"Expression deeper than {limit} levels"
  | longChain limit cell =>
    s!"Dependency chain longer than {limit} cells at {Address.name cell}"
  | cycle cell => s!"Circular reference detected at {Address.name cell}"
  | address fault => fault.message
  | call fault => fault.message
  | integer fault => fault.message
  | outside cell rows cols =>
    s!"Cell ({cell.row}, {cell.col}) is outside a {rows}x{cols} grid"
  | noCells rows cols => s!"Grid dimensions must be positive: {rows}x{cols}"

/-- The failure is shown as an error text in the cell of its formula. -/
def isShown (failure : Failure) : Bool :=
  failure.category.isFormula

end Failure

end FormulaSheet
