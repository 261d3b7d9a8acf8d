import FormulaSheet.Evaluation.Evaluate
import FormulaSheet.Formula.Parser
import FormulaSheet.Formula.Scan
import FormulaSheet.Sheet.Basic
import FormulaSheet.Sheet.Dependency

/-!
# Formulas on a sheet

An engine evaluates formulas on a sheet, with the functions of a registry and within limits. A text is a
formula if it starts with `=`.

* `evaluate` gives the value of a formula.
* `display` gives the text that a cell shows for what was entered into it.
* `wouldCycle` tells whether a formula would depend on the cell that it is entered into.
* `enter` writes what was entered into a cell: a text as it is, and a formula with the text that it
  shows, after it has been made sure that the formula does not depend on its own cell. `assign` does
  the same for a cell given by its reference.
-/

namespace FormulaSheet

/-- What formulas are evaluated with. -/
structure Engine (σ : Type) where
  registry : Registry σ
  limits : Limits := {}

/-- What a cell shows whose formula has no value. -/
def errorText : String := "#ERROR"

/-- The text behind the mark of a formula. -/
def formulaBody? (text : String) : Option String :=
  match text.toList with
  | '=' :: rest => some (String.ofList rest)
  | _ => none

/-- The references in the formula of a cell; an empty formula counts as none. -/
def Sheet.dependencies (sheet : Sheet) : Dependencies := fun c =>
  match (sheet.get c).formula with
  | none => none
  | some formula => if formula = "" then none else some (scanReferences formula sheet.bounds)

namespace Engine

variable {σ : Type} (engine : Engine σ)

/-- The context in which formulas of a sheet are evaluated. -/
def context (sheet : Sheet) : Context σ where
  cellText c := pure (sheet.get c).value
  function? := engine.registry.lookup
  limits := engine.limits

/-- The expression of a formula, whose mark may be missing. -/
def parseFormula (formula : String) : Except SyntaxError Expr :=
  parse engine.limits.parseDepth ((formulaBody? formula).getD formula)

/-- The value of a formula. -/
def evaluate (sheet : Sheet) (formula : String) : Action σ Value :=
  match engine.parseFormula formula with
  | .error error => throw (.formula error)
  | .ok e => e.evaluate (engine.context sheet)

/-- What a cell shows for the outcome of its formula. -/
def shown : Except Failure Value → Except Failure String
  | .ok v => .ok v.toText
  | .error failure => if failure.isShown then .ok errorText else .error failure

/-- The text that a cell shows for what was entered into it. -/
def display (sheet : Sheet) (text : String) : Action σ String :=
  match formulaBody? text with
  | none => return text
  | some _ => ExceptT.mk (shown <$> (engine.evaluate sheet text).run)

/-- The walk from the references of a formula to the cell that it is entered into. -/
def dependencyWalk (sheet : Sheet) (formula : String) (c : Coord) : Walk.Outcome :=
  match scanReferences formula sheet.bounds with
  | .error fault => (.error (.integer fault), {})
  | .ok references =>
    Walk.search sheet.dependencies engine.limits.dependencyDepth c references

/-- The formula would depend on the cell that it is entered into. -/
def wouldCycle (sheet : Sheet) (formula : String) (c : Coord) : Except Failure Bool :=
  (engine.dependencyWalk sheet formula c).1

/-- Fails if a formula would depend on the cell that it is entered into. -/
def check (sheet : Sheet) (formula : String) (c : Coord) : Except Failure Unit :=
  match engine.wouldCycle sheet formula c with
  | .error failure => .error failure
  | .ok true => .error (.cycle c)
  | .ok false => .ok ()

/-- The cell for what was entered at a place. -/
def cellFor (sheet : Sheet) (c : Coord) (text : String) : Action σ Cell :=
  match formulaBody? text with
  | none => return { value := text }
  | some _ =>
    match engine.check sheet text c with
    | .error failure => throw failure
    | .ok () => do
      let value ← engine.display sheet text
      return { value, formula := some text }

/-- Writes what was entered into a cell. -/
def enter (sheet : Sheet) (c : Coord) (text : String) : Action σ (Cell × Sheet) :=
  if h : c.IsInside sheet.rows sheet.cols then do
    let cell ← engine.cellFor sheet c text
    return (cell, sheet.put c cell h)
  else throw (sheet.outside c)

/-- Writes what was entered into the cell that a reference names. -/
def assign (sheet : Sheet) (ref text : String) : Action σ (Cell × Sheet) :=
  match Sheet.locate ref with
  | .error failure => throw failure
  | .ok c => engine.enter sheet c text

end Engine

end FormulaSheet
