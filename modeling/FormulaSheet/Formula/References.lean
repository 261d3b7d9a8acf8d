import FormulaSheet.Address.Range
import FormulaSheet.Formula.Expr

/-!
# The cells that an expression reads

`references` lists the cells that an expression refers to, those of a range row by row, each where it
first occurs from left to right. Nodes that still have to be visited wait in a list with the next one in
front. A reference or a range that names no cells contributes nothing.
-/

namespace FormulaSheet

open Address (reference? rangeCells)

/-- The cells seen so far: as a set, and in their order. -/
abbrev Seen := Coord.Set × Array Coord

/-- Adds the cells of a range, if it is one. -/
def addRange (bounds : Option Bounds) (start finish : String) (seen : Seen) : Seen :=
  match rangeCells start finish bounds with
  | .ok cells => cells.foldl Coord.addDistinct seen
  | .error _ => seen

/-- Adds the cell of a reference, if it is one. -/
def addReference (ref : String) (seen : Seen) : Except Number.IntegerFault Seen :=
  match reference? ref.toList with
  | .error fault => .error fault
  | .ok none => .ok seen
  | .ok (some c) => .ok (Coord.addDistinct seen c)

/-- Visits the waiting nodes. -/
def visit (bounds : Option Bounds) : List Expr → Seen → Except Number.IntegerFault Seen
  | [], seen => .ok seen
  | e :: waiting, seen =>
    match e with
    | .number _ | .text _ => visit bounds waiting seen
    | .cell ref => do
      let seen ← addReference ref seen
      visit bounds waiting seen
    | .range start finish => visit bounds waiting (addRange bounds start finish seen)
    | .unary _ operand => visit bounds (operand :: waiting) seen
    | .binary _ left right => visit bounds (left :: right :: waiting) seen
    | .call _ args => visit bounds (args ++ waiting) seen
termination_by waiting _ => Expr.nodesOfList waiting
decreasing_by
  all_goals
    simp only [Expr.nodesOfList_append, Expr.nodesOfList, Expr.nodes]
    omega

/-- The cells that an expression reads, with ranges cut down to the bounds. -/
def Expr.references (e : Expr) (bounds : Option Bounds) : Except Number.IntegerFault (List Coord) :=
  (visit bounds [e] (∅, #[])).map (·.2.toList)

end FormulaSheet
