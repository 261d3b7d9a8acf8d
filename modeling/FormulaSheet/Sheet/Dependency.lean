import FormulaSheet.Failure

/-!
# Dependencies between cells

The formula of a cell refers to other cells, whose formulas refer to further ones. Before a formula is
stored, a walk along these references decides whether it would come back to the cell of the formula.

**Walk.** The references of a cell are followed one after the other, each to its end before the next
one. A cell is not entered again while the walk is below it (`path`), nor after all that can be reached
from it has turned out not to include the target (`cleared`). `Walk.scanned` records the cells whose
formulas were read.

**Limit.** A walk of `n` more steps is a walk of `n - 1` more steps from each cell that the current one
refers to, so a chain of cells that is longer than the limit is found out when no step is left. Cells
that are not entered need no step.
-/

namespace FormulaSheet

/-- What the formula of a cell refers to; nothing for a cell without a formula. -/
abbrev Dependencies := Coord → Option (Except Number.IntegerFault (List Coord))

/-- The state of a walk. -/
structure Walk where
  /-- The cells between the start of the walk and the place where it is. -/
  path : Coord.Set := ∅
  /-- The cells from which the target is not reached. -/
  cleared : Coord.Set := ∅
  /-- The cells whose formulas were read, the latest one first. -/
  scanned : List Coord := []

namespace Walk

/-- The walk does not enter this cell again. -/
def isKnown (walk : Walk) (c : Coord) : Bool :=
  walk.path.contains c || walk.cleared.contains c

/-- Goes below a cell and reads its formula. -/
def enter (walk : Walk) (c : Coord) : Walk :=
  { walk with path := walk.path.insert c, scanned := c :: walk.scanned }

/-- Comes back from below a cell without having met the target. -/
def leave (walk : Walk) (c : Coord) : Walk :=
  { walk with path := walk.path.erase c, cleared := walk.cleared.insert c }

/-- Notes that a cell without a formula does not lead to the target. -/
def clear (walk : Walk) (c : Coord) : Walk :=
  { walk with cleared := walk.cleared.insert c }

/-- Whether the target was met, or why that cannot be told, and the state of the walk then. -/
abbrev Outcome := Except Failure Bool × Walk

/-- Follows references one after the other until the target is met. -/
def follow (visit : Coord → Walk → Outcome) : List Coord → Walk → Outcome
  | [], walk => (.ok false, walk)
  | c :: rest, walk =>
    match visit c walk with
    | (.ok false, walk) => follow visit rest walk
    | stopped => stopped

/-- Comes to a cell that is neither the target nor known. -/
def expand (dependencies : Dependencies) (visit : Coord → Walk → Outcome) (c : Coord)
    (walk : Walk) : Outcome :=
  match dependencies c with
  | none => (.ok false, walk.clear c)
  | some (.error fault) => (.error (.integer fault), walk.enter c)
  | some (.ok references) =>
    match follow visit references (walk.enter c) with
    | (.ok false, walk) => (.ok false, walk.leave c)
    | stopped => stopped

/-- Comes to a cell, and does what `further` says if it is neither the target nor known. -/
def arrive (target : Coord) (further : Coord → Walk → Outcome) (c : Coord) (walk : Walk) :
    Outcome :=
  if c = target then (.ok true, walk)
  else if walk.isKnown c then (.ok false, walk)
  else further c walk

/-- Walks from a cell with a number of steps left. -/
def reaches (dependencies : Dependencies) (limit : Int) (target : Coord) :
    Nat → Coord → Walk → Outcome
  | 0 => arrive target fun c walk => (.error (.longChain limit c), walk)
  | steps + 1 => arrive target (expand dependencies (reaches dependencies limit target steps))

/-- Walks from the references of a formula that is to be stored in the target. -/
def search (dependencies : Dependencies) (limit : Int) (target : Coord)
    (references : List Coord) : Outcome :=
  follow (reaches dependencies limit target limit.toNat) references {}

@[simp] theorem follow_nil (visit : Coord → Walk → Outcome) (walk : Walk) :
    follow visit [] walk = (.ok false, walk) := rfl

end Walk

end FormulaSheet
