import FormulaSheet.Address.Reference

/-!
# Ranges of cells

Two references span the rectangle that has them as opposite corners, whichever corners they are. A
rectangle is listed row by row, from left to right, and can be cut down to the rows and columns of a
sheet.
-/

namespace FormulaSheet
namespace Address

/-- The cells from row `top` to row `bottom` and from column `left` to column `right`. -/
structure Rect where
  top : Int
  bottom : Int
  left : Int
  right : Int
  deriving DecidableEq, Repr

/-- The rectangle with two opposite corners. -/
def Rect.ofCorners (a b : Coord) : Rect where
  top := min a.row b.row
  bottom := max a.row b.row
  left := min a.col b.col
  right := max a.col b.col

/-- The number of cells of a rectangle that has at least one. -/
def Rect.size (r : Rect) : Int :=
  (r.bottom - r.top + 1) * (r.right - r.left + 1)

/-- The part of a rectangle inside the first rows and columns. -/
def Rect.clip (r : Rect) (bounds : Bounds) : Rect :=
  { r with
    bottom := min r.bottom (bounds.rows - 1)
    right := min r.right (bounds.cols - 1) }

/-- The integers from `first` to `last`. -/
def span (first last : Int) : List Int :=
  (List.range (last - first + 1).toNat).map fun i : Nat => first + i

/-- The cells of a rectangle, row by row. -/
def Rect.cells (r : Rect) : List Coord :=
  (span r.top r.bottom).flatMap fun row => (span r.left r.right).map fun col => ⟨row, col⟩

/-- The rectangle that two references span. -/
def rect (start finish : String) : Except Fault Rect :=
  match reference? start.toList, reference? finish.toList with
  | .error fault, _ | _, .error fault => .error (.rowNumber fault)
  | .ok none, .ok _ => .error (.notAReference start)
  | .ok (some _), .ok none => .error (.notAReference finish)
  | .ok (some a), .ok (some b) => .ok (Rect.ofCorners a b)

/-- The cells of a rectangle, cut down to the bounds if there are any. -/
def Rect.cellsWithin (r : Rect) : Option Bounds → List Coord
  | none => r.cells
  | some bounds => (r.clip bounds).cells

/-- The cells that two references span. -/
def rangeCells (start finish : String) (bounds : Option Bounds) : Except Fault (List Coord) :=
  (rect start finish).map (·.cellsWithin bounds)

/-- The number of cells that two references span. -/
def rangeSize (start finish : String) : Except Fault Int :=
  (rect start finish).map Rect.size

theorem mem_span {first last n : Int} : n ∈ span first last ↔ first ≤ n ∧ n ≤ last := by
  simp only [span, List.mem_map, List.mem_range]
  constructor
  · rintro ⟨i, lt, rfl⟩
    omega
  · rintro ⟨low, high⟩
    exact ⟨(n - first).toNat, by omega, by omega⟩

/-- The cells of a rectangle are those between its sides. -/
theorem Rect.mem_cells {r : Rect} {c : Coord} :
    c ∈ r.cells ↔ (r.top ≤ c.row ∧ c.row ≤ r.bottom) ∧ r.left ≤ c.col ∧ c.col ≤ r.right := by
  simp only [cells, List.mem_flatMap, List.mem_map, mem_span]
  constructor
  · rintro ⟨row, hrow, col, hcol, rfl⟩
    exact ⟨hrow, hcol⟩
  · rintro ⟨hrow, hcol⟩
    exact ⟨c.row, hrow, c.col, hcol, rfl⟩

theorem Rect.ofCorners_comm (a b : Coord) : ofCorners a b = ofCorners b a := by
  simp only [ofCorners, Rect.mk.injEq]
  omega

end Address
end FormulaSheet
