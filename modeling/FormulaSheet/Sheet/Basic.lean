import FormulaSheet.Failure
import Std.Data.TreeMap

/-!
# Sheets

A sheet has a number of rows and columns, and stores the cells that were written. A cell that was not
written is empty, wherever it is; only cells inside the sheet can be written.

* `get_set` and `get_set_of_ne` say that a sheet is a map from coordinates to cells.
* `toList` lists the written cells row by row.
-/

namespace FormulaSheet

/-- What a cell shows, and the formula that it shows the value of. -/
structure Cell where
  value : String := ""
  formula : Option String := none
  deriving DecidableEq, Repr, Inhabited

/-- A place in the first rows and columns. -/
def Coord.IsInside (c : Coord) (rows cols : Int) : Prop :=
  (0 ≤ c.row ∧ c.row < rows) ∧ 0 ≤ c.col ∧ c.col < cols

instance (c : Coord) (rows cols : Int) : Decidable (c.IsInside rows cols) :=
  inferInstanceAs (Decidable (_ ∧ _))

/-- A sheet of cells. -/
structure Sheet where
  rows : Int
  cols : Int
  rows_pos : 0 < rows
  cols_pos : 0 < cols
  /-- The cells that were written. -/
  cells : Std.TreeMap Coord Cell Coord.cmp
  /-- They are inside the sheet. -/
  inside : ∀ c ∈ cells, c.IsInside rows cols

namespace Sheet

/-- A sheet without written cells. -/
def empty (rows cols : Int) : Except Failure Sheet :=
  if h : 0 < rows ∧ 0 < cols then
    .ok ⟨rows, cols, h.1, h.2, ∅, fun _ mem => absurd mem Std.TreeMap.not_mem_emptyc⟩
  else .error (.noCells rows cols)

/-- The sheet has a cell at a place. -/
def contains (sheet : Sheet) (c : Coord) : Bool :=
  decide (c.IsInside sheet.rows sheet.cols)

/-- The cell at a place. -/
def get (sheet : Sheet) (c : Coord) : Cell :=
  sheet.cells[c]?.getD {}

/-- The failure of a place outside of the sheet. -/
def outside (sheet : Sheet) (c : Coord) : Failure :=
  .outside c sheet.rows sheet.cols

/-- Writes a cell inside the sheet. -/
def put (sheet : Sheet) (c : Coord) (cell : Cell) (h : c.IsInside sheet.rows sheet.cols) :
    Sheet :=
  { sheet with
    cells := sheet.cells.insert c cell
    inside := fun d mem => by
      rcases Std.TreeMap.mem_insert.1 mem with eq | old
      · exact Coord.cmp_eq_iff.1 eq ▸ h
      · exact sheet.inside d old }

/-- Writes a cell. -/
def set (sheet : Sheet) (c : Coord) (cell : Cell) : Except Failure Sheet :=
  if h : c.IsInside sheet.rows sheet.cols then .ok (sheet.put c cell h)
  else .error (sheet.outside c)

/-- The written cells, row by row. -/
def toList (sheet : Sheet) : List (Coord × Cell) :=
  sheet.cells.toList

/-- The rows and columns of a sheet as bounds for ranges. -/
def bounds (sheet : Sheet) : Bounds :=
  ⟨sheet.rows, sheet.cols⟩

/-- A sheet as messages show it. -/
def describe (sheet : Sheet) : String :=
  s!"<Spreadsheet {sheet.rows}x{sheet.cols} cells={sheet.cells.size}>"

/-- The place that a reference names. -/
def locate (ref : String) : Except Failure Coord :=
  (Address.reference ref).mapError Failure.address

@[simp] theorem get_put (sheet : Sheet) (c : Coord) (cell : Cell)
    (h : c.IsInside sheet.rows sheet.cols) : (sheet.put c cell h).get c = cell := by
  simp [get, put]

theorem get_put_of_ne (sheet : Sheet) {c d : Coord} (cell : Cell)
    (h : c.IsInside sheet.rows sheet.cols) (ne : d ≠ c) :
    (sheet.put c cell h).get d = sheet.get d := by
  have different : Coord.cmp c d ≠ .eq := fun eq => ne (Coord.cmp_eq_iff.1 eq).symm
  simp [get, put, Std.TreeMap.getElem?_insert, different]

/-- A cell that was written is read back. -/
theorem get_set {sheet next : Sheet} {c : Coord} {cell : Cell}
    (h : sheet.set c cell = .ok next) : next.get c = cell := by
  unfold set at h
  split at h
  · cases h
    exact get_put ..
  · cases h

/-- Writing a cell changes no other cell. -/
theorem get_set_of_ne {sheet next : Sheet} {c d : Coord} {cell : Cell}
    (h : sheet.set c cell = .ok next) (ne : d ≠ c) : next.get d = sheet.get d := by
  unfold set at h
  split at h
  · cases h
    exact get_put_of_ne _ _ _ ne
  · cases h

end Sheet

end FormulaSheet
