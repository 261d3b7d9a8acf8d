import FormulaSheet.Address.Range
import FormulaSheet.Proofs.Address.RoundTrip
import FormulaSheet.Proofs.Result
import Mathlib.Data.Int.Order.Basic
import Mathlib.Order.MinMax

/-!
# Ranges as lists of cells

Two references span a rectangle. It is listed row by row without a cell outside of it or outside of the
bounds, and the number of its cells, which is computed without listing them, is the length of the list.

* `Rect.pairwise_cells`, `Rect.length_cells` and `mem_cellsWithin_ofCorners` are about the list of a
  rectangle.
* `rect_eq_error_iff` says which of two texts is blamed if they span no rectangle.
* `rangeCells_listsBetween` has these together for two texts.
* `exists_mapM_write_cells`: every cell between two references has a reference itself.
-/

namespace FormulaSheet
namespace Address

theorem pairwise_span (first last : Int) : (span first last).Pairwise (· < ·) := by
  unfold span
  rw [List.pairwise_map]
  exact List.pairwise_lt_range.imp fun before => by omega

theorem length_span (first last : Int) : (span first last).length = (last - first + 1).toNat := by
  rw [span, List.length_map, List.length_range]

/-- The cells of a rectangle are listed row by row, and from left to right within a row. -/
theorem Rect.pairwise_cells (r : Rect) : r.cells.Pairwise fun first later =>
    first.row < later.row ∨ first.row = later.row ∧ first.col < later.col := by
  unfold cells
  rw [List.pairwise_flatMap]
  refine ⟨fun row _ => ?_, (pairwise_span _ _).imp fun {row row'} before => ?_⟩
  · rw [List.pairwise_map]
    exact (pairwise_span _ _).imp fun before => Or.inr ⟨rfl, before⟩
  · intro c mem d mem'
    obtain ⟨col, _, rfl⟩ := List.mem_map.1 mem
    obtain ⟨col', _, rfl⟩ := List.mem_map.1 mem'
    exact Or.inl before

/-- A rectangle with at least one cell has as many cells as its sides say. -/
theorem Rect.length_cells {r : Rect} (rows : r.top ≤ r.bottom) (cols : r.left ≤ r.right) :
    (r.cells.length : Int) = r.size := by
  have each : ∀ row ∈ span r.top r.bottom,
      ((span r.left r.right).map fun col => (⟨row, col⟩ : Coord)).length =
        (r.right - r.left + 1).toNat := by
    intro row _
    rw [List.length_map, length_span]
  rw [cells, size, List.length_flatMap, List.map_congr_left each, List.map_const',
    List.sum_replicate_nat, length_span, Int.natCast_mul, Int.toNat_of_nonneg (by omega),
    Int.toNat_of_nonneg (by omega)]

/-- The two other corners span the same rectangle. -/
theorem Rect.ofCorners_other (a b : Coord) :
    ofCorners ⟨a.row, b.col⟩ ⟨b.row, a.col⟩ = ofCorners a b := by
  simp only [ofCorners, Rect.mk.injEq, true_and]
  omega

/-- A list has the cells between two corners, as far as they are inside the bounds, each of them once
and row by row. -/
structure ListsBetween (a b : Coord) (bounds : Option Bounds) (cells : List Coord) : Prop where
  mem_iff : ∀ c, c ∈ cells ↔
    (min a.row b.row ≤ c.row ∧ c.row ≤ max a.row b.row) ∧
      (min a.col b.col ≤ c.col ∧ c.col ≤ max a.col b.col) ∧
        ∀ limit, bounds = some limit → c.row < limit.rows ∧ c.col < limit.cols
  increasing : cells.Pairwise fun first later =>
    first.row < later.row ∨ first.row = later.row ∧ first.col < later.col
  nodup : cells.Nodup

theorem mem_cellsWithin_ofCorners {a b : Coord} {bounds : Option Bounds} {c : Coord} :
    c ∈ (Rect.ofCorners a b).cellsWithin bounds ↔
      (min a.row b.row ≤ c.row ∧ c.row ≤ max a.row b.row) ∧
        (min a.col b.col ≤ c.col ∧ c.col ≤ max a.col b.col) ∧
          ∀ limit, bounds = some limit → c.row < limit.rows ∧ c.col < limit.cols := by
  cases bounds with
  | none => simp [Rect.cellsWithin, Rect.mem_cells, Rect.ofCorners]
  | some limit =>
      simp only [Rect.cellsWithin, Rect.mem_cells, Rect.clip, Rect.ofCorners, Option.some.injEq,
        forall_eq']
      omega

theorem increasing_cellsWithin (r : Rect) (bounds : Option Bounds) :
    (r.cellsWithin bounds).Pairwise fun first later =>
      first.row < later.row ∨ first.row = later.row ∧ first.col < later.col := by
  cases bounds with
  | none => exact r.pairwise_cells
  | some limit => exact (r.clip limit).pairwise_cells

theorem listsBetween_cellsWithin (a b : Coord) (bounds : Option Bounds) :
    ListsBetween a b bounds ((Rect.ofCorners a b).cellsWithin bounds) where
  mem_iff c := mem_cellsWithin_ofCorners
  increasing := increasing_cellsWithin _ bounds
  nodup := by
    refine (increasing_cellsWithin _ bounds).imp fun {first later} before => ?_
    rintro rfl
    omega

/-! ### References -/

section Texts

variable {start finish : String}

theorem rect_eq_ok {a b : Coord} (first : reference? start.toList = .ok (some a))
    (last : reference? finish.toList = .ok (some b)) :
    rect start finish = .ok (Rect.ofCorners a b) := by
  rw [rect, first, last]

/-- The first one of two texts that is no reference. -/
def firstNoReference? (start finish : String) : Option String :=
  [start, finish].find? fun text => reference? text.toList = .ok none

/-- Two texts that can be read span no rectangle if one of them is no reference, and the first such text
is blamed. -/
theorem rect_eq_error_iff (first : ShortRow start.toList) (last : ShortRow finish.toList)
    {fault : Fault} :
    rect start finish = .error fault ↔
      ∃ bad, firstNoReference? start finish = some bad ∧ fault = .notAReference bad := by
  obtain ⟨a?, readFirst⟩ := exists_reference?_of_shortRow first
  obtain ⟨b?, readLast⟩ := exists_reference?_of_shortRow last
  cases a? with
  | none => simp [rect, firstNoReference?, readFirst, readLast, eq_comm]
  | some a =>
      cases b? with
      | none => simp [rect, firstNoReference?, readFirst, readLast, eq_comm]
      | some b => simp [rect, firstNoReference?, readFirst, readLast]

end Texts

/-- Two references list the cells between them, as far as they are inside the bounds. Whichever two
opposite corners they name, and in which order, the list is the same, and the size of the range is the
length of the list without bounds. Two texts with row numbers within the limit of integers list nothing
and have no size if and only if one of them is no reference, and the first such text is blamed. -/
theorem rangeCells_listsBetween (start finish : String) :
    (∀ a b, reference? start.toList = .ok (some a) → reference? finish.toList = .ok (some b) →
      (∀ bounds, ∃ cells, rangeCells start finish bounds = .ok cells ∧
        ListsBetween a b bounds cells ∧ rangeCells finish start bounds = .ok cells ∧
          ∀ start' finish', reference? start'.toList = .ok (some ⟨a.row, b.col⟩) →
            reference? finish'.toList = .ok (some ⟨b.row, a.col⟩) →
              rangeCells start' finish' bounds = .ok cells ∧
                rangeCells finish' start' bounds = .ok cells) ∧
      ∃ cells, rangeCells start finish none = .ok cells ∧
        rangeSize start finish = .ok cells.length) ∧
    (ShortRow start.toList → ShortRow finish.toList → ∀ fault,
      (∀ bounds, rangeCells start finish bounds = .error fault ↔
        ∃ bad, firstNoReference? start finish = some bad ∧ fault = .notAReference bad) ∧
      (rangeSize start finish = .error fault ↔
        ∃ bad, firstNoReference? start finish = some bad ∧ fault = .notAReference bad)) := by
  refine ⟨fun a b first last => ⟨fun bounds => ?_, ?_⟩, fun first last fault => ⟨fun bounds => ?_, ?_⟩⟩
  · have there := rect_eq_ok first last
    have back := rect_eq_ok last first
    rw [Rect.ofCorners_comm] at back
    refine ⟨_, map_eq_ok.2 ⟨_, there, rfl⟩, listsBetween_cellsWithin a b bounds,
      map_eq_ok.2 ⟨_, back, rfl⟩, fun start' finish' first' last' => ?_⟩
    have other := rect_eq_ok first' last'
    have otherBack := rect_eq_ok last' first'
    rw [Rect.ofCorners_comm, Rect.ofCorners_other] at otherBack
    rw [Rect.ofCorners_other] at other
    exact ⟨map_eq_ok.2 ⟨_, other, rfl⟩, map_eq_ok.2 ⟨_, otherBack, rfl⟩⟩
  · have spanned := rect_eq_ok first last
    refine ⟨_, map_eq_ok.2 ⟨_, spanned, rfl⟩, map_eq_ok.2 ⟨_, spanned, ?_⟩⟩
    refine (Rect.length_cells ?_ ?_).symm
    · exact Int.le_trans (Int.min_le_left ..) (Int.le_max_left ..)
    · exact Int.le_trans (Int.min_le_left ..) (Int.le_max_left ..)
  · exact map_eq_error.trans (rect_eq_error_iff first last)
  · exact map_eq_error.trans (rect_eq_error_iff first last)

/-- A range whose first corner is the lower right one, on a sheet that ends within it, and two texts of
which the second one names the row zero. -/
theorem rangeCells_listsBetween_reversed :
    (∃ cells, rangeCells "C2" "b01" (some ⟨2, 2⟩) = .ok cells ∧
        ListsBetween ⟨1, 2⟩ ⟨0, 1⟩ (some ⟨2, 2⟩) cells ∧ cells = [⟨0, 1⟩, ⟨1, 1⟩]) ∧
      rangeCells "B2" "C1" (some ⟨2, 2⟩) = rangeCells "C2" "b01" (some ⟨2, 2⟩) ∧
      (∃ cells, rangeCells "C2" "b01" none = .ok cells ∧ rangeSize "C2" "b01" = .ok cells.length) ∧
      rangeSize "A1" "A0" = .error (.notAReference "A0") := by
  have first : reference? "C2".toList = .ok (some ⟨1, 2⟩) := by decide +kernel
  have last : reference? "b01".toList = .ok (some ⟨0, 1⟩) := by decide +kernel
  have other : reference? "C1".toList = .ok (some ⟨0, 2⟩) := by decide +kernel
  have other' : reference? "B2".toList = .ok (some ⟨1, 1⟩) := by decide +kernel
  have short : ShortRow "A1".toList :=
    ShortDigits.shortRow fun ds inside _ => inside.length_le.trans (by decide)
  have short' : ShortRow "A0".toList :=
    ShortDigits.shortRow fun ds inside _ => inside.length_le.trans (by decide)
  obtain ⟨lists, length⟩ := (rangeCells_listsBetween "C2" "b01").1 _ _ first last
  obtain ⟨cells, listed, between, _, corners⟩ := lists (some ⟨2, 2⟩)
  have same : cells = [⟨0, 1⟩, ⟨1, 1⟩] := by
    have found : rangeCells "C2" "b01" (some ⟨2, 2⟩) = .ok [⟨0, 1⟩, ⟨1, 1⟩] := by decide +kernel
    exact Except.ok.inj (listed.symm.trans found)
  refine ⟨⟨cells, listed, between, same⟩, ?_, length, ?_⟩
  · exact (corners "B2" "C1" other' other).1.trans listed.symm
  · exact (((rangeCells_listsBetween "A1" "A0").2 short short' _).2).2 ⟨"A0", by decide +kernel, rfl⟩

/-! ### References of the cells -/

/-- Two references that span a rectangle name two opposite corners of it. -/
theorem exists_corners_of_rect {start finish : String} {r : Rect}
    (spanned : rect start finish = .ok r) :
    ∃ a b, reference? start.toList = .ok (some a) ∧ reference? finish.toList = .ok (some b) ∧
      r = Rect.ofCorners a b := by
  cases first : reference? start.toList with
  | error fault => simp [rect, first] at spanned
  | ok a? =>
      cases last : reference? finish.toList with
      | error fault => simp [rect, first, last] at spanned
      | ok b? =>
          cases a? with
          | none => simp [rect, first, last] at spanned
          | some a =>
              cases b? with
              | none => simp [rect, first, last] at spanned
              | some b =>
                  rw [rect_eq_ok first last] at spanned
                  exact ⟨a, b, rfl, rfl, (Except.ok.inj spanned).symm⟩

/-- A cell between two others that can be written can be written, too: its row number has no more digits
than the larger one of theirs. -/
theorem exists_write_of_mem_ofCorners {a b c : Coord} {front back : List Char}
    (first : write a = .ok front) (last : write b = .ok back)
    (mem : c ∈ (Rect.ofCorners a b).cells) : ∃ cs, write c = .ok cs := by
  obtain ⟨rowA, colA, fewA, _⟩ := write_eq_ok_iff.1 first
  obtain ⟨rowB, colB, fewB, _⟩ := write_eq_ok_iff.1 last
  obtain ⟨rows, cols⟩ := Rect.mem_cells.1 mem
  have top : 0 ≤ (Rect.ofCorners a b).top := Int.le_min.2 ⟨rowA, rowB⟩
  have left : 0 ≤ (Rect.ofCorners a b).left := Int.le_min.2 ⟨colA, colB⟩
  have few : (Text.naturalDigits (c.row + 1).toNat).length ≤ Number.digitLimit := by
    rcases le_max_iff.1 rows.2 with before | before
    · exact (Text.length_naturalDigits_mono (by omega)).trans fewA
    · exact (Text.length_naturalDigits_mono (by omega)).trans fewB
  exact ⟨_, write_eq_ok_iff.2 ⟨top.trans rows.1, left.trans cols.1, few, rfl⟩⟩

/-- Every cell between two references has a reference. -/
theorem exists_mapM_write_cells {start finish : String} {r : Rect}
    (spanned : rect start finish = .ok r) : ∃ refs, r.cells.mapM write = .ok refs := by
  obtain ⟨a, b, first, last, rfl⟩ := exists_corners_of_rect spanned
  obtain ⟨_, _, _, fewA, spelledA⟩ := spelledBy_of_reference? first
  obtain ⟨_, _, _, fewB, spelledB⟩ := spelledBy_of_reference? last
  exact exists_mapM_eq_ok fun c mem =>
    exists_write_of_mem_ofCorners (spelledA.write_eq fewA) (spelledB.write_eq fewB) mem

/-- The cells of the first row up to a column are between its first cell and a reference to the last. -/
theorem rect_firstRow {letters : List Char} (ne : letters ≠ [])
    (upper : ∀ c ∈ letters, c.isUpper = true) :
    rect "A1" (String.ofList (letters ++ ['1'])) = .ok ⟨0, 0, 0, (labelValue letters - 1 : Nat)⟩ := by
  have one : Text.naturalDigits 1 = ['1'] := Text.naturalDigits_of_lt (by decide)
  have written : write ⟨0, (labelValue letters - 1 : Nat)⟩ = .ok (letters ++ ['1']) := by
    rw [write_eq_ok_iff]
    refine ⟨Int.le_refl 0, Int.natCast_nonneg _, ?_, ?_⟩
    · change (Text.naturalDigits 1).length ≤ Number.digitLimit
      rw [one]
      decide
    · change columnLabel (labelValue letters - 1) ++ Text.naturalDigits 1 = _
      rw [one, columnLabel_labelValue ne upper]
  have first : reference? "A1".toList = .ok (some ⟨0, 0⟩) := by decide +kernel
  have last : reference? (String.ofList (letters ++ ['1'])).toList =
      .ok (some ⟨0, (labelValue letters - 1 : Nat)⟩) := by
    rw [String.toList_ofList]
    exact reference?_of_write written
  rw [rect_eq_ok first last, Rect.ofCorners]
  simp

end Address
end FormulaSheet
