import Std.Data.TreeSet

/-!
# Coordinates

A cell is addressed by its row and its column, both counted from zero. Coordinates are ordered row by
row. Any two integers are coordinates; whether a sheet has a cell there is the sheet's business.

`Coord.distinct` keeps the first occurrence of each coordinate of a list: `mem_distinct` says that it
keeps the coordinates, `nodup_distinct` that it keeps each of them once, and `distinct_eq_eraseDups` that
it keeps them in their order.
-/

namespace FormulaSheet

/-- The place of a cell. -/
structure Coord where
  row : Int
  col : Int
  deriving DecidableEq, Repr, Inhabited

namespace Coord

/-- The order of cells: row by row, and from left to right within a row. -/
def cmp (a b : Coord) : Ordering :=
  (compare a.row b.row).then (compare a.col b.col)

instance : Std.TransCmp cmp :=
  inferInstanceAs (Std.TransCmp (compareLex (compareOn Coord.row) (compareOn Coord.col)))

@[simp] theorem cmp_eq_iff {a b : Coord} : cmp a b = .eq ↔ a = b := by
  cases a
  cases b
  simp [cmp, Ordering.then_eq_eq]

instance : Std.LawfulEqCmp cmp where
  eq_of_compare := cmp_eq_iff.1

/-- A set of coordinates. -/
abbrev Set := Std.TreeSet Coord cmp

/-- Adds a coordinate to the ones seen, and to the list of first occurrences if it is new. -/
def addDistinct (state : Set × Array Coord) (c : Coord) : Set × Array Coord :=
  if state.1.contains c then state else (state.1.insert c, state.2.push c)

/-- The first occurrences of the coordinates of a list, in their order. -/
def distinct (cs : List Coord) : List Coord :=
  (cs.foldl addDistinct (∅, #[])).2.toList

/-- The set of a state holds what its list holds. -/
def Agrees (state : Set × Array Coord) : Prop :=
  ∀ c, c ∈ state.1 ↔ c ∈ state.2.toList

theorem addDistinct_of_mem {state : Set × Array Coord} {c : Coord} (h : c ∈ state.1) :
    addDistinct state c = state := by
  rw [addDistinct, if_pos (Std.TreeSet.mem_iff_contains.1 h)]

theorem addDistinct_of_not_mem {state : Set × Array Coord} {c : Coord} (h : c ∉ state.1) :
    addDistinct state c = (state.1.insert c, state.2.push c) := by
  rw [addDistinct, if_neg fun seen => h (Std.TreeSet.mem_iff_contains.2 seen)]

theorem agrees_addDistinct {state : Set × Array Coord} (h : Agrees state) (c : Coord) :
    Agrees (addDistinct state c) := by
  by_cases seen : c ∈ state.1
  · rw [addDistinct_of_mem seen]
    exact h
  · rw [addDistinct_of_not_mem seen]
    intro d
    have same : cmp c d = .eq ↔ d = c := cmp_eq_iff.trans eq_comm
    simp only [Std.TreeSet.mem_insert, Array.toList_push, List.mem_append, List.mem_singleton,
      h d, same]
    exact or_comm

theorem mem_addDistinct {state : Set × Array Coord} (h : Agrees state) {c d : Coord} :
    d ∈ (addDistinct state c).2.toList ↔ d ∈ state.2.toList ∨ d = c := by
  by_cases seen : c ∈ state.1
  · rw [addDistinct_of_mem seen]
    exact ⟨Or.inl, fun mem => mem.elim id fun eq => eq ▸ (h c).1 seen⟩
  · rw [addDistinct_of_not_mem seen]
    simp

theorem nodup_addDistinct {state : Set × Array Coord} (h : Agrees state)
    (nodup : state.2.toList.Nodup) (c : Coord) : (addDistinct state c).2.toList.Nodup := by
  by_cases seen : c ∈ state.1
  · rw [addDistinct_of_mem seen]
    exact nodup
  · rw [addDistinct_of_not_mem seen, Array.toList_push]
    refine List.nodup_append.2 ⟨nodup, by simp, fun a mem b single => ?_⟩
    rw [List.mem_singleton] at single
    rintro rfl
    exact seen ((h c).2 (single ▸ mem))

theorem mem_foldl_addDistinct {state : Set × Array Coord} (h : Agrees state) (cs : List Coord)
    {d : Coord} :
    d ∈ (cs.foldl addDistinct state).2.toList ↔ d ∈ state.2.toList ∨ d ∈ cs := by
  induction cs generalizing state with
  | nil => simp
  | cons c rest ih =>
    rw [List.foldl_cons, ih (agrees_addDistinct h c), mem_addDistinct h, List.mem_cons, or_assoc]

theorem nodup_foldl_addDistinct {state : Set × Array Coord} (h : Agrees state)
    (nodup : state.2.toList.Nodup) (cs : List Coord) :
    (cs.foldl addDistinct state).2.toList.Nodup := by
  induction cs generalizing state with
  | nil => exact nodup
  | cons c rest ih => exact ih (agrees_addDistinct h c) (nodup_addDistinct h nodup c)

theorem agrees_empty : Agrees (∅, #[]) := by
  intro c
  simp

/-- No coordinate is lost and none is added. -/
@[simp] theorem mem_distinct {cs : List Coord} {c : Coord} : c ∈ distinct cs ↔ c ∈ cs := by
  rw [distinct, mem_foldl_addDistinct agrees_empty]
  simp

/-- Every coordinate is kept once. -/
theorem nodup_distinct (cs : List Coord) : (distinct cs).Nodup :=
  nodup_foldl_addDistinct agrees_empty List.nodup_nil cs

/-- A coordinate that is added last changes nothing if it has been there before. -/
theorem toList_addDistinct {state : Set × Array Coord} (h : Agrees state) {front : List Coord}
    (seen : state.2.toList = front.eraseDups) (c : Coord) :
    (addDistinct state c).2.toList = (front ++ [c]).eraseDups := by
  have known : c ∈ state.1 ↔ c ∈ front := by rw [h c, seen, List.mem_eraseDups]
  rw [List.eraseDups_append]
  by_cases before : c ∈ front
  · rw [addDistinct_of_mem (known.2 before), seen]
    simp [List.removeAll, before]
  · rw [addDistinct_of_not_mem fun mem => before (known.1 mem), Array.toList_push, seen]
    simp [List.removeAll, before, List.eraseDups_cons]

theorem toList_foldl_addDistinct {state : Set × Array Coord} (h : Agrees state) {front : List Coord}
    (seen : state.2.toList = front.eraseDups) (cs : List Coord) :
    (cs.foldl addDistinct state).2.toList = (front ++ cs).eraseDups := by
  induction cs generalizing state front with
  | nil => rw [List.foldl_nil, List.append_nil, seen]
  | cons c rest ih =>
    rw [List.foldl_cons, ih (agrees_addDistinct h c) (toList_addDistinct h seen c),
      List.append_assoc, List.singleton_append]

/-- Of every coordinate the later occurrences are left out. -/
theorem distinct_eq_eraseDups (cs : List Coord) : distinct cs = cs.eraseDups := by
  have nothing : (#[] : Array Coord).toList = ([] : List Coord).eraseDups := rfl
  exact toList_foldl_addDistinct agrees_empty nothing cs

end Coord

/-- The number of rows and columns that a range of cells is cut down to. -/
structure Bounds where
  rows : Int
  cols : Int
  deriving DecidableEq, Repr

end FormulaSheet
