import FormulaSheet.Formula.References
import FormulaSheet.Proofs.Result

/-!
# The cells of an expression by recursion

`Expr.references` visits nodes that wait in a list. Here the cells of an expression are collected by
recursion on the tree, from left to right and with repetitions, which is the form that proofs about
evaluation need.

* `visit_eq` says that visiting waiting nodes adds their cells, in their order, to those seen.
* `references_eq` says that the references are the first occurrences of these cells.
* `Expr.references_eq_eraseDups` says so without the set of cells seen: from the cells by recursion every
  later occurrence of a cell is left out.
-/

namespace FormulaSheet

open Address (reference? rangeCells)

/-- The cells that a range contributes. -/
def cellsOfRange (bounds : Option Bounds) (start finish : String) : List Coord :=
  match rangeCells start finish bounds with
  | .ok cells => cells
  | .error _ => []

theorem mem_cellsOfRange {bounds : Option Bounds} {start finish : String} {c : Coord} :
    c ∈ cellsOfRange bounds start finish ↔
      ∃ a b, reference? start.toList = .ok (some a) ∧ reference? finish.toList = .ok (some b) ∧
        c ∈ (Address.Rect.ofCorners a b).cellsWithin bounds := by
  unfold cellsOfRange rangeCells Address.rect
  cases reference? start.toList with
  | error fault => simp [Except.map]
  | ok a =>
      cases reference? finish.toList with
      | error fault => simp [Except.map]
      | ok b =>
          cases a with
          | none => simp [Except.map]
          | some a =>
              cases b with
              | none => simp [Except.map]
              | some b => simp [Except.map]

mutual

/-- The cells of an expression from left to right. -/
def Expr.cells (bounds : Option Bounds) : Expr → Except Number.IntegerFault (List Coord)
  | .number _ => .ok []
  | .text _ => .ok []
  | .cell ref => (reference? ref.toList).map Option.toList
  | .range start finish => .ok (cellsOfRange bounds start finish)
  | .unary _ operand => operand.cells bounds
  | .binary _ left right => do
    let front ← left.cells bounds
    let behind ← right.cells bounds
    return front ++ behind
  | .call _ args => Expr.cellsOfList bounds args

/-- The cells of some expressions from left to right. -/
def Expr.cellsOfList (bounds : Option Bounds) :
    List Expr → Except Number.IntegerFault (List Coord)
  | [] => .ok []
  | e :: rest => do
    let front ← e.cells bounds
    let behind ← Expr.cellsOfList bounds rest
    return front ++ behind

end

theorem addRange_eq (bounds : Option Bounds) (start finish : String) (seen : Seen) :
    addRange bounds start finish seen =
      (cellsOfRange bounds start finish).foldl Coord.addDistinct seen := by
  unfold addRange cellsOfRange
  cases rangeCells start finish bounds with
  | ok cells => rfl
  | error fault => rfl

theorem addReference_eq (ref : String) (seen : Seen) :
    addReference ref seen =
      (reference? ref.toList).map fun c => c.toList.foldl Coord.addDistinct seen := by
  unfold addReference
  cases reference? ref.toList with
  | error fault => rfl
  | ok found =>
      cases found with
      | none => rfl
      | some c => rfl

/-- The cells of a list of expressions are those of its two parts, in their order. -/
theorem cellsOfList_append (bounds : Option Bounds) (es fs : List Expr) :
    Expr.cellsOfList bounds (es ++ fs) = do
      let front ← Expr.cellsOfList bounds es
      let behind ← Expr.cellsOfList bounds fs
      return front ++ behind := by
  induction es with
  | nil =>
      rw [List.nil_append, Expr.cellsOfList]
      cases Expr.cellsOfList bounds fs with
      | error fault => rfl
      | ok cells => rfl
  | cons e rest ih =>
      rw [List.cons_append, Expr.cellsOfList, Expr.cellsOfList, ih]
      cases e.cells bounds with
      | error fault => rfl
      | ok front =>
          cases Expr.cellsOfList bounds rest with
          | error fault => rfl
          | ok middle =>
              cases Expr.cellsOfList bounds fs with
              | error fault => rfl
              | ok behind => exact congrArg Except.ok (List.append_assoc ..).symm

/-- A leaf without cells changes nothing for the nodes behind it. -/
theorem cellsOfList_of_nil {bounds : Option Bounds} {e : Expr} (h : e.cells bounds = .ok [])
    (rest : List Expr) : Expr.cellsOfList bounds (e :: rest) = Expr.cellsOfList bounds rest := by
  rw [Expr.cellsOfList, h]
  cases Expr.cellsOfList bounds rest with
  | error fault => rfl
  | ok cells => rfl

/-- An operation stands for its operands. -/
theorem cellsOfList_binary (bounds : Option Bounds) (op : BinaryOp) (left right : Expr)
    (rest : List Expr) :
    Expr.cellsOfList bounds (.binary op left right :: rest) =
      Expr.cellsOfList bounds (left :: right :: rest) := by
  rw [Expr.cellsOfList, Expr.cellsOfList, Expr.cellsOfList, Expr.cells]
  cases left.cells bounds with
  | error fault => rfl
  | ok front =>
      cases right.cells bounds with
      | error fault => rfl
      | ok middle =>
          cases Expr.cellsOfList bounds rest with
          | error fault => rfl
          | ok behind => exact congrArg Except.ok (List.append_assoc front middle behind)

/-- Visiting the waiting nodes adds their cells to those seen. -/
theorem visit_eq (bounds : Option Bounds) (waiting : List Expr) (seen : Seen) :
    visit bounds waiting seen =
      (Expr.cellsOfList bounds waiting).map fun cells => cells.foldl Coord.addDistinct seen := by
  fun_induction visit bounds waiting seen with
  | case1 seen => rfl
  | case2 waiting seen x ih => rw [ih, cellsOfList_of_nil rfl]
  | case3 waiting seen s ih => rw [ih, cellsOfList_of_nil rfl]
  | case4 waiting seen ref ih =>
      rw [addReference_eq, Expr.cellsOfList, Expr.cells]
      cases reference? ref.toList with
      | error fault => rfl
      | ok found =>
          refine (ih _).trans ?_
          cases Expr.cellsOfList bounds waiting with
          | error fault => rfl
          | ok cells => exact congrArg Except.ok List.foldl_append.symm
  | case5 waiting seen start finish ih =>
      rw [ih, addRange_eq, Expr.cellsOfList, Expr.cells]
      cases Expr.cellsOfList bounds waiting with
      | error fault => rfl
      | ok cells => exact congrArg Except.ok List.foldl_append.symm
  | case6 waiting seen sign operand ih => exact ih
  | case7 waiting seen op left right ih => rw [ih, cellsOfList_binary]
  | case8 waiting seen name args ih => rw [ih, cellsOfList_append]; rfl

/-- The references of an expression are the first occurrences of its cells. -/
theorem Expr.references_eq (e : Expr) (bounds : Option Bounds) :
    e.references bounds = (e.cells bounds).map Coord.distinct := by
  rw [Expr.references, visit_eq, Expr.cellsOfList, Expr.cellsOfList]
  cases e.cells bounds with
  | error fault => rfl
  | ok cells => exact congrArg (Except.ok ∘ Coord.distinct) (List.append_nil cells)

/-- The references of an expression are its cells from left to right without the later occurrences of a
cell, so none is repeated. They are unknown only if a cell is. -/
theorem Expr.references_eq_eraseDups (e : Expr) (bounds : Option Bounds) :
    e.references bounds = (e.cells bounds).map List.eraseDups ∧
      ∀ references, e.references bounds = .ok references → references.Nodup := by
  have distinct : e.references bounds = (e.cells bounds).map Coord.distinct := e.references_eq bounds
  refine ⟨?_, fun references h => ?_⟩
  · rw [distinct]
    exact congrArg (Except.map · _) (funext Coord.distinct_eq_eraseDups)
  · rw [distinct] at h
    obtain ⟨cells, _, rfl⟩ := map_eq_ok.1 h
    exact Coord.nodup_distinct cells

/-- Two ranges that overlap and are cut down to two rows, a text that is no reference between them, and two
cells that are in one of them. -/
theorem Expr.references_eq_eraseDups_overlapping :
    let e : Expr := .binary .add
      (.call "SUM" [.cell "B1", .range "B2" "A1", .cell "A0", .range "B1" "C3"])
      (.unary .minus (.cell "C2"))
    ∃ references, e.references (some ⟨2, 5⟩) = .ok references ∧ references.Nodup ∧
      references = [⟨0, 1⟩, ⟨0, 0⟩, ⟨1, 0⟩, ⟨1, 1⟩, ⟨0, 2⟩, ⟨1, 2⟩] := by
  intro e
  obtain ⟨same, nodup⟩ := e.references_eq_eraseDups (some ⟨2, 5⟩)
  have cells : e.cells (some ⟨2, 5⟩) = .ok [⟨0, 1⟩, ⟨0, 0⟩, ⟨0, 1⟩, ⟨1, 0⟩, ⟨1, 1⟩, ⟨0, 1⟩, ⟨0, 2⟩,
      ⟨1, 1⟩, ⟨1, 2⟩, ⟨1, 2⟩] := by
    decide +kernel
  rw [cells] at same
  exact ⟨_, same, nodup _ same, by decide⟩

/-- The references of an expression are known if its cells are, and are the same cells. -/
theorem Expr.references_eq_ok {e : Expr} {bounds : Option Bounds} {references : List Coord}
    (h : e.references bounds = .ok references) :
    ∃ cells, e.cells bounds = .ok cells ∧ ∀ c, c ∈ references ↔ c ∈ cells := by
  rw [Expr.references_eq] at h
  obtain ⟨cells, found, rfl⟩ := map_eq_ok.1 h
  exact ⟨cells, found, fun c => Coord.mem_distinct⟩

end FormulaSheet
