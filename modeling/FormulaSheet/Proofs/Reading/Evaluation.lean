import FormulaSheet.Proofs.Dependency.Cycle
import FormulaSheet.Proofs.Reading.Cells

/-!
# What an evaluation reads

Evaluation reads cells in two places: a reference reads its cell, and a range among the arguments of
a call reads all cells that it spans. Both are among the references of the expression, wherever they
stand, so two sheets that show the same in these cells cannot be told apart by it.

* `Context.Agree` relates two contexts that differ at most in the texts of other cells.
* `node_eq_of_agree` and `argumentValues_eq_of_agree` carry it through the tree.
* `evaluate_eq_of_references` is the statement about two sheets. Its two sides are equal as actions:
  in every state of the world they have the same outcome and leave the same state behind, so
  everything that the world was asked is the same, too.
-/

namespace FormulaSheet

open Address (reference? rangeCells)

variable {σ : Type}

/-- Two contexts with the same functions and limits, and the same texts in some cells. -/
structure Context.Agree (ctx other : Context σ) (cells : List Coord) : Prop where
  texts : ∀ c ∈ cells, ctx.cellText c = other.cellText c
  functions : ctx.function? = other.function?
  limits : ctx.limits = other.limits

theorem mapM_congr {α β : Type} {f g : α → Action σ β} {xs : List α}
    (h : ∀ x ∈ xs, f x = g x) : xs.mapM f = xs.mapM g := by
  induction xs with
  | nil => rfl
  | cons x rest ih =>
      rw [List.mapM_cons, List.mapM_cons, h x List.mem_cons_self,
        ih fun y mem => h y (List.mem_cons_of_mem x mem)]

namespace Context

variable {ctx other : Context σ} {cells : List Coord}

theorem Agree.readCell_eq (agree : ctx.Agree other cells) {c : Coord} (mem : c ∈ cells) :
    ctx.readCell c = other.readCell c := by
  unfold readCell
  rw [agree.texts c mem]

theorem Agree.readReference_eq (agree : ctx.Agree other cells) {ref : String}
    {found : List Coord} (h : (Expr.cell ref).cells none = .ok found) (sub : found ⊆ cells) :
    ctx.readReference ref = other.readReference ref := by
  unfold readReference
  obtain ⟨target, named, rfl⟩ := map_eq_ok.1 h
  rw [named]
  cases target with
  | none => rfl
  | some c => exact agree.readCell_eq (sub List.mem_cons_self)

theorem Agree.longRange_eq {α : Type} (agree : ctx.Agree other cells) (start finish : String)
    (size : Int) :
    (ctx.longRange start finish size : Action σ α) = other.longRange start finish size := by
  unfold longRange
  rw [agree.limits]

/-- A range reads the cells that it contributes to the references, and no others. -/
theorem Agree.readRange_eq (agree : ctx.Agree other cells) {start finish : String}
    (sub : cellsOfRange none start finish ⊆ cells) :
    ctx.readRange start finish = other.readRange start finish := by
  unfold readRange
  unfold cellsOfRange rangeCells at sub
  cases spanned : Address.rect start finish with
  | error fault => rfl
  | ok r =>
      rw [spanned] at sub
      have read : r.cells.mapM ctx.readCell = r.cells.mapM other.readCell :=
        mapM_congr fun c mem => agree.readCell_eq (sub mem)
      simp only [agree.limits, agree.longRange_eq, read]

theorem Agree.descend_eq {α : Type} (agree : ctx.Agree other cells) {act act' : Nat → Action σ α}
    (same : ∀ depth, act depth = act' depth) (depth : Nat) :
    ctx.descend depth act = other.descend depth act' := by
  unfold descend
  rw [agree.limits, same]

end Context

/-- The equation for an argument that is not a range. -/
theorem Expr.argumentValues_cons (ctx : Context σ) {arg : Expr}
    (h : ∀ start finish, arg ≠ .range start finish) (rest : List Expr) (depth : Nat) :
    Expr.argumentValues ctx (arg :: rest) depth = do
      let v ← ctx.descend depth fun deeper => arg.node ctx deeper
      let others ← Expr.argumentValues ctx rest depth
      return v :: others := by
  rw [Expr.argumentValues]
  exact h

theorem Expr.isRange_or (arg : Expr) :
    (∃ start finish, arg = .range start finish) ∨ ∀ start finish, arg ≠ .range start finish := by
  by_cases range : ∃ start finish, arg = .range start finish
  · exact Or.inl range
  · exact Or.inr fun start finish same => range ⟨start, finish, same⟩

/-- Arguments behind others are evaluated after these, and their values stand behind theirs. -/
theorem Expr.argumentValues_append (ctx : Context σ) (front args : List Expr) (depth : Nat) :
    Expr.argumentValues ctx (front ++ args) depth = do
      let values ← Expr.argumentValues ctx front depth
      let others ← Expr.argumentValues ctx args depth
      return values ++ others := by
  induction front with
  | nil => simp [Expr.argumentValues]
  | cons arg rest ih =>
      rw [List.cons_append]
      rcases arg.isRange_or with ⟨start, finish, rfl⟩ | single
      · rw [Expr.argumentValues, Expr.argumentValues, ih]
        simp only [bind_assoc, pure_bind, List.append_assoc]
      · rw [Expr.argumentValues_cons ctx single, Expr.argumentValues_cons ctx single, ih]
        simp only [bind_assoc, pure_bind, List.cons_append]

mutual

/-- A node has the same value in contexts that agree on its cells. -/
theorem Expr.node_eq_of_agree {ctx other : Context σ} {cells : List Coord}
    (agree : ctx.Agree other cells) (e : Expr) {found : List Coord}
    (h : e.cells none = .ok found) (sub : found ⊆ cells) (depth : Nat) :
    e.node ctx depth = e.node other depth := by
  cases e with
  | number x => rfl
  | text s => rfl
  | cell ref => exact agree.readReference_eq h sub
  | range start finish => rfl
  | unary sign operand =>
      have value := agree.descend_eq (Expr.node_eq_of_agree agree operand h sub) depth
      rw [Expr.node, Expr.node, value]
  | binary op left right =>
      obtain ⟨front, first, h⟩ := bind_eq_ok.1 h
      obtain ⟨behind, second, last⟩ := bind_eq_ok.1 h
      cases last
      obtain ⟨subLeft, subRight⟩ := List.append_subset.1 sub
      have left_eq := Expr.node_eq_of_agree agree left first subLeft
      have right_eq := Expr.node_eq_of_agree agree right second subRight
      -- The left operand may stay on the level of the operation or go one level deeper.
      rw [Expr.node, Expr.node, left_eq depth, agree.descend_eq left_eq depth,
        agree.descend_eq right_eq depth]
  | call name args =>
      have values := Expr.argumentValues_eq_of_agree agree args h sub depth
      rw [Expr.node, Expr.node, agree.functions, values]

/-- Arguments have the same values in contexts that agree on their cells. -/
theorem Expr.argumentValues_eq_of_agree {ctx other : Context σ} {cells : List Coord}
    (agree : ctx.Agree other cells) (args : List Expr) {found : List Coord}
    (h : Expr.cellsOfList none args = .ok found) (sub : found ⊆ cells) (depth : Nat) :
    Expr.argumentValues ctx args depth = Expr.argumentValues other args depth := by
  cases args with
  | nil => rfl
  | cons arg rest =>
      obtain ⟨front, first, h⟩ := bind_eq_ok.1 h
      obtain ⟨behind, later, last⟩ := bind_eq_ok.1 h
      cases last
      obtain ⟨subFront, subBehind⟩ := List.append_subset.1 sub
      have others := Expr.argumentValues_eq_of_agree agree rest later subBehind depth
      rcases arg.isRange_or with ⟨start, finish, rfl⟩ | single
      · cases first
        rw [Expr.argumentValues, Expr.argumentValues, agree.readRange_eq subFront, others]
      · have value := agree.descend_eq (Expr.node_eq_of_agree agree arg first subFront) depth
        rw [Expr.argumentValues_cons ctx single, Expr.argumentValues_cons other single, value,
          others]

end

/-- An expression has the same value on two sheets that show the same in the cells that it refers
to, whatever their sizes are and whatever stands in their other cells. -/
theorem Engine.evaluate_eq_of_references (engine : Engine σ) {e : Expr} {references : List Coord}
    (known : e.references none = .ok references) {sheet other : Sheet}
    (same : ∀ c ∈ references, (sheet.get c).value = (other.get c).value) :
    e.evaluate (engine.context sheet) = e.evaluate (engine.context other) := by
  obtain ⟨cells, found, mem_iff⟩ := Expr.references_eq_ok known
  have agree : (engine.context sheet).Agree (engine.context other) cells :=
    { texts := fun c mem => congrArg pure (same c ((mem_iff c).2 mem))
      functions := rfl
      limits := rfl }
  exact agree.descend_eq (Expr.node_eq_of_agree agree e found (List.Subset.refl cells)) 0

/-- Three rows of five cells, of which the second one of the first row shows the same as the cell of
`Sheet.linked` does, and one of the second row something else. -/
def Sheet.scattered : Sheet :=
  (Sheet.put ⟨3, 5, by decide, by decide, ∅, fun _ mem => absurd mem Std.TreeMap.not_mem_emptyc⟩
    ⟨0, 1⟩ { value := "0" } (by decide)).put ⟨1, 3⟩ { value := "7" } (by decide)

/-- A sum over cells of which the second one is outside of one of the sheets. -/
theorem Engine.evaluate_eq_scattered :
    (Expr.call "SUM" [.range "B1" "C1"]).references none = .ok [⟨0, 1⟩, ⟨0, 2⟩] ∧
      (∀ c ∈ ([⟨0, 1⟩, ⟨0, 2⟩] : List Coord),
        (Sheet.linked.get c).value = (Sheet.scattered.get c).value) ∧
      (Expr.call "SUM" [.range "B1" "C1"]).evaluate (Engine.plain.context Sheet.linked) =
        (Expr.call "SUM" [.range "B1" "C1"]).evaluate (Engine.plain.context Sheet.scattered) := by
  have known : (Expr.call "SUM" [.range "B1" "C1"]).references none =
      .ok [⟨0, 1⟩, ⟨0, 2⟩] := by
    decide +kernel
  have same : ∀ c ∈ ([⟨0, 1⟩, ⟨0, 2⟩] : List Coord),
      (Sheet.linked.get c).value = (Sheet.scattered.get c).value := by
    decide +kernel
  exact ⟨known, same, Engine.plain.evaluate_eq_of_references known same⟩

end FormulaSheet
