import FormulaSheet.Proofs.Address.Range
import FormulaSheet.Proofs.Evaluation.Spine

/-!
# A range as its cells

A range among the arguments of a call is read by coordinates, cell by cell, and a reference by the text
that it is written with, one level deeper. Apart from the level, listing the references of the cells in
place of the range changes nothing, whatever stands before and behind it and wherever the call stands.

* `Expr.Spliced` relates an expression to the one with an argument of one of its calls replaced.
* `Expr.Spliced.node_agrees`: if the replacement agrees with the argument, so do the expressions.
* `argumentValues_references_agrees`: the references of the cells agree with the range.
* `Expr.evaluate_eq_of_listed` is the statement about whole expressions.
-/

namespace FormulaSheet

open Address (rangeCells rangeSize write)

variable {σ : Type}

/-- The second expression is the first one with the argument `arg` of one call replaced by `others`. -/
inductive Expr.Spliced (arg : Expr) (others : List Expr) : Expr → Expr → Prop
  /-- The call itself. -/
  | here (name : String) (front back : List Expr) :
      Spliced arg others (.call name (front ++ arg :: back)) (.call name (front ++ (others ++ back)))
  /-- A call in an argument of another one. -/
  | argument (name : String) (front back : List Expr) {e f : Expr} (inner : Spliced arg others e f) :
      Spliced arg others (.call name (front ++ e :: back)) (.call name (front ++ f :: back))
  /-- A call behind a sign. -/
  | operand (sign : Sign) {e f : Expr} (inner : Spliced arg others e f) :
      Spliced arg others (.unary sign e) (.unary sign f)
  /-- A call in a left operand. -/
  | left (op : BinaryOp) {e f : Expr} (inner : Spliced arg others e f) (right : Expr) :
      Spliced arg others (.binary op e right) (.binary op f right)
  /-- A call in a right operand. -/
  | right (op : BinaryOp) (left : Expr) {e f : Expr} (inner : Spliced arg others e f) :
      Spliced arg others (.binary op left e) (.binary op left f)

/-- The expression of the reference of a cell. -/
def Expr.ofReference (ref : List Char) : Expr :=
  .cell (String.ofList ref)

namespace Expr.Spliced

variable {arg e f : Expr} {others : List Expr}

theorem isChained_eq (h : Spliced arg others e f) : f.isChained = e.isChained := by
  cases h <;> rfl

theorem left_ne_range (h : Spliced arg others e f) : ∀ start finish, e ≠ .range start finish := by
  intro start finish same
  subst same
  cases h

theorem right_ne_range (h : Spliced arg others e f) : ∀ start finish, f ≠ .range start finish := by
  intro start finish same
  subst same
  cases h

end Expr.Spliced

section Frame

variable (ctx : Context σ)

/-- Arguments that agree do so behind others, too. -/
theorem Expr.argumentValues_append_agrees (front : List Expr) {args args' : List Expr} {depth : Nat}
    (same : Action.AgreesUnless ctx.Exceeds (Expr.argumentValues ctx args' depth)
      (Expr.argumentValues ctx args depth)) :
    Action.AgreesUnless ctx.Exceeds (Expr.argumentValues ctx (front ++ args') depth)
      (Expr.argumentValues ctx (front ++ args) depth) := by
  rw [Expr.argumentValues_append, Expr.argumentValues_append]
  exact (Action.AgreesUnless.refl _).bind fun values =>
    same.bind fun others => Action.AgreesUnless.refl _

/-- If an argument and its replacement agree in front of all other arguments, so do an expression with the
one and with the other. -/
theorem Expr.Spliced.node_agrees {arg e f : Expr} {others : List Expr}
    (agrees : ∀ back depth, Action.AgreesUnless ctx.Exceeds
      (Expr.argumentValues ctx (others ++ back) depth) (Expr.argumentValues ctx (arg :: back) depth))
    (h : Spliced arg others e f) (depth : Nat) :
    (f.node ctx depth).AgreesUnless ctx.Exceeds (e.node ctx depth) := by
  induction h generalizing depth with
  | here name front back =>
      rw [Expr.node, Expr.node]
      cases ctx.function? name with
      | none => exact Action.AgreesUnless.refl _
      | some function =>
          exact (Expr.argumentValues_append_agrees ctx front (agrees back depth)).bind fun values =>
            Action.AgreesUnless.refl _
  | @argument name front back e f inner ih =>
      have values : Action.AgreesUnless ctx.Exceeds (Expr.argumentValues ctx (f :: back) depth)
          (Expr.argumentValues ctx (e :: back) depth) := by
        rw [Expr.argumentValues_cons ctx inner.right_ne_range,
          Expr.argumentValues_cons ctx inner.left_ne_range]
        exact (ctx.descend_agrees (Nat.le_refl depth) (ih (depth + 1))).bind fun v =>
          Action.AgreesUnless.refl _
      rw [Expr.node, Expr.node]
      cases ctx.function? name with
      | none => exact Action.AgreesUnless.refl _
      | some function =>
          exact (Expr.argumentValues_append_agrees ctx front values).bind fun values =>
            Action.AgreesUnless.refl _
  | operand sign inner ih =>
      rw [Expr.node, Expr.node]
      exact (ctx.descend_agrees (Nat.le_refl depth) (ih (depth + 1))).bind fun v =>
        Action.AgreesUnless.refl _
  | left op inner right ih =>
      rw [Expr.node, Expr.node, inner.isChained_eq]
      split
      · exact (ih depth).bind fun v => Action.AgreesUnless.refl _
      · exact (ctx.descend_agrees (Nat.le_refl depth) (ih (depth + 1))).bind fun v =>
          Action.AgreesUnless.refl _
  | right op left inner ih =>
      have second := ctx.descend_agrees (Nat.le_refl depth) (ih (depth + 1))
      rw [Expr.node, Expr.node]
      split
      · exact (Action.AgreesUnless.refl _).bind fun v =>
          second.bind fun w => Action.AgreesUnless.refl _
      · exact (Action.AgreesUnless.refl _).bind fun v =>
          second.bind fun w => Action.AgreesUnless.refl _

end Frame

section Cells

variable (ctx : Context σ)

/-- The reference that is written for a cell is read as this cell. -/
theorem Context.readReference_of_write {c : Coord} {ref : List Char} (h : write c = .ok ref) :
    ctx.readReference (String.ofList ref) = ctx.readCell c := by
  rw [readReference, String.toList_ofList, Address.reference?_of_write h]

/-- A range with no more cells than the limit reads them one after the other. -/
theorem Context.readRange_eq_mapM {start finish : String} {r : Address.Rect}
    (spanned : Address.rect start finish = .ok r) (short : r.size ≤ ctx.limits.rangeCells) :
    ctx.readRange start finish = r.cells.mapM ctx.readCell := by
  rw [readRange, spanned]
  exact if_neg (by omega)

/-- The references of some cells as arguments read these cells in their order, one level deeper. -/
theorem Expr.argumentValues_references_agrees {cells : List Coord} {refs : List (List Char)}
    (written : List.Forall₂ (fun c ref => write c = .ok ref) cells refs) (back : List Expr)
    (depth : Nat) :
    Action.AgreesUnless ctx.Exceeds
      (Expr.argumentValues ctx (refs.map Expr.ofReference ++ back) depth)
      (do
        let values ← cells.mapM ctx.readCell
        let others ← Expr.argumentValues ctx back depth
        return values ++ others) := by
  induction written with
  | nil =>
      rw [List.mapM_nil, pure_bind, List.map_nil, List.nil_append]
      simp only [List.nil_append, bind_pure]
      exact Action.AgreesUnless.refl _
  | @cons c ref cells refs first rest ih =>
      have single : ∀ start finish, Expr.ofReference ref ≠ .range start finish := by
        rintro start finish ⟨⟩
      have read : Action.AgreesUnless ctx.Exceeds
          (ctx.descend depth fun deeper => (Expr.ofReference ref).node ctx deeper)
          (ctx.readCell c) := by
        refine Action.AgreesUnless.descend_left ctx.exceeds_deepExpression ?_
        rw [Expr.ofReference, Expr.node, ctx.readReference_of_write first]
        exact Action.AgreesUnless.refl _
      have regrouped : (do
            let values ← (c :: cells).mapM ctx.readCell
            let others ← Expr.argumentValues ctx back depth
            return values ++ others) = (do
            let v ← ctx.readCell c
            let others ← (do
              let values ← cells.mapM ctx.readCell
              let others ← Expr.argumentValues ctx back depth
              return values ++ others)
            return v :: others) := by
        simp [List.mapM_cons]
      rw [regrouped, List.map_cons, List.cons_append, Expr.argumentValues_cons ctx single]
      exact read.bind fun v => ih.bind fun others => Action.AgreesUnless.refl _

/-- A range with no more cells than the limit can be replaced by the references of its cells, in front of
any other arguments. -/
theorem Expr.argumentValues_range_agrees {start finish : String} {r : Address.Rect}
    (spanned : Address.rect start finish = .ok r) (short : r.size ≤ ctx.limits.rangeCells)
    {refs : List (List Char)} (written : r.cells.mapM write = .ok refs) (back : List Expr)
    (depth : Nat) :
    Action.AgreesUnless ctx.Exceeds
      (Expr.argumentValues ctx (refs.map Expr.ofReference ++ back) depth)
      (Expr.argumentValues ctx (.range start finish :: back) depth) := by
  rw [Expr.argumentValues, ctx.readRange_eq_mapM spanned short]
  exact Expr.argumentValues_references_agrees ctx (mapM_eq_ok_iff.1 written) back depth

end Cells

/-- The cells of a range with no more of them than the limit all have a reference. An expression in which
the range is replaced by these references, in any of its calls and among any other arguments, has the same
outcome in every state of the world and leaves the same state behind, unless it comes to the limit of
levels. -/
theorem Expr.evaluate_eq_of_listed (ctx : Context σ) {start finish : String} {size : Int}
    (sized : rangeSize start finish = .ok size) (short : size ≤ ctx.limits.rangeCells) :
    ∃ cells refs, rangeCells start finish none = .ok cells ∧ cells.mapM write = .ok refs ∧
      ∀ e f, Spliced (.range start finish) (refs.map Expr.ofReference) e f → ∀ world,
        ((f.evaluate ctx).run.run world).1 ≠ .error (.deepExpression ctx.limits.evalDepth) →
          (f.evaluate ctx).run.run world = (e.evaluate ctx).run.run world := by
  obtain ⟨r, spanned, rfl⟩ := map_eq_ok.1 sized
  obtain ⟨refs, written⟩ := Address.exists_mapM_write_cells spanned
  refine ⟨r.cells, refs, map_eq_ok.2 ⟨r, spanned, rfl⟩, written, fun e f spliced world kept => ?_⟩
  have agrees := ctx.descend_agrees (Nat.le_refl 0)
    (spliced.node_agrees ctx (Expr.argumentValues_range_agrees ctx spanned short written) 1)
  rcases agrees world with ⟨failure, failed, rfl⟩ | same
  · exact absurd failed kept
  · exact same

/-- A range of as many cells as the limit, between other arguments of a call in a right operand. -/
theorem Expr.evaluate_eq_of_listed_between :
    let ctx : Context Unit :=
      { Engine.plain.context Sheet.linked with limits := { rangeCells := 2 } }
    let call (args : List Expr) : Expr := .binary .concatenate (.text "n") (.call "CONCAT" args)
    let e := call [.text "x", .range "B1" "A1", .cell "B1"]
    let f := call [.text "x", .cell "A1", .cell "B1", .cell "B1"]
    rangeSize "B1" "A1" = .ok 2 ∧ rangeCells "B1" "A1" none = .ok [⟨0, 0⟩, ⟨0, 1⟩] ∧
      ((f.evaluate ctx).run.run ()).1 ≠ .error (.deepExpression ctx.limits.evalDepth) ∧
        (f.evaluate ctx).run.run () = (e.evaluate ctx).run.run () := by
  intro ctx call e f
  have sized : rangeSize "B1" "A1" = .ok 2 := by decide +kernel
  have found : rangeCells "B1" "A1" none = .ok [⟨0, 0⟩, ⟨0, 1⟩] := by decide +kernel
  have kept : ((f.evaluate ctx).run.run ()).1 ≠
      .error (.deepExpression ctx.limits.evalDepth) := by
    decide +kernel
  obtain ⟨cells, refs, listed, written, same⟩ :=
    Expr.evaluate_eq_of_listed ctx sized (Int.le_refl 2)
  obtain rfl : cells = [⟨0, 0⟩, ⟨0, 1⟩] := Except.ok.inj (listed.symm.trans found)
  have names : [(⟨0, 0⟩ : Coord), ⟨0, 1⟩].mapM write = .ok ["A1".toList, "B1".toList] := by
    decide +kernel
  obtain rfl : refs = ["A1".toList, "B1".toList] := Except.ok.inj (written.symm.trans names)
  have spliced : Spliced (.range "B1" "A1") (["A1".toList, "B1".toList].map Expr.ofReference) e f :=
    .right .concatenate (.text "n") (.here "CONCAT" [.text "x"] [.cell "B1"])
  exact ⟨sized, found, kept, same e f spliced () kept⟩

end FormulaSheet
