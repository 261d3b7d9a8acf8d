import FormulaSheet.Proofs.Evaluation.Relation
import FormulaSheet.Proofs.Limit.Parser

/-!
# Limits only cut

A formula under some limits and under wider ones: either the first run is cut short by one of its
limits, or both runs are the same, with the same outcome and the same questions to the world. There are
four guards, for nesting in the text, for levels of the expression, for the cells of a range and for
chains of dependent cells. Each of them stops with its own failure, and nothing turns that failure into
another one.

* `Expr.evaluate_agrees` is about the value of an expression.
* `reaches_agrees` goes along the walk that looks for a cycle. The walks agree as runs: also in the cells
  that they note as cleared, on which their later steps depend.
* `Engine.agrees_under` is the statement about the value of a formula and the verdict on it.
-/

namespace FormulaSheet

variable {σ : Type}

/-- Limits that are at most as wide as others. -/
structure Limits.Within (limits wider : Limits) : Prop where
  parseDepth : limits.parseDepth ≤ wider.parseDepth
  evalDepth : limits.evalDepth ≤ wider.evalDepth
  dependencyDepth : limits.dependencyDepth ≤ wider.dependencyDepth
  rangeCells : limits.rangeCells ≤ wider.rangeCells

/-! ### Expressions -/

/-- The failure of a range with more cells than the limit. -/
def Limits.longRange (limits : Limits) (start finish : String) (size : Int) : Failure :=
  match Number.writeNatural size.natAbs with
  | .error fault => .integer fault
  | .ok _ => .eval (.longRange start finish size limits.rangeCells)

/-- The failures by which limits cut the evaluation of an expression with these ranges short. -/
inductive Limits.CutsShort (limits : Limits) (ranges : List (String × String)) : Failure → Prop
  | levels : limits.CutsShort ranges (.deepExpression limits.evalDepth)
  | range {start finish : String} {r : Address.Rect} (mem : (start, finish) ∈ ranges)
      (spanned : Address.rect start finish = .ok r) (long : limits.rangeCells < r.size) :
      limits.CutsShort ranges (limits.longRange start finish r.size)

/-- The same context under other limits. -/
def Context.under (ctx : Context σ) (limits : Limits) : Context σ :=
  { ctx with limits }

namespace Context

variable (ctx : Context σ) {wider : Limits} (within : ctx.limits.Within wider)
  {ranges : List (String × String)}

theorem longRange_eq_throw {α : Type} (start finish : String) (size : Int) :
    (ctx.longRange start finish size : Action σ α) =
      throw (ctx.limits.longRange start finish size) := by
  unfold longRange Limits.longRange
  cases Number.writeNatural size.natAbs with
  | error fault => rfl
  | ok digits => rfl

include within

theorem readRange_agrees {start finish : String} (mem : (start, finish) ∈ ranges) :
    (ctx.readRange start finish).AgreesUnless (ctx.limits.CutsShort ranges)
      ((ctx.under wider).readRange start finish) := by
  unfold readRange
  cases spanned : Address.rect start finish with
  | error fault => exact Action.AgreesUnless.refl _
  | ok r =>
      by_cases long : ctx.limits.rangeCells < r.size
      · simp only [if_pos long, longRange_eq_throw]
        exact Action.AgreesUnless.of_stop (Limits.CutsShort.range mem spanned long) _
      · have short : ¬ (ctx.under wider).limits.rangeCells < r.size := fun exceeds =>
          long (Int.lt_of_le_of_lt within.rangeCells exceeds)
        simp only [if_neg long, if_neg short]
        exact Action.AgreesUnless.refl _

theorem descend_agrees_under {α : Type} {act other : Nat → Action σ α} {depth : Nat}
    (same : (act (depth + 1)).AgreesUnless (ctx.limits.CutsShort ranges) (other (depth + 1))) :
    Action.AgreesUnless (ctx.limits.CutsShort ranges) (ctx.descend depth act)
      ((ctx.under wider).descend depth other) :=
  Action.AgreesUnless.descend Limits.CutsShort.levels (Int.le_trans within.evalDepth) same

end Context

theorem Action.AgreesUnless.compositional (stop : Failure → Prop) :
    Action.Relation.Compositional (fun _ => Action.AgreesUnless stop : Action.Relation σ) where
  pure _ := Action.AgreesUnless.refl _
  throw _ := Action.AgreesUnless.refl _
  bind first later := first.bind later

/-- Wider limits change the value of an expression only where the narrower ones cut it short. -/
theorem Expr.evaluate_agrees (ctx : Context σ) {wider : Limits} (within : ctx.limits.Within wider)
    (e : Expr) : (e.evaluate ctx).AgreesUnless (ctx.limits.CutsShort e.rangeArguments)
      (e.evaluate (ctx.under wider)) := by
  have related : ctx.Related (fun _ => Action.AgreesUnless (ctx.limits.CutsShort e.rangeArguments))
      (ctx.under wider) e.singles e.rangeArguments e.calls :=
    { compositional := Action.AgreesUnless.compositional _
      reference := fun ref _ => Action.AgreesUnless.refl _
      range := fun start finish mem => ctx.readRange_agrees within mem
      functions := rfl
      call := fun name mem f found args => Action.AgreesUnless.refl _
      descend := fun depth same => ctx.descend_agrees_under within same }
  exact e.evaluate_related related (List.Subset.refl _) (List.Subset.refl _) (List.Subset.refl _)

/-! ### Walks -/

namespace Walk

/-- The failure of a chain of cells that is longer than the limit. -/
def Exceeds (limit : Int) (failure : Failure) : Prop :=
  ∃ c, failure = .longChain limit c

variable {dependencies : Dependencies} {limit limit' : Int} {target : Coord}

/-- Two visits that agree from every cell on. -/
def VisitsAgree (limit : Int) (visit other : Coord → Walk → Outcome) : Prop :=
  ∀ c walk, RunAgreesUnless (Exceeds limit) (visit c walk) (other c walk)

/-- Goes on from an outcome if the target was not met. -/
def goOn (further : Walk → Outcome) : Outcome → Outcome
  | (.ok false, walk) => further walk
  | stopped => stopped

theorem goOn_agrees {further other : Walk → Outcome}
    (later : ∀ walk, RunAgreesUnless (Exceeds limit) (further walk) (other walk)) {x y : Outcome}
    (first : RunAgreesUnless (Exceeds limit) x y) :
    RunAgreesUnless (Exceeds limit) (goOn further x) (goOn other y) := by
  rcases first with ⟨failure, failed, cut⟩ | rfl
  · unfold goOn
    split
    · cases failed
    · exact Or.inl ⟨failure, failed, cut⟩
  · unfold goOn
    split
    · exact later _
    · exact Or.inr rfl

theorem follow_agrees {visit other : Coord → Walk → Outcome} (h : VisitsAgree limit visit other)
    (cs : List Coord) (walk : Walk) :
    RunAgreesUnless (Exceeds limit) (follow visit cs walk) (follow other cs walk) := by
  induction cs generalizing walk with
  | nil => exact Or.inr rfl
  | cons c rest ih => exact goOn_agrees ih (h c walk)

theorem expand_agrees {visit other : Coord → Walk → Outcome} (h : VisitsAgree limit visit other) :
    VisitsAgree limit (expand dependencies visit) (expand dependencies other) := by
  intro c walk
  unfold expand
  split
  · exact Or.inr rfl
  · exact Or.inr rfl
  · next references _ =>
    exact goOn_agrees (fun _ => Or.inr rfl) (follow_agrees h references (walk.enter c))

theorem arrive_agrees {further other : Coord → Walk → Outcome}
    (h : VisitsAgree limit further other) :
    VisitsAgree limit (arrive target further) (arrive target other) := by
  intro c walk
  unfold arrive
  split
  · exact Or.inr rfl
  · split
    · exact Or.inr rfl
    · exact h c walk

/-- A walk of fewer steps is the same walk, unless it runs out of steps. -/
theorem reaches_agrees {steps steps' : Nat} (h : steps ≤ steps') :
    VisitsAgree limit (reaches dependencies limit target steps)
      (reaches dependencies limit' target steps') := by
  induction steps generalizing steps' with
  | zero =>
      cases steps' with
      | zero => exact arrive_agrees fun c walk => Or.inl ⟨_, rfl, c, rfl⟩
      | succ steps' => exact arrive_agrees fun c walk => Or.inl ⟨_, rfl, c, rfl⟩
  | succ steps ih =>
      cases steps' with
      | zero => cases h
      | succ steps' => exact arrive_agrees (expand_agrees (ih (Nat.le_of_succ_le_succ h)))

end Walk

/-! ### Formulas on a sheet -/

namespace Engine

/-- The same engine under other limits. -/
def under (engine : Engine σ) (limits : Limits) : Engine σ :=
  { engine with limits }

/-- The failures by which the limits of an engine cut the evaluation of a formula short. -/
inductive CutsShort (engine : Engine σ) (formula : String) : Failure → Prop
  | nesting : engine.CutsShort formula (.formula (.tooDeep engine.limits.parseDepth))
  | evaluation {e : Expr} {failure : Failure} (parsed : engine.parseFormula formula = .ok e)
      (cut : engine.limits.CutsShort e.rangeArguments failure) : engine.CutsShort formula failure

variable (engine : Engine σ) {wider : Limits} (within : engine.limits.Within wider)
include within

theorem evaluate_agrees (sheet : Sheet) (formula : String) :
    (engine.evaluate sheet formula).AgreesUnless (engine.CutsShort formula)
      ((engine.under wider).evaluate sheet formula) := by
  unfold evaluate
  rcases parse_agrees within.parseDepth ((formulaBody? formula).getD formula) with
    ⟨error, failed, rfl⟩ | same
  · have parsed : engine.parseFormula formula = .error _ := failed
    rw [parsed]
    exact Action.AgreesUnless.of_stop CutsShort.nesting _
  · have parsed : (engine.under wider).parseFormula formula = engine.parseFormula formula := same.symm
    rw [parsed]
    cases read : engine.parseFormula formula with
    | error error => exact Action.AgreesUnless.refl _
    | ok e =>
        have agrees := e.evaluate_agrees (engine.context sheet) within
        exact agrees.mono fun failure cut => CutsShort.evaluation read cut

theorem wouldCycle_agrees (sheet : Sheet) (formula : String) (c : Coord) :
    AgreesUnless (Walk.Exceeds engine.limits.dependencyDepth) (engine.wouldCycle sheet formula c)
      ((engine.under wider).wouldCycle sheet formula c) := by
  unfold wouldCycle dependencyWalk
  cases scanReferences formula sheet.bounds with
  | error fault => exact AgreesUnless.refl _
  | ok references =>
      have steps := Int.toNat_le_toNat within.dependencyDepth
      exact (Walk.follow_agrees (Walk.reaches_agrees steps) references {}).result

/-- Under wider limits a formula has the same value, with the same questions to the world, and the same
verdict, unless one of the narrower limits cuts the evaluation or the walk short. -/
theorem agrees_under (sheet : Sheet) (formula : String) :
    (engine.evaluate sheet formula).AgreesUnless (engine.CutsShort formula)
        ((engine.under wider).evaluate sheet formula) ∧
      ∀ c, AgreesUnless (Walk.Exceeds engine.limits.dependencyDepth)
        (engine.wouldCycle sheet formula c) ((engine.under wider).wouldCycle sheet formula c) :=
  ⟨engine.evaluate_agrees within sheet formula, engine.wouldCycle_agrees within sheet formula⟩

end Engine

/-- A product under limits of which the one on ranges cuts the second factor short. -/
theorem Engine.agrees_under_linked :
    let engine : Engine Unit :=
      { Engine.plain with
        limits := { parseDepth := 2, evalDepth := 3, dependencyDepth := 1, rangeCells := 2 } }
    let formula := "=SUM(A1:B1) * SUM(A1:A3)"
    engine.limits.Within {} ∧
      (engine.evaluate Sheet.linked formula).AgreesUnless (engine.CutsShort formula)
          ((engine.under {}).evaluate Sheet.linked formula) ∧
        ∀ c, AgreesUnless (Walk.Exceeds engine.limits.dependencyDepth)
          (engine.wouldCycle Sheet.linked formula c)
          ((engine.under {}).wouldCycle Sheet.linked formula c) := by
  intro engine formula
  have within : engine.limits.Within {} := ⟨by decide, by decide, by decide, by decide⟩
  exact ⟨within, engine.agrees_under within Sheet.linked formula⟩

end FormulaSheet
