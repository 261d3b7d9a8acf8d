import FormulaSheet.Proofs.Reading.Evaluation

/-!
# Relations that evaluation keeps

Two contexts may differ in what reading a cell, a range or going one level deeper does. If a relation
between actions holds of these steps, and is kept when actions follow each other, then it holds of the
values of every expression in the two contexts. The induction on expressions is made once here, for any
such relation. What is asked of a context depends on the parts of the expression: its references, the
ranges among its arguments, and the functions that it calls.
-/

namespace FormulaSheet

variable {σ : Type}

mutual

/-- The references in an expression that are no ends of a range. -/
def Expr.singles : Expr → List String
  | .cell ref => [ref]
  | .unary _ operand => operand.singles
  | .binary _ left right => left.singles ++ right.singles
  | .call _ args => Expr.singlesAmong args
  | _ => []

/-- The references in some expressions that are no ends of a range. -/
def Expr.singlesAmong : List Expr → List String
  | [] => []
  | e :: rest => e.singles ++ Expr.singlesAmong rest

end

mutual

/-- The ranges among the arguments of the calls in an expression. -/
def Expr.rangeArguments : Expr → List (String × String)
  | .unary _ operand => operand.rangeArguments
  | .binary _ left right => left.rangeArguments ++ right.rangeArguments
  | .call _ args => Expr.rangesAmong args
  | _ => []

/-- The ranges among some arguments and in the calls of the others. -/
def Expr.rangesAmong : List Expr → List (String × String)
  | [] => []
  | .range start finish :: rest => (start, finish) :: Expr.rangesAmong rest
  | arg :: rest => arg.rangeArguments ++ Expr.rangesAmong rest

end

mutual

/-- The names of the functions that are called in an expression. -/
def Expr.calls : Expr → List String
  | .unary _ operand => operand.calls
  | .binary _ left right => left.calls ++ right.calls
  | .call name args => name :: Expr.callsAmong args
  | _ => []

/-- The names of the functions that are called in some expressions. -/
def Expr.callsAmong : List Expr → List String
  | [] => []
  | e :: rest => e.calls ++ Expr.callsAmong rest

end

theorem Expr.rangesAmong_cons {arg : Expr} (h : ∀ start finish, arg ≠ .range start finish)
    (rest : List Expr) :
    Expr.rangesAmong (arg :: rest) = arg.rangeArguments ++ Expr.rangesAmong rest := by
  rw [Expr.rangesAmong]
  exact h

/-- A relation between actions, for results of every type. -/
abbrev Action.Relation (σ : Type) : Type 1 :=
  (α : Type) → Action σ α → Action σ α → Prop

/-- A relation that is kept when actions are put together. -/
structure Action.Relation.Compositional (R : Action.Relation σ) : Prop where
  pure : ∀ {α : Type} (a : α), R α (pure a) (pure a)
  throw : ∀ {α : Type} (fault : EvalFault), R α (throw (.eval fault)) (throw (.eval fault))
  bind : ∀ {α β : Type} {act other : Action σ α} {f g : α → Action σ β},
    R α act other → (∀ a, R β (f a) (g a)) → R β (act >>= f) (other >>= g)

/-- Two contexts with the same functions, whose steps are related for these references, ranges and
names. -/
structure Context.Related (R : Action.Relation σ) (ctx other : Context σ)
    (refs : List String) (ranges : List (String × String)) (names : List String) : Prop where
  compositional : R.Compositional
  reference : ∀ ref ∈ refs, R Value (ctx.readReference ref) (other.readReference ref)
  range : ∀ start finish, (start, finish) ∈ ranges →
    R (List Value) (ctx.readRange start finish) (other.readRange start finish)
  functions : ctx.function? = other.function?
  call : ∀ name ∈ names, ∀ f, ctx.function? name = some f →
    ∀ args, R Value (Context.callFunction name f args) (Context.callFunction name f args)
  descend : ∀ {act act' : Nat → Action σ Value} (depth : Nat),
    R Value (act (depth + 1)) (act' (depth + 1)) →
      R Value (ctx.descend depth act) (other.descend depth act')

theorem Action.Relation.Compositional.ofEval {R : Action.Relation σ} (h : R.Compositional)
    {α : Type} (result : Except EvalFault α) : R α (Context.ofEval result) (Context.ofEval result) := by
  cases result with
  | error fault => exact h.throw fault
  | ok a => exact h.pure a

section Related

variable {R : Action.Relation σ} {ctx other : Context σ} {refs : List String}
  {ranges : List (String × String)} {names : List String}
  (related : ctx.Related R other refs ranges names)
include related

mutual

/-- The values of a node in related contexts are related. -/
theorem Expr.node_related (e : Expr) (subRefs : e.singles ⊆ refs)
    (subRanges : e.rangeArguments ⊆ ranges) (subNames : e.calls ⊆ names) (depth : Nat) :
    R Value (e.node ctx depth) (e.node other depth) := by
  have steps := related.compositional
  cases e with
  | number x => exact steps.pure _
  | text s => exact steps.pure _
  | cell ref => exact related.reference ref (subRefs List.mem_cons_self)
  | range start finish => exact steps.throw _
  | unary sign operand =>
      have value := operand.node_related subRefs subRanges subNames
      exact steps.bind (related.descend depth (value _)) fun v => steps.ofEval _
  | binary op left right =>
      obtain ⟨refsLeft, refsRight⟩ := List.append_subset.1 subRefs
      obtain ⟨rangesLeft, rangesRight⟩ := List.append_subset.1 subRanges
      obtain ⟨namesLeft, namesRight⟩ := List.append_subset.1 subNames
      have first := left.node_related refsLeft rangesLeft namesLeft
      have second := related.descend depth (right.node_related refsRight rangesRight namesRight _)
      rw [Expr.node, Expr.node]
      -- The left operand may stay on the level of the operation or go one level deeper.
      split
      · exact steps.bind (first depth) fun v => steps.bind second fun w => steps.ofEval _
      · exact steps.bind (related.descend depth (first _)) fun v =>
          steps.bind second fun w => steps.ofEval _
  | call name args =>
      obtain ⟨mem, namesArgs⟩ := List.cons_subset.1 subNames
      have values := Expr.argumentValues_related args subRefs subRanges namesArgs depth
      rw [Expr.node, Expr.node, ← related.functions]
      cases found : ctx.function? name with
      | none => exact steps.throw _
      | some f => exact steps.bind values fun values => related.call name mem f found values

theorem Expr.argumentValues_related (args : List Expr) (subRefs : Expr.singlesAmong args ⊆ refs)
    (subRanges : Expr.rangesAmong args ⊆ ranges) (subNames : Expr.callsAmong args ⊆ names)
    (depth : Nat) :
    R (List Value) (Expr.argumentValues ctx args depth) (Expr.argumentValues other args depth) := by
  have steps := related.compositional
  cases args with
  | nil => exact steps.pure _
  | cons arg rest =>
      obtain ⟨refsArg, refsRest⟩ := List.append_subset.1 subRefs
      obtain ⟨namesArg, namesRest⟩ := List.append_subset.1 subNames
      rcases arg.isRange_or with ⟨start, finish, rfl⟩ | single
      · obtain ⟨mem, rangesRest⟩ := List.cons_subset.1 subRanges
        have others := Expr.argumentValues_related rest refsRest rangesRest namesRest depth
        rw [Expr.argumentValues, Expr.argumentValues]
        exact steps.bind (related.range start finish mem) fun values =>
          steps.bind others fun others => steps.pure _
      · rw [Expr.rangesAmong_cons single] at subRanges
        obtain ⟨rangesArg, rangesRest⟩ := List.append_subset.1 subRanges
        have value := related.descend depth (arg.node_related refsArg rangesArg namesArg _)
        have others := Expr.argumentValues_related rest refsRest rangesRest namesRest depth
        rw [Expr.argumentValues_cons ctx single, Expr.argumentValues_cons other single]
        exact steps.bind value fun v => steps.bind others fun others => steps.pure _

end

/-- The values of an expression in related contexts are related. -/
theorem Expr.evaluate_related {e : Expr} (subRefs : e.singles ⊆ refs)
    (subRanges : e.rangeArguments ⊆ ranges) (subNames : e.calls ⊆ names) :
    R Value (e.evaluate ctx) (e.evaluate other) :=
  related.descend 0 (e.node_related related subRefs subRanges subNames 1)

end Related

end FormulaSheet
