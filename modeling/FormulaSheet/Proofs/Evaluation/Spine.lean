import FormulaSheet.Proofs.Dependency.Cycle
import FormulaSheet.Proofs.Limit.Agreement
import FormulaSheet.Proofs.Reading.Evaluation

/-!
# Walking a chain of operations

A chain of operators is evaluated from its innermost left operand on, one operator after the other, on
one level of depth. The plain way to evaluate an expression is to go one level deeper for each operand,
the left one of a chain included. It needs more levels, so it may stop at the limit where the walk does
not; apart from that both read the same cells, call the same functions and fail in the same way, in the
same order.

* `node_eq_walk` shows the value of a chain as a loop over its operators, the `walk`.
* `descend_agrees_walk` compares the walk along a left operand with going down into it.
* `plainNode_agrees` goes through an expression, at a level that is at least as deep for the plain way.
* `evaluate_eq_plainEvaluate` is the statement about whole expressions.
-/

namespace FormulaSheet

variable {σ : Type}

/-! ### The walk as a loop -/

/-- The operand in which a chain of operations starts. -/
def Expr.innermost : Expr → Expr
  | .binary op left right => if op != .power then left.innermost else .binary op left right
  | e => e

/-- The operators of a chain with their right operands, from the innermost one on. -/
def Expr.links : Expr → List (BinaryOp × Expr)
  | .binary op left right => if op != .power then left.links ++ [(op, right)] else []
  | _ => []

/-- Goes on from the value of a left operand. -/
def Context.applyLink (ctx : Context σ) (depth : Nat) (v : Value) (link : BinaryOp × Expr) :
    Action σ Value := do
  let w ← ctx.descend depth fun deeper => link.2.node ctx deeper
  Context.ofEval (link.1.apply v w)

/-- Goes from the innermost operand of a chain along its operators, with all operands one level deeper. -/
def Expr.walk (ctx : Context σ) (e : Expr) (depth : Nat) : Action σ Value := do
  let v ← ctx.descend depth fun deeper => e.innermost.node ctx deeper
  e.links.foldlM (ctx.applyLink depth) v

/-- Without a chain the walk goes to the expression itself. -/
theorem Expr.walk_of_not_isChained (ctx : Context σ) {e : Expr} (h : e.isChained = false)
    (depth : Nat) : e.walk ctx depth = ctx.descend depth fun deeper => e.node ctx deeper := by
  have start : e.innermost = e ∧ e.links = [] := by
    cases e with
    | binary op left right =>
        have power : (op != .power) = false := h
        simp [innermost, links, power]
    | number | text | cell | range | unary | call => exact ⟨rfl, rfl⟩
  rw [walk, start.1, start.2]
  simp

/-- The last operator of a chain comes after the walk along the others. -/
theorem Expr.walk_binary (ctx : Context σ) {op : BinaryOp} (chained : (op != .power) = true)
    (left right : Expr) (depth : Nat) :
    (Expr.binary op left right).walk ctx depth = (do
      let v ← left.walk ctx depth
      ctx.applyLink depth v (op, right)) := by
  simp [walk, innermost, links, chained]

/-- A chain is evaluated by a loop over its operators. -/
theorem Expr.node_eq_walk (ctx : Context σ) (e : Expr) (h : e.isChained = true) (depth : Nat) :
    e.node ctx depth = e.walk ctx depth := by
  cases e with
  | binary op left right =>
      have other : (op != .power) = true := h
      rw [walk_binary ctx other, node, other, Bool.true_and]
      by_cases chained : left.isChained = true
      · -- The left operand is the front part of the loop.
        rw [if_pos chained, left.node_eq_walk ctx chained]
        rfl
      · rw [if_neg chained, walk_of_not_isChained ctx (Bool.eq_false_iff.2 chained)]
        rfl
  | number | text | cell | range | unary | call => cases h

/-! ### The plain way -/

mutual

/-- The value of a node on level `depth`, with every operand one level deeper. -/
def Expr.plainNode (ctx : Context σ) : Expr → Nat → Action σ Value
  | .number x, _ => return .number x
  | .text s, _ => return .text s
  | .cell ref, _ => ctx.readReference ref
  | .range start finish, _ => throw (.eval (.bareRange start finish))
  | .unary sign operand, depth => do
    let v ← ctx.descend depth fun deeper => operand.plainNode ctx deeper
    Context.ofEval (sign.apply v)
  | .binary op left right, depth => do
    let v ← ctx.descend depth fun deeper => left.plainNode ctx deeper
    let w ← ctx.descend depth fun deeper => right.plainNode ctx deeper
    Context.ofEval (op.apply v w)
  | .call name args, depth =>
    match ctx.function? name with
    | none => throw (.eval (.unknownFunction name))
    | some f => do
      let values ← Expr.plainArguments ctx args depth
      Context.callFunction name f values

/-- The values of the arguments of a node on level `depth`, evaluated in the plain way. -/
def Expr.plainArguments (ctx : Context σ) : List Expr → Nat → Action σ (List Value)
  | [], _ => return []
  | .range start finish :: rest, depth => do
    let values ← ctx.readRange start finish
    let others ← Expr.plainArguments ctx rest depth
    return values ++ others
  | arg :: rest, depth => do
    let v ← ctx.descend depth fun deeper => arg.plainNode ctx deeper
    let others ← Expr.plainArguments ctx rest depth
    return v :: others

end

/-- The value of an expression, evaluated in the plain way. -/
def Expr.plainEvaluate (e : Expr) (ctx : Context σ) : Action σ Value :=
  ctx.descend 0 fun depth => e.plainNode ctx depth

theorem Expr.plainArguments_cons (ctx : Context σ) {arg : Expr}
    (h : ∀ start finish, arg ≠ .range start finish) (rest : List Expr) (depth : Nat) :
    Expr.plainArguments ctx (arg :: rest) depth = (do
      let v ← ctx.descend depth fun deeper => arg.plainNode ctx deeper
      let others ← Expr.plainArguments ctx rest depth
      return v :: others) := by
  rw [Expr.plainArguments]
  exact h

section Plain

variable (ctx : Context σ)

/-- The failure of an evaluation that has come to the limit of levels. -/
def Context.Exceeds (failure : Failure) : Prop :=
  failure = .deepExpression ctx.limits.evalDepth

theorem Context.exceeds_deepExpression : ctx.Exceeds (.deepExpression ctx.limits.evalDepth) :=
  rfl

theorem Context.descend_agrees {α : Type} {act other : Nat → Action σ α} {depth deeper : Nat}
    (h : depth ≤ deeper)
    (same : (act (deeper + 1)).AgreesUnless ctx.Exceeds (other (depth + 1))) :
    Action.AgreesUnless ctx.Exceeds (ctx.descend deeper act) (ctx.descend depth other) :=
  Action.AgreesUnless.descend ctx.exceeds_deepExpression (fun full => by omega) same

/-- The plain way goes down into an operand with which the walk along a chain stays on its level. -/
theorem Expr.descend_agrees_walk (e : Expr) {depth deeper : Nat} (h : depth ≤ deeper)
    (agrees : ∀ {depth deeper : Nat}, depth ≤ deeper →
      (e.plainNode ctx deeper).AgreesUnless ctx.Exceeds (e.node ctx depth)) :
    Action.AgreesUnless ctx.Exceeds (ctx.descend deeper fun d => e.plainNode ctx d)
      (e.walk ctx depth) := by
  cases chained : e.isChained with
  | true =>
      rw [← e.node_eq_walk ctx chained]
      exact Action.AgreesUnless.descend_left ctx.exceeds_deepExpression
        (agrees (Nat.le_succ_of_le h))
  | false =>
      rw [Expr.walk_of_not_isChained ctx chained]
      exact ctx.descend_agrees h (agrees (Nat.succ_le_succ h))

mutual

/-- On a level at least as deep, the plain way comes to the limit or gives the value of a node. -/
theorem Expr.plainNode_agrees (e : Expr) {depth deeper : Nat} (h : depth ≤ deeper) :
    (e.plainNode ctx deeper).AgreesUnless ctx.Exceeds (e.node ctx depth) := by
  cases e with
  | number x => exact Action.AgreesUnless.refl _
  | text s => exact Action.AgreesUnless.refl _
  | cell ref => exact Action.AgreesUnless.refl _
  | range start finish => exact Action.AgreesUnless.refl _
  | unary sign operand =>
      have inner := ctx.descend_agrees h (operand.plainNode_agrees (Nat.succ_le_succ h))
      exact inner.bind fun v => Action.AgreesUnless.refl _
  | binary op left right =>
      have second := ctx.descend_agrees h (right.plainNode_agrees (Nat.succ_le_succ h))
      cases other : (op != .power) with
      | true =>
          have first := left.descend_agrees_walk ctx h fun h => left.plainNode_agrees h
          rw [Expr.node_eq_walk ctx (.binary op left right) other, Expr.walk_binary ctx other,
            Expr.plainNode]
          exact first.bind fun v => second.bind fun w => Action.AgreesUnless.refl _
      | false =>
          have first := ctx.descend_agrees h (left.plainNode_agrees (Nat.succ_le_succ h))
          rw [Expr.plainNode, Expr.node, other]
          exact first.bind fun v => second.bind fun w => Action.AgreesUnless.refl _
  | call name args =>
      rw [Expr.plainNode, Expr.node]
      cases ctx.function? name with
      | none => exact Action.AgreesUnless.refl _
      | some f =>
          exact (Expr.plainArguments_agrees args h).bind fun values => Action.AgreesUnless.refl _

theorem Expr.plainArguments_agrees (args : List Expr) {depth deeper : Nat} (h : depth ≤ deeper) :
    Action.AgreesUnless ctx.Exceeds (Expr.plainArguments ctx args deeper)
      (Expr.argumentValues ctx args depth) := by
  cases args with
  | nil => exact Action.AgreesUnless.refl _
  | cons arg rest =>
      have others := Expr.plainArguments_agrees rest h
      rcases arg.isRange_or with ⟨start, finish, rfl⟩ | single
      · rw [Expr.plainArguments, Expr.argumentValues]
        exact (Action.AgreesUnless.refl _).bind fun values =>
          others.bind fun others => Action.AgreesUnless.refl _
      · rw [Expr.plainArguments_cons ctx single, Expr.argumentValues_cons ctx single]
        exact (ctx.descend_agrees h (arg.plainNode_agrees (Nat.succ_le_succ h))).bind fun v =>
          others.bind fun others => Action.AgreesUnless.refl _

end

end Plain

/-- Whenever the plain way does not come to the limit of levels, it has the same outcome as the walk
and leaves the same state of the world behind. As reading a cell may be any action, the same cells are
read, the same functions called and the same questions asked, in the same order. -/
theorem Expr.evaluate_eq_plainEvaluate (ctx : Context σ) (e : Expr) (world : σ)
    (h : ((e.plainEvaluate ctx).run.run world).1 ≠
      .error (.deepExpression ctx.limits.evalDepth)) :
    (e.evaluate ctx).run.run world = (e.plainEvaluate ctx).run.run world := by
  have agrees := ctx.descend_agrees (Nat.le_refl 0) (e.plainNode_agrees ctx (Nat.le_refl 1))
  rcases agrees world with ⟨failure, failed, rfl⟩ | same
  · exact absurd failed h
  · exact same.symm

/-- A comparison whose left operand is a concatenation, with a limit that the plain way just keeps. -/
theorem Expr.evaluate_eq_plainEvaluate_linked :
    let ctx : Context Unit :=
      { Engine.plain.context Sheet.linked with limits := { evalDepth := 3 } }
    let e : Expr := .binary .equal (.binary .concatenate (.text "n") (.cell "B1"))
      (.call "CONCAT" [.text "n", .range "B1" "B1"])
    ((e.plainEvaluate ctx).run.run ()).1 ≠ .error (.deepExpression ctx.limits.evalDepth) ∧
      (e.evaluate ctx).run.run () = (e.plainEvaluate ctx).run.run () := by
  intro ctx e
  have h : ((e.plainEvaluate ctx).run.run ()).1 ≠ .error (.deepExpression ctx.limits.evalDepth) := by
    decide +kernel
  exact ⟨h, e.evaluate_eq_plainEvaluate ctx () h⟩

end FormulaSheet
