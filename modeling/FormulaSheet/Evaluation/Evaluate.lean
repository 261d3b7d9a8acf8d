import FormulaSheet.Evaluation.Operator
import FormulaSheet.Function.Registry

/-!
# Evaluation

An expression is evaluated in a context, which gives the texts of cells, the functions and the limits.
Operands are evaluated from left to right, and arguments in their order; a range is an argument only,
and stands for the cells that it spans, row by row.

**Depth.** Every node is one level deeper than the node it belongs to, with one exception: the left
operand of an operator other than the power that is such an operation itself stays on the level of that
operator. A chain of operators that associate to the left is therefore as deep as its operands, however
long it is.

**Limits.** The work that a formula may cause is bounded by `Limits`. A limit is any integer; zero and less
forbid everything that it limits. There are no other bounds here: an evaluation is not cut short by the
depth of calls or the memory that a host has, and a message names its limit however many digits that has.
Texts hold whole characters, no halves of surrogate pairs.
-/

namespace FormulaSheet

/-- The limits of a sheet. -/
structure Limits where
  /-- Levels of nesting in the text of a formula. -/
  parseDepth : Int := 64
  /-- Levels of an expression while it is evaluated. -/
  evalDepth : Int := 256
  /-- Cells in a chain of formulas that depend on each other. -/
  dependencyDepth : Int := 256
  /-- Cells of a range that is an argument. -/
  rangeCells : Int := 1000000
  deriving DecidableEq, Repr

/-- A step of a sheet in a world with states `σ`. What has been asked of the world stays asked after a
failure. -/
abbrev Action (σ : Type) := ExceptT Failure (StateM σ)

/-- What an expression is evaluated with. -/
structure Context (σ : Type) where
  /-- Reads the text of a cell. -/
  cellText : Coord → StateM σ String
  /-- Finds a function by its name. -/
  function? : String → Option (SheetFunction σ)
  /-- The limits of evaluation. -/
  limits : Limits

namespace Context

variable {σ : Type} (ctx : Context σ)

/-- The value of an evaluation, or its failure. -/
def ofEval {α : Type} (result : Except EvalFault α) : Action σ α :=
  ExceptT.mk (pure (result.mapError Failure.eval))

/-- Reads the value of a cell. -/
def readCell (c : Coord) : Action σ Value := do
  let s ← (ctx.cellText c : StateM σ String)
  return Value.ofCellText s

/-- Reads the value of the cell that a reference names. -/
def readReference (ref : String) : Action σ Value :=
  match Address.reference? ref.toList with
  | .error fault => throw (.integer fault)
  | .ok none => throw (.eval (.notAReference ref))
  | .ok (some c) => ctx.readCell c

/-- The failure of a range with more cells than the limit. -/
def longRange {α : Type} (start finish : String) (size : Int) : Action σ α :=
  match Number.writeNatural size.natAbs with
  | .error fault => throw (.integer fault)
  | .ok _ => throw (.eval (.longRange start finish size ctx.limits.rangeCells))

/-- Reads the values of the cells of a range. -/
def readRange (start finish : String) : Action σ (List Value) :=
  match Address.rect start finish with
  | .error fault => throw (.eval (.range fault))
  | .ok r =>
    if ctx.limits.rangeCells < r.size then ctx.longRange start finish r.size
    else r.cells.mapM ctx.readCell

/-- What a function returned, as a value of a formula. -/
def valueOf (name : String) : Returned → Action σ Value
  | .value (.text s) => return .text s
  | .value (.number x) => ofEval (finite name x)
  | .integer n =>
    let x := Number.ofInteger n
    if x.isInf then throw (.call (.number .integerOutOfRange)) else ofEval (finite name x)

/-- The failure of a formula whose call failed. -/
def callFailure (name : String) (fault : CallFault) : Failure :=
  if fault.category.isComputation then .eval (.call name fault) else .call fault

/-- Calls a function. -/
def callFunction (name : String) (f : SheetFunction σ) (args : List Value) : Action σ Value := do
  match ← ((f args).run : StateM σ _) with
  | .error fault => throw (callFailure name fault)
  | .ok returned => valueOf name returned

/-- Goes one level deeper. -/
def descend {α : Type} (depth : Nat) (act : Nat → Action σ α) : Action σ α :=
  if ctx.limits.evalDepth ≤ depth then throw (.deepExpression ctx.limits.evalDepth)
  else act (depth + 1)

end Context

/-- An operation whose left operand may stay on its level: any but a power. -/
def Expr.isChained : Expr → Bool
  | .binary op _ _ => op != .power
  | _ => false

mutual

/-- The value of a node on level `depth`. -/
def Expr.node {σ : Type} (ctx : Context σ) : Expr → Nat → Action σ Value
  | .number x, _ => return .number x
  | .text s, _ => return .text s
  | .cell ref, _ => ctx.readReference ref
  | .range start finish, _ => throw (.eval (.bareRange start finish))
  | .unary sign operand, depth => do
    let v ← ctx.descend depth fun deeper => operand.node ctx deeper
    Context.ofEval (sign.apply v)
  | .binary op left right, depth => do
    let v ←
      if op != .power && left.isChained then left.node ctx depth
      else ctx.descend depth fun deeper => left.node ctx deeper
    let w ← ctx.descend depth fun deeper => right.node ctx deeper
    Context.ofEval (op.apply v w)
  | .call name args, depth =>
    match ctx.function? name with
    | none => throw (.eval (.unknownFunction name))
    | some f => do
      let values ← Expr.argumentValues ctx args depth
      Context.callFunction name f values

/-- The values of the arguments of a node on level `depth`. -/
def Expr.argumentValues {σ : Type} (ctx : Context σ) : List Expr → Nat → Action σ (List Value)
  | [], _ => return []
  | .range start finish :: rest, depth => do
    let values ← ctx.readRange start finish
    let others ← Expr.argumentValues ctx rest depth
    return values ++ others
  | arg :: rest, depth => do
    let v ← ctx.descend depth fun deeper => arg.node ctx deeper
    let others ← Expr.argumentValues ctx rest depth
    return v :: others

end

/-- The value of an expression. -/
def Expr.evaluate {σ : Type} (e : Expr) (ctx : Context σ) : Action σ Value :=
  ctx.descend 0 fun depth => e.node ctx depth

end FormulaSheet
