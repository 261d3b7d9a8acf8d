import FormulaSheet.Formula.Expr
import FormulaSheet.Formula.Token

/-!
# Levels of operators

The operators that associate to the left bind on five levels. From the loosest to the tightest these are
equality, comparison, addition, concatenation and multiplication. Powers bind tighter than all of them
and associate to the right; signs bind tighter still.
-/

namespace FormulaSheet

/-- The levels of the operators that associate to the left. -/
inductive Level where
  | equality
  | comparison
  | addition
  | concatenation
  | multiplication
  deriving DecidableEq, Repr

/-- The levels from the loosest to the tightest. -/
def Level.all : List Level :=
  [.equality, .comparison, .addition, .concatenation, .multiplication]

/-- The operator that a symbol stands for on a level. -/
def Level.operator? : Level → Symbol → Option BinaryOp
  | .equality, .equal => some .equal
  | .equality, .notEqual => some .notEqual
  | .comparison, .less => some .less
  | .comparison, .lessEqual => some .lessEqual
  | .comparison, .greater => some .greater
  | .comparison, .greaterEqual => some .greaterEqual
  | .addition, .plus => some .add
  | .addition, .minus => some .subtract
  | .concatenation, .ampersand => some .concatenate
  | .multiplication, .times => some .multiply
  | .multiplication, .slash => some .divide
  | .multiplication, .percent => some .modulo
  | _, _ => none

/-- The sign that a symbol stands for in front of an operand. -/
def Sign.ofSymbol? : Symbol → Option Sign
  | .plus => some .plus
  | .minus => some .minus
  | _ => none

/-- A symbol is an operator on one level at most. -/
theorem Level.operator?_unique {l m : Level} {s : Symbol} {o p : BinaryOp}
    (hl : l.operator? s = some o) (hm : m.operator? s = some p) : l = m := by
  cases l <;> cases m <;> cases s <;> simp_all [Level.operator?]

/-- Powers are on none of the levels. -/
theorem Level.operator?_ne_power {l : Level} {s : Symbol} {o : BinaryOp}
    (h : l.operator? s = some o) : o ≠ .power := by
  cases l <;> cases s <;> simp_all [Level.operator?] <;> subst h <;> decide

end FormulaSheet
