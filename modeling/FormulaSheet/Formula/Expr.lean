/-!
# Expressions

The tree that a formula stands for. Parentheses leave no node, and a range is an argument of a call or a
mistake that evaluation reports.
-/

namespace FormulaSheet

/-- The operators between two operands. -/
inductive BinaryOp where
  | add
  | subtract
  | multiply
  | divide
  | modulo
  | power
  | concatenate
  | equal
  | notEqual
  | less
  | lessEqual
  | greater
  | greaterEqual
  deriving DecidableEq, Repr

/-- The way messages write an operator. -/
def BinaryOp.symbol : BinaryOp → String
  | add => "+"
  | subtract => "-"
  | multiply => "*"
  | divide => "/"
  | modulo => "%"
  | power => "**"
  | concatenate => "&"
  | equal => "="
  | notEqual => "<>"
  | less => "<"
  | lessEqual => "<="
  | greater => ">"
  | greaterEqual => ">="

/-- The signs in front of an operand. -/
inductive Sign where
  | plus
  | minus
  deriving DecidableEq, Repr

/-- The way messages write a sign. -/
def Sign.symbol : Sign → String
  | plus => "+"
  | minus => "-"

/-- An expression. References are kept as texts in upper case and read when they are needed. -/
inductive Expr where
  | number (x : Float)
  | text (s : String)
  | cell (ref : String)
  | range (start finish : String)
  | unary (sign : Sign) (operand : Expr)
  | binary (op : BinaryOp) (left right : Expr)
  | call (name : String) (args : List Expr)
  deriving Inhabited

mutual

/-- The number of nodes of an expression. -/
def Expr.nodes : Expr → Nat
  | .unary _ operand => operand.nodes + 1
  | .binary _ left right => left.nodes + right.nodes + 1
  | .call _ args => Expr.nodesOfList args + 1
  | _ => 1

/-- The number of nodes of some expressions. -/
def Expr.nodesOfList : List Expr → Nat
  | [] => 0
  | e :: rest => e.nodes + Expr.nodesOfList rest

end

@[simp] theorem Expr.nodesOfList_append (es fs : List Expr) :
    Expr.nodesOfList (es ++ fs) = Expr.nodesOfList es + Expr.nodesOfList fs := by
  induction es with
  | nil => simp [Expr.nodesOfList]
  | cons e rest ih =>
    rw [List.cons_append, Expr.nodesOfList, Expr.nodesOfList, ih, Nat.add_assoc]

end FormulaSheet
