import FormulaSheet.Formula.Level
import FormulaSheet.Formula.SyntaxError

/-!
# Reading expressions

A formula is an expression, and `parse` reads it from the lexemes of its text. From the loosest to the
tightest, an expression is built of

* the five levels of `Level`, whose operators associate to the left;
* powers, which associate to the right;
* signs in front of an operand;
* primaries: literals, references, ranges, calls, and expressions in parentheses.

**Nesting.** Four things are nested: what stands in parentheses, the arguments of a call, the operand of
a sign, and the right operand of a power. `reader n` reads parts that hold at most `n` levels of them,
so it refers to `reader (n - 1)` for whatever is nested, and to nothing if `n` is zero.

**Limit.** The limit on the levels is any integer, and it is the only bound on what is read. The depth of calls
and the memory that a host has play no part, and the message of a formula that is nested too deep names the
limit however many digits that has. A text holds whole characters, no halves of surrogate pairs.

**Unreadable places.** A place where no token can be read is reported as soon as the lexeme in front of
it has been taken (`proceed`), before anything else is said about that place.
-/

namespace FormulaSheet

/-- What was read from the front of some lexemes; fewer of them remain. -/
structure Reply (α : Type) (input : List Lexeme) where
  /-- What was read. -/
  result : α
  /-- The lexemes behind it. -/
  rest : List Lexeme
  /-- Something was read. -/
  shorter : rest.length < input.length

/-- Reads from the front of some lexemes. -/
abbrev Reader (α : Type) := (input : List Lexeme) → Except SyntaxError (Reply α input)

/-- The parts of a formula that stand nested in another one. -/
inductive Part where
  /-- An expression in parentheses, or an argument. -/
  | expression
  /-- The right operand of a power. -/
  | power
  /-- The operand of a sign. -/
  | operand
  deriving DecidableEq, Repr

section Reading

variable (ending : Ending)

/-- Goes on to the lexemes `rest`, which must not start with an unreadable place. -/
def proceed (rest : List Lexeme) : Except SyntaxError Unit :=
  match rest, ending with
  | [], .broken error => .error (.token error)
  | _, _ => .ok ()

/-- The token at the front, and its position. -/
def found : List Lexeme → Option Token × Nat
  | [] => (none, ending.position)
  | lexeme :: _ => (some lexeme.token, lexeme.position)

/-- The result of reading one lexeme. -/
def single {lexeme : Lexeme} {rest : List Lexeme} (e : Expr) : Reply Expr (lexeme :: rest) where
  result := e
  rest := rest
  shorter := Nat.lt_succ_self _

/-! ### Operators that associate to the left -/

/-- The operator at the front on a level. -/
def operatorAt? (level : Level) : Token → Option BinaryOp
  | .symbol s => level.operator? s
  | _ => none

/-- Reads operators of a level and their right operands, as long as there are any. -/
def chain (level : Level) (operand : Reader Expr) (left : Expr) (input : List Lexeme) :
    Except SyntaxError { reply : Expr × List Lexeme // reply.2.length ≤ input.length } :=
  match input with
  | [] => .ok ⟨(left, []), Nat.le_refl _⟩
  | lexeme :: rest =>
    match operatorAt? level lexeme.token with
    | none => .ok ⟨(left, lexeme :: rest), Nat.le_refl _⟩
    | some op => do
      proceed ending rest
      let right ← operand rest
      let ⟨reply, bound⟩ ← chain level operand (.binary op left right.result) right.rest
      return ⟨reply, by have := right.shorter; simp only [List.length_cons]; omega⟩
termination_by input.length
decreasing_by have := right.shorter; simp only [List.length_cons]; omega

/-- Reads operands with the operators of a level between them. -/
def leftAssociative (level : Level) (operand : Reader Expr) : Reader Expr := fun input => do
  let first ← operand input
  let ⟨reply, bound⟩ ← chain ending level operand first.result first.rest
  return ⟨reply.1, reply.2, Nat.lt_of_le_of_lt bound first.shorter⟩

/-! ### Calls and parentheses -/

/-- Reads a closing parenthesis. -/
def closing (input : List Lexeme) :
    Except SyntaxError { rest : List Lexeme // rest.length < input.length } :=
  match input with
  | ⟨.symbol .closeParen, _⟩ :: rest => do
    proceed ending rest
    return ⟨rest, Nat.lt_succ_self _⟩
  | other =>
    let (token?, position) := found ending other
    .error (.grammar (.unclosed token?) position)

/-- Reads a comma and an argument, as long as there are any. -/
def moreArguments (argument : Reader Expr) (input : List Lexeme) :
    Except SyntaxError { reply : List Expr × List Lexeme // reply.2.length ≤ input.length } :=
  match input with
  | ⟨.symbol .comma, position⟩ :: rest => do
    proceed ending rest
    let next ← argument rest
    let ⟨reply, bound⟩ ← moreArguments argument next.rest
    return ⟨(next.result :: reply.1, reply.2), by
      have := next.shorter; simp only [List.length_cons]; omega⟩
  | other => .ok ⟨([], other), Nat.le_refl _⟩
termination_by input.length
decreasing_by have := next.shorter; simp only [List.length_cons]; omega

/-- Reads the arguments of a call behind its opening parenthesis, and the closing one. -/
def arguments (argument : Reader Expr) : Reader (List Expr) := fun input =>
  match input with
  | ⟨.symbol .closeParen, position⟩ :: rest => do
    proceed ending rest
    return ⟨[], rest, Nat.lt_succ_self _⟩
  | other => do
    let first ← argument other
    let ⟨reply, bound⟩ ← moreArguments ending argument first.rest
    let ⟨rest, shorter⟩ ← closing ending reply.2
    return ⟨first.result :: reply.1, rest, by have := first.shorter; omega⟩

/-! ### One level of nesting -/

variable (limit : Int) (below : Option (Part → Reader Expr))

/-- The readers of nested parts, unless the limit of nesting is reached. -/
def nested : Except SyntaxError (Part → Reader Expr) :=
  match below with
  | none => .error (.tooDeep limit)
  | some readers => .ok readers

/-- Reads what can stand behind a reference: nothing, or a colon and a second reference. -/
def rangeOrCell (start : String) {lexeme : Lexeme} (rest : List Lexeme) :
    Except SyntaxError (Reply Expr (lexeme :: rest)) :=
  match rest with
  | ⟨.symbol .colon, _⟩ :: ⟨.cell finish, _⟩ :: rest => do
    proceed ending rest
    return ⟨.range start finish, rest, by simp only [List.length_cons]; omega⟩
  | ⟨.symbol .colon, _⟩ :: rest => do
    proceed ending rest
    .error (.grammar .openRange (found ending rest).2)
  | rest => return ⟨.cell start, rest, Nat.lt_succ_self _⟩

/-- Reads the rest of a call behind the name of its function. -/
def callOf (ident : String) {lexeme : Lexeme} (rest : List Lexeme) :
    Except SyntaxError (Reply Expr (lexeme :: rest)) :=
  match rest with
  | ⟨.symbol .openParen, _⟩ :: rest => do
    proceed ending rest
    let readers ← nested limit below
    let args ← arguments ending (readers .expression) rest
    return ⟨.call ident args.result, args.rest, by
      have := args.shorter; simp only [List.length_cons]; omega⟩
  | _ => .error (.grammar (.notCalled ident) lexeme.position)

/-- Reads an expression behind an opening parenthesis, and the closing one. -/
def enclosed {lexeme : Lexeme} (rest : List Lexeme) :
    Except SyntaxError (Reply Expr (lexeme :: rest)) := do
  let readers ← nested limit below
  let inner ← readers .expression rest
  let ⟨rest, shorter⟩ ← closing ending inner.rest
  return ⟨inner.result, rest, by have := inner.shorter; simp only [List.length_cons]; omega⟩

/-- Reads a literal, a reference, a range, a call, or an expression in parentheses. -/
def primary : Reader Expr := fun input =>
  match input with
  | [] => .error (.grammar (.noOperand none) ending.position)
  | lexeme :: rest =>
    match lexeme.token with
    | .number x => do proceed ending rest; return single (.number x)
    | .text s => do proceed ending rest; return single (.text s)
    | .cell ref => do proceed ending rest; rangeOrCell ending ref rest
    | .name ident => do proceed ending rest; callOf ending limit below ident rest
    | .symbol .openParen => do proceed ending rest; enclosed ending limit below rest
    | .symbol s => .error (.grammar (.noOperand (some (.symbol s))) lexeme.position)

/-- Reads signs and the primary behind them. -/
def signed : Reader Expr := fun input =>
  match input with
  | ⟨.symbol s, position⟩ :: rest =>
    match Sign.ofSymbol? s with
    | some sign => do
      proceed ending rest
      let readers ← nested limit below
      let operand ← readers .operand rest
      return ⟨.unary sign operand.result, operand.rest, by
        have := operand.shorter; simp only [List.length_cons]; omega⟩
    | none => primary ending limit below (⟨.symbol s, position⟩ :: rest)
  | other => primary ending limit below other

/-- Reads an operand, and the power to which it is raised if there is one. -/
def raised : Reader Expr := fun input => do
  let base ← signed ending limit below input
  match h : base.rest with
  | ⟨.symbol .power, _⟩ :: rest => do
    proceed ending rest
    let readers ← nested limit below
    let exponent ← readers .power rest
    return ⟨.binary .power base.result exponent.result, exponent.rest, by
      have := exponent.shorter; have := base.shorter; simp only [h, List.length_cons] at this; omega⟩
  | _ => return base

/-- Reads a part of a formula, with the readers `below` for whatever is nested in it. -/
def partReader : Part → Reader Expr
  | .expression => Level.all.foldr (leftAssociative ending) (raised ending limit below)
  | .power => raised ending limit below
  | .operand => signed ending limit below

/-- Reads a part of a formula that holds at most `n` levels of nesting. -/
def reader : Nat → Part → Reader Expr
  | 0 => partReader ending limit none
  | n + 1 => partReader ending limit (some (reader n))

end Reading

/-- Reads a whole formula from lexemes and what stands behind them. -/
def parseLexemes (limit : Int) (input : List Lexeme) (ending : Ending) :
    Except SyntaxError Expr := do
  proceed ending input
  let reply ← reader ending limit limit.toNat .expression input
  match reply.rest with
  | [] => return reply.result
  | lexeme :: _ => .error (.grammar (.trailing lexeme.token) lexeme.position)

/-- Reads a formula with at most `limit` levels of nesting. -/
def parse (limit : Int) (text : String) : Except SyntaxError Expr :=
  let (input, ending) := lexemes text
  parseLexemes limit input ending

end FormulaSheet
