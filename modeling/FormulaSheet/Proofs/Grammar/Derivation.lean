import FormulaSheet.Formula.Level

/-!
# The grammar of formulas

The grammar stands here by itself, without the way in which formulas are read. `Derives n phrase ts e`
says that the tokens `ts` can be read as a phrase with the tree `e`, by a derivation in which at most
`n` things are nested in each other: parentheses, calls, signs, and right operands of powers.

The five levels of operators that associate to the left are one rule with the list of the levels that
are still to come, from the loosest to the tightest. Behind the last level stand the powers, which
associate to the right.
-/

namespace FormulaSheet

/-- The phrases of the grammar. -/
inductive Phrase where
  /-- Operands with operators of these levels, and powers. -/
  | levels (ls : List Level)
  /-- An operand with signs in front of it. -/
  | signed
  /-- A literal, a reference, a range, a call, or an expression in parentheses. -/
  | primary

/-- A whole expression. -/
abbrev Phrase.expression : Phrase :=
  levels Level.all

/-- The tokens of arguments with commas between them. -/
def separated (args : List (List Token × Expr)) : List Token :=
  [.symbol .comma].intercalate (args.map Prod.fst)

/-- Tokens read as a phrase, with the tree that they stand for and a bound on nesting. -/
inductive Derives : Nat → Phrase → List Token → Expr → Prop
  | tighter {n : Nat} {l : Level} {ls : List Level} {ts : List Token} {e : Expr}
      (h : Derives n (.levels ls) ts e) : Derives n (.levels (l :: ls)) ts e
  | chained {n : Nat} {l : Level} {ls : List Level} {ts us : List Token} {s : Symbol}
      {op : BinaryOp} {e f : Expr} (left : Derives n (.levels (l :: ls)) ts e)
      (symbol : l.operator? s = some op) (right : Derives n (.levels ls) us f) :
      Derives n (.levels (l :: ls)) (ts ++ .symbol s :: us) (.binary op e f)
  | base {n : Nat} {ts : List Token} {e : Expr} (h : Derives n .signed ts e) :
      Derives n (.levels []) ts e
  | power {n : Nat} {ts us : List Token} {e f : Expr} (left : Derives (n + 1) .signed ts e)
      (right : Derives n (.levels []) us f) :
      Derives (n + 1) (.levels []) (ts ++ .symbol .power :: us) (.binary .power e f)
  | operand {n : Nat} {ts : List Token} {e : Expr} (h : Derives n .primary ts e) :
      Derives n .signed ts e
  | sign {n : Nat} {s : Symbol} {sign : Sign} {ts : List Token} {e : Expr}
      (symbol : Sign.ofSymbol? s = some sign) (h : Derives n .signed ts e) :
      Derives (n + 1) .signed (.symbol s :: ts) (.unary sign e)
  | number {n : Nat} (x : Float) : Derives n .primary [.number x] (.number x)
  | text {n : Nat} (s : String) : Derives n .primary [.text s] (.text s)
  | cell {n : Nat} (ref : String) : Derives n .primary [.cell ref] (.cell ref)
  | range {n : Nat} (start finish : String) :
      Derives n .primary [.cell start, .symbol .colon, .cell finish] (.range start finish)
  | parens {n : Nat} {ts : List Token} {e : Expr} (h : Derives n .expression ts e) :
      Derives (n + 1) .primary (.symbol .openParen :: ts ++ [.symbol .closeParen]) e
  | call {n : Nat} (ident : String) (args : List (List Token × Expr))
      (h : ∀ arg ∈ args, Derives n .expression arg.1 arg.2) :
      Derives (n + 1) .primary
        (.name ident :: .symbol .openParen :: separated args ++ [.symbol .closeParen])
        (.call ident (args.map Prod.snd))

/-- A derivation stays one under a wider bound on nesting. -/
theorem Derives.mono {n m : Nat} {phrase : Phrase} {ts : List Token} {e : Expr}
    (h : Derives n phrase ts e) (le : n ≤ m) : Derives m phrase ts e := by
  induction h generalizing m with
  | tighter h ih => exact .tighter (ih le)
  | chained left symbol right ihLeft ihRight => exact .chained (ihLeft le) symbol (ihRight le)
  | base h ih => exact .base (ih le)
  | power left right ihLeft ihRight =>
      obtain ⟨k, rfl⟩ := Nat.exists_eq_succ_of_ne_zero (Nat.ne_zero_of_lt le)
      exact .power (ihLeft le) (ihRight (Nat.le_of_succ_le_succ le))
  | operand h ih => exact .operand (ih le)
  | sign symbol h ih =>
      obtain ⟨k, rfl⟩ := Nat.exists_eq_succ_of_ne_zero (Nat.ne_zero_of_lt le)
      exact .sign symbol (ih (Nat.le_of_succ_le_succ le))
  | number x => exact .number x
  | text s => exact .text s
  | cell ref => exact .cell ref
  | range start finish => exact .range start finish
  | parens h ih =>
      obtain ⟨k, rfl⟩ := Nat.exists_eq_succ_of_ne_zero (Nat.ne_zero_of_lt le)
      exact .parens (ih (Nat.le_of_succ_le_succ le))
  | call ident args h ih =>
      obtain ⟨k, rfl⟩ := Nat.exists_eq_succ_of_ne_zero (Nat.ne_zero_of_lt le)
      exact .call ident args fun arg mem => ih arg mem (Nat.le_of_succ_le_succ le)

/-- An expression may be a primary phrase alone. -/
theorem Derives.primary_expression {n : Nat} {ts : List Token} {e : Expr}
    (h : Derives n .primary ts e) : Derives n .expression ts e :=
  .tighter (.tighter (.tighter (.tighter (.tighter (.base (.operand h))))))

theorem separated_singleton (arg : List Token × Expr) : separated [arg] = arg.1 :=
  List.intercalate_singleton

theorem separated_cons_cons (arg next : List Token × Expr) (rest : List (List Token × Expr)) :
    separated (arg :: next :: rest) = arg.1 ++ [.symbol .comma] ++ separated (next :: rest) :=
  List.intercalate_cons_cons

/-- Behind the first argument every one has its comma in front. -/
theorem separated_cons (arg : List Token × Expr) (rest : List (List Token × Expr)) :
    separated (arg :: rest) = arg.1 ++ rest.flatMap fun next => .symbol .comma :: next.1 := by
  induction rest generalizing arg with
  | nil => simp [separated_singleton]
  | cons next rest ih =>
      rw [separated_cons_cons, ih, List.flatMap_cons]
      simp

end FormulaSheet
