import FormulaSheet.Proofs.Dependency.Cycle
import FormulaSheet.Proofs.Grammar.Completeness

/-!
# Numbers that leave an operation are finite

A cell may hold the text of an infinity, and a number of a formula may be written with so many digits that
it is read as one. An operator, a sign or a call takes such a number as an operand, but no longer gives it
as a result: its last step is a test, or a constant, or a text.

* `Expr.gives_node` says that the root of an expression is enough for this: nothing is asked of the
  operands, of the cells, or of the functions.
* `Derives.exists_inParens` says what a formula looks like whose tree is a single leaf.
* `Engine.isFinite_or_inParens` puts both together: whatever is not finite was written into the formula or
  into a cell, and the formula consists of that number or of the reference to that cell, in parentheses.
-/

namespace FormulaSheet

variable {σ α β : Type}

/-- Whenever an action succeeds, its result has a property. -/
def Action.Gives (P : α → Prop) (act : Action σ α) : Prop :=
  ∀ ⦃before after : σ⦄ ⦃a : α⦄, act.run.run before = (.ok a, after) → P a

namespace Context

/-- The property of a result is decided by the last step. -/
theorem gives_bind {P : β → Prop} (act : Action σ α) {f : α → Action σ β}
    (last : ∀ a, Action.Gives P (f a)) : Action.Gives P (act >>= f) := by
  intro before after b run
  obtain ⟨a, between, _, rest⟩ := run_bind_eq_ok run
  exact last a rest

theorem gives_pure {P : α → Prop} {a : α} (h : P a) : Action.Gives P (pure a : Action σ α) := by
  intro before after b run
  cases run
  exact h

theorem gives_throw {P : α → Prop} (failure : Failure) :
    Action.Gives P (throw failure : Action σ α) := by
  intro before after a run
  cases run

theorem gives_ofEval {P : α → Prop} {result : Except EvalFault α}
    (h : ∀ a, result = .ok a → P a) : Action.Gives P (ofEval result : Action σ α) := by
  intro before after a run
  cases result with
  | error fault => cases run
  | ok b =>
      cases run
      exact h a rfl

theorem gives_descend {P : α → Prop} (ctx : Context σ) {depth : Nat} {act : Nat → Action σ α}
    (h : Action.Gives P (act (depth + 1))) : Action.Gives P (ctx.descend depth act) := by
  unfold descend
  split
  · exact gives_throw _
  · exact h

/-- What a function returns is tested, unless it is a text. -/
theorem gives_valueOf (name : String) (returned : Returned) :
    Action.Gives Value.IsFinite (valueOf name returned : Action σ Value) := by
  unfold valueOf
  split
  · exact gives_pure trivial
  · exact gives_ofEval fun v => isFinite_of_finite
  · dsimp only
    split
    · exact gives_throw _
    · exact gives_ofEval fun v => isFinite_of_finite

theorem gives_callFunction (name : String) (f : SheetFunction σ) (args : List Value) :
    Action.Gives Value.IsFinite (callFunction name f args) := by
  refine gives_bind _ fun result => ?_
  cases result with
  | error fault => exact gives_throw _
  | ok returned => exact gives_valueOf name returned

end Context

/-! ### Expressions -/

/-- The root of an expression is a sign, an operator or a call. -/
def Expr.IsOperation : Expr → Prop
  | .unary .. | .binary .. | .call .. => True
  | _ => False

/-- The value of an operation is a text or a finite number, whatever its operands are. -/
theorem Expr.gives_node {e : Expr} (h : e.IsOperation) (ctx : Context σ) (depth : Nat) :
    Action.Gives Value.IsFinite (e.node ctx depth) := by
  cases e with
  | number x | text s | cell ref | range start finish => exact h.elim
  | unary sign operand =>
      rw [Expr.node]
      exact Context.gives_bind _ fun v => Context.gives_ofEval fun _ => Sign.isFinite_of_apply
  | binary op left right =>
      have last : ∀ v w, Action.Gives Value.IsFinite (Context.ofEval (op.apply v w) : Action σ Value) :=
        fun v w => Context.gives_ofEval fun _ => BinaryOp.isFinite_of_apply
      rw [Expr.node]
      split
      · exact Context.gives_bind _ fun v => Context.gives_bind _ fun w => last v w
      · exact Context.gives_bind _ fun v => Context.gives_bind _ fun w => last v w
  | call name args =>
      rw [Expr.node]
      cases ctx.function? name with
      | none => exact Context.gives_throw _
      | some f => exact Context.gives_bind _ fun values => Context.gives_callFunction name f values

theorem Expr.gives_evaluate {e : Expr} (h : e.IsOperation) (ctx : Context σ) :
    Action.Gives Value.IsFinite (e.evaluate ctx) :=
  ctx.gives_descend (Expr.gives_node h ctx 1)

/-- An expression that has a number as its value is an operation, or the number itself, or the reference
to a cell. -/
theorem Expr.isOperation_or_leaf {e : Expr} {ctx : Context σ} {before after : σ} {x : Float}
    (h : (e.evaluate ctx).run.run before = (.ok (.number x), after)) :
    e.IsOperation ∨ e = .number x ∨ ∃ ref, e = .cell ref := by
  cases e with
  | unary | binary | call => exact Or.inl trivial
  | cell ref => exact Or.inr (Or.inr ⟨ref, rfl⟩)
  | number y =>
      have same : Action.Gives (· = Value.number y) ((Expr.number y).evaluate ctx) :=
        ctx.gives_descend (Context.gives_pure rfl)
      cases same h
      exact Or.inr (Or.inl rfl)
  | text s =>
      have same : Action.Gives (· = Value.text s) ((Expr.text s).evaluate ctx) :=
        ctx.gives_descend (Context.gives_pure rfl)
      cases same h
  | range start finish =>
      have nothing : Action.Gives (fun _ => False) ((Expr.range start finish).evaluate ctx) :=
        ctx.gives_descend (Context.gives_throw _)
      exact (nothing h).elim

/-! ### Leaves in parentheses -/

/-- A token with a number of parentheses around it. -/
def inParens (k : Nat) (token : Token) : List Token :=
  List.replicate k (.symbol .openParen) ++ token :: List.replicate k (.symbol .closeParen)

theorem inParens_succ (k : Nat) (token : Token) :
    inParens (k + 1) token = .symbol .openParen :: inParens k token ++ [.symbol .closeParen] := by
  simp [inParens, List.replicate_succ' (n := k) (a := Token.symbol .closeParen), List.replicate_succ]

/-- The token of an expression that consists of a single number, text or reference. -/
def Expr.leaf? : Expr → Option Token
  | .number x => some (.number x)
  | .text s => some (.text s)
  | .cell ref => some (.cell ref)
  | _ => none

/-- The tokens of a phrase whose tree is a leaf are the token of that leaf and parentheses around it, no
more of them than the bound on nesting. -/
theorem Derives.exists_inParens {n : Nat} {phrase : Phrase} {ts : List Token} {e : Expr}
    (h : Derives n phrase ts e) {token : Token} (leaf : e.leaf? = some token) :
    ∃ k ≤ n, ts = inParens k token := by
  induction h with
  | tighter h ih | base h ih | operand h ih => exact ih leaf
  | chained | power | sign | range | call => cases leaf
  | number | text | cell =>
      cases leaf
      exact ⟨0, Nat.zero_le _, rfl⟩
  | parens h ih =>
      obtain ⟨k, bound, rfl⟩ := ih leaf
      exact ⟨k + 1, Nat.succ_le_succ bound, (inParens_succ k token).symm⟩

/-! ### Formulas on a sheet -/

/-- A sheet of one cell, which holds an infinity. -/
def Sheet.infinite : Sheet :=
  Sheet.put ⟨1, 1, Int.one_pos, Int.one_pos, ∅, fun _ mem => absurd mem Std.TreeMap.not_mem_emptyc⟩
    ⟨0, 0⟩ { value := "inf" } (by decide)

namespace Engine

/-- The text of a formula behind its mark, which may be missing. -/
def body (formula : String) : String :=
  (formulaBody? formula).getD formula

/-- Whatever the cells hold and the functions return, an operator, a sign or a call gives no number that is
not finite. A formula with such a number as its value can be read to its end, and apart from parentheses
it is that number or a single reference. -/
theorem isFinite_or_inParens :
    (∀ {σ : Type} (ctx : Context σ) (e : Expr), e.IsOperation → ∀ (before after : σ) (x : Float),
      (e.evaluate ctx).run.run before = (.ok (.number x), after) → x.isFinite = true) ∧
    ∀ {σ : Type} (engine : Engine σ) (sheet : Sheet) (formula : String) (before after : σ) (x : Float),
      (engine.evaluate sheet formula).run.run before = (.ok (.number x), after) →
        x.isFinite = false →
          ∃ k token, (lexemes (body formula)).1.map Lexeme.token = inParens k token ∧
            (∃ finish, (lexemes (body formula)).2 = .complete finish) ∧
              (token = .number x ∨ ∃ ref, token = .cell ref) := by
  refine ⟨fun ctx e operation before after x run => Expr.gives_evaluate operation ctx run, ?_⟩
  intro σ engine sheet formula before after x run infinite
  unfold evaluate at run
  cases parsed : engine.parseFormula formula with
  | error error =>
      rw [parsed] at run
      cases run
  | ok e =>
      rw [parsed] at run
      obtain ⟨whole, derived⟩ := parse_eq_ok_iff.1 parsed
      rcases Expr.isOperation_or_leaf run with operation | rfl | ⟨ref, rfl⟩
      · have finite : x.isFinite = true := Expr.gives_evaluate operation _ run
        rw [infinite] at finite
        cases finite
      · obtain ⟨k, _, same⟩ := derived.exists_inParens rfl
        exact ⟨k, _, same, whole, Or.inl rfl⟩
      · obtain ⟨k, _, same⟩ := derived.exists_inParens rfl
        exact ⟨k, _, same, whole, Or.inr ⟨ref, rfl⟩⟩

/-- A cell with an infinity: a reference to it in parentheses has this value, but a number that is divided
by it is divided without leaving the finite numbers. -/
theorem isFinite_or_inParens_infinite :
    (∃ x, ((Expr.binary .divide (.number 1) (.cell "A1")).evaluate
        (plain.context Sheet.infinite)).run.run () = (.ok (.number x), ()) ∧ x.isFinite = true) ∧
      ∃ x, (plain.evaluate Sheet.infinite "=((a1))").run.run () = (.ok (.number x), ()) ∧
        x.isFinite = false ∧
          ∃ k token, (lexemes (body "=((a1))")).1.map Lexeme.token = inParens k token ∧
            (∃ finish, (lexemes (body "=((a1))")).2 = .complete finish) ∧
              (token = .number x ∨ ∃ ref, token = .cell ref) := by
  have quotient : ((Expr.binary .divide (.number 1) (.cell "A1")).evaluate
      (plain.context Sheet.infinite)).run.run () = (.ok (.number 0), ()) :=
    Prod.ext (by decide +kernel) rfl
  have whole : (plain.evaluate Sheet.infinite "=((a1))").run.run () =
      (.ok (.number (Number.infinity false)), ()) :=
    Prod.ext (by decide +kernel) rfl
  have infinite : (Number.infinity false).isFinite = false := by decide +kernel
  refine ⟨⟨0, quotient, ?_⟩, ⟨Number.infinity false, whole, infinite, ?_⟩⟩
  · exact isFinite_or_inParens.1 _ (.binary .divide (.number 1) (.cell "A1")) trivial () () 0 quotient
  · exact isFinite_or_inParens.2 plain Sheet.infinite "=((a1))" () () _ whole infinite

end Engine

end FormulaSheet
