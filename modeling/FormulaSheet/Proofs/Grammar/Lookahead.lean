import FormulaSheet.Formula.Lexeme
import FormulaSheet.Proofs.Grammar.Derivation
import Mathlib.Data.List.Basic

/-!
# One token of lookahead

The token in front of a phrase tells which reader has to read it, and the token behind a phrase tells
that it ends there. A phrase starts with an opening parenthesis, a sign or a token that is no symbol
(`exists_start`), and only a colon, a power or an operator of its levels can go on with it
(`Phrase.GoesOn`).
-/

namespace FormulaSheet

/-- The symbols with which a phrase can go on. -/
def Phrase.GoesOn : Phrase → Symbol → Prop
  | levels ls, s => s = .colon ∨ s = .power ∨ ∃ l ∈ ls, ∃ op, l.operator? s = some op
  | signed, s => s = .colon
  | primary, s => s = .colon

/-- The lexemes behind a phrase do not go on with it. -/
def Phrase.EndsBefore (phrase : Phrase) (rest : List Lexeme) : Prop :=
  ∀ s position more, rest = ⟨.symbol s, position⟩ :: more → ¬ phrase.GoesOn s

theorem Phrase.endsBefore_nil (phrase : Phrase) : phrase.EndsBefore [] := by
  rintro s position more ⟨⟩

theorem Phrase.endsBefore_symbol {phrase : Phrase} {s : Symbol} (h : ¬ phrase.GoesOn s)
    (position : Nat) (more : List Lexeme) :
    phrase.EndsBefore (⟨.symbol s, position⟩ :: more) := by
  rintro _ _ _ ⟨⟩
  exact h

theorem Phrase.EndsBefore.mono {phrase other : Phrase} {rest : List Lexeme}
    (h : phrase.EndsBefore rest) (sub : ∀ s, other.GoesOn s → phrase.GoesOn s) :
    other.EndsBefore rest :=
  fun s position more front goes => h s position more front (sub s goes)

theorem Phrase.GoesOn.of_tail {l : Level} {ls : List Level} {s : Symbol}
    (h : (levels ls).GoesOn s) : (levels (l :: ls)).GoesOn s := by
  rcases h with colon | power | ⟨m, mem, op, found⟩
  · exact Or.inl colon
  · exact Or.inr (Or.inl power)
  · exact Or.inr (Or.inr ⟨m, List.mem_cons_of_mem l mem, op, found⟩)

/-- An operator of a level does not continue the tighter levels. -/
theorem Phrase.not_goesOn_tighter {l : Level} {ls : List Level} (new : l ∉ ls) {s : Symbol}
    {op : BinaryOp} (symbol : l.operator? s = some op) : ¬ (levels ls).GoesOn s := by
  rintro (rfl | rfl | ⟨m, mem, other, found⟩)
  · cases l <;> cases symbol
  · cases l <;> cases symbol
  · exact new (Level.operator?_unique symbol found ▸ mem)

theorem Phrase.not_goesOn_closing {phrase : Phrase} {s : Symbol}
    (h : s = .closeParen ∨ s = .comma) : ¬ phrase.GoesOn s := by
  cases phrase with
  | levels ls =>
      rintro (rfl | rfl | ⟨l, _, op, found⟩)
      · simp at h
      · simp at h
      · rcases h with rfl | rfl <;> cases l <;> cases found
  | signed => rcases h with rfl | rfl <;> simp [GoesOn]
  | primary => rcases h with rfl | rfl <;> simp [GoesOn]

/-- A phrase starts with an opening parenthesis, with a sign, or with a token that is no symbol. -/
theorem Derives.exists_start {n : Nat} {phrase : Phrase} {ts : List Token} {e : Expr}
    (h : Derives n phrase ts e) :
    ∃ t more, ts = t :: more ∧ ∀ s, t = .symbol s →
      s = .openParen ∨ ∃ sign, Sign.ofSymbol? s = some sign := by
  induction h with
  | tighter h ih => exact ih
  | chained left symbol right ih _ =>
      obtain ⟨t, more, rfl, start⟩ := ih
      exact ⟨t, _, rfl, start⟩
  | base h ih => exact ih
  | power left right ih _ =>
      obtain ⟨t, more, rfl, start⟩ := ih
      exact ⟨t, _, rfl, start⟩
  | operand h ih => exact ih
  | @sign n s sign ts e symbol h ih =>
      refine ⟨.symbol s, ts, rfl, ?_⟩
      rintro _ ⟨⟩
      exact Or.inr ⟨sign, symbol⟩
  | number x => exact ⟨_, _, rfl, by simp⟩
  | text s => exact ⟨_, _, rfl, by simp⟩
  | cell ref => exact ⟨_, _, rfl, by simp⟩
  | range start finish => exact ⟨_, _, rfl, by simp⟩
  | parens h ih => exact ⟨_, _, rfl, by simp⟩
  | call ident args h ih => exact ⟨_, _, rfl, by simp⟩

/-- A primary does not start with a sign. -/
theorem Derives.ofSymbol?_eq_none {n : Nat} {s : Symbol} {ts : List Token} {e : Expr}
    (h : Derives n .primary (.symbol s :: ts) e) : Sign.ofSymbol? s = none := by
  generalize tokens : Token.symbol s :: ts = us at h
  cases h <;> cases tokens
  rfl

/-- Lexemes that derive as a phrase start with what a phrase starts with. -/
theorem Derives.exists_cons {n : Nat} {phrase : Phrase} {used : List Lexeme} {e : Expr}
    (h : Derives n phrase (used.map Lexeme.token) e) :
    ∃ lexeme others, used = lexeme :: others ∧ ∀ s, lexeme.token = .symbol s →
      s = .openParen ∨ ∃ sign, Sign.ofSymbol? s = some sign := by
  obtain ⟨t, more, tokens, start⟩ := h.exists_start
  obtain ⟨lexeme, others, rfl, rfl, _⟩ := List.map_eq_cons_iff.1 tokens
  exact ⟨lexeme, others, rfl, start⟩

end FormulaSheet
