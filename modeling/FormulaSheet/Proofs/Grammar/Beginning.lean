import FormulaSheet.Proofs.Grammar.Derivation
import Mathlib.Order.Lattice

/-!
# Phrases and their beginnings

What the grammar accepts as a phrase, whatever the nesting, and what can be continued to such a phrase.
The rules of the grammar are rules about accepted tokens here, and what begins a part of a phrase begins
the phrase, behind everything that stands in front of the part (`Phrase.Begins.within`). A text literal may
stand wherever an operand has to, so whatever waits for an operand can be continued.
-/

namespace FormulaSheet

/-- Tokens that are a phrase, however deeply they are nested. -/
def Phrase.Accepts (phrase : Phrase) (ts : List Token) : Prop :=
  ∃ n e, Derives n phrase ts e

/-- Tokens that a phrase can begin with. -/
def Phrase.Begins (phrase : Phrase) (ts : List Token) : Prop :=
  ∃ more, phrase.Accepts (ts ++ more)

/-- Arguments of a call, at least one, with commas between them. -/
def AcceptsArguments (ts : List Token) : Prop :=
  ∃ n args, args ≠ [] ∧ (∀ arg ∈ args, Derives n .expression arg.1 arg.2) ∧ ts = separated args

section Rules

variable {l : Level} {ls : List Level} {ts us : List Token} {s : Symbol}

theorem Derives.accepts {n : Nat} {phrase : Phrase} {e : Expr} (h : Derives n phrase ts e) :
    phrase.Accepts ts :=
  ⟨n, e, h⟩

/-! ### The rules of the grammar -/

theorem Phrase.Accepts.tighter (h : (Phrase.levels ls).Accepts ts) :
    (Phrase.levels (l :: ls)).Accepts ts := by
  obtain ⟨n, e, derived⟩ := h
  exact derived.tighter.accepts

theorem Phrase.Accepts.chained {op : BinaryOp} (left : (Phrase.levels (l :: ls)).Accepts ts)
    (symbol : l.operator? s = some op) (right : (Phrase.levels ls).Accepts us) :
    (Phrase.levels (l :: ls)).Accepts (ts ++ .symbol s :: us) := by
  obtain ⟨n, e, first⟩ := left
  obtain ⟨m, f, second⟩ := right
  have first := first.mono (le_max_left n m)
  have second := second.mono (le_max_right n m)
  exact (first.chained symbol second).accepts

theorem Phrase.Accepts.base (h : Phrase.signed.Accepts ts) : (Phrase.levels []).Accepts ts := by
  obtain ⟨n, e, derived⟩ := h
  exact derived.base.accepts

theorem Phrase.Accepts.power (left : Phrase.signed.Accepts ts) (right : (Phrase.levels []).Accepts us) :
    (Phrase.levels []).Accepts (ts ++ .symbol .power :: us) := by
  obtain ⟨n, e, first⟩ := left
  obtain ⟨m, f, second⟩ := right
  have first := first.mono (Nat.le_succ_of_le (le_max_left n m))
  have second := second.mono (le_max_right n m)
  exact (first.power second).accepts

theorem Phrase.Accepts.operand (h : Phrase.primary.Accepts ts) : Phrase.signed.Accepts ts := by
  obtain ⟨n, e, derived⟩ := h
  exact derived.operand.accepts

theorem Phrase.Accepts.sign {sign : Sign} (symbol : Sign.ofSymbol? s = some sign)
    (h : Phrase.signed.Accepts ts) : Phrase.signed.Accepts (.symbol s :: ts) := by
  obtain ⟨n, e, derived⟩ := h
  exact (derived.sign symbol).accepts

theorem Phrase.Accepts.parens (h : Phrase.expression.Accepts ts) :
    Phrase.primary.Accepts (.symbol .openParen :: ts ++ [.symbol .closeParen]) := by
  obtain ⟨n, e, derived⟩ := h
  exact derived.parens.accepts

theorem accepts_call_nil (ident : String) :
    Phrase.primary.Accepts [.name ident, .symbol .openParen, .symbol .closeParen] :=
  (Derives.call (n := 0) ident [] (by simp)).accepts

theorem AcceptsArguments.call (h : AcceptsArguments ts) (ident : String) :
    Phrase.primary.Accepts (.name ident :: .symbol .openParen :: ts ++ [.symbol .closeParen]) := by
  obtain ⟨n, args, _, derived, rfl⟩ := h
  exact (Derives.call ident args derived).accepts

theorem Phrase.Accepts.argument (h : Phrase.expression.Accepts ts) : AcceptsArguments ts := by
  obtain ⟨n, e, derived⟩ := h
  exact ⟨n, [(ts, e)], by simp, by simpa using derived, (separated_singleton (ts, e)).symm⟩

theorem AcceptsArguments.more (h : AcceptsArguments ts) (next : Phrase.expression.Accepts us) :
    AcceptsArguments (ts ++ .symbol .comma :: us) := by
  obtain ⟨n, args, nonempty, derived, rfl⟩ := h
  obtain ⟨m, e, last⟩ := next
  obtain ⟨arg, others, rfl⟩ := List.exists_cons_of_ne_nil nonempty
  refine ⟨max n m, (arg :: others) ++ [(us, e)], by simp, fun other mem => ?_, ?_⟩
  · rcases List.mem_append.1 mem with before | new
    · exact (derived other before).mono (le_max_left n m)
    · obtain rfl := List.mem_singleton.1 new
      exact last.mono (le_max_right n m)
  · rw [List.cons_append, separated_cons, separated_cons, List.flatMap_append]
    simp

/-! ### Beginnings -/

theorem Phrase.Accepts.begins {phrase : Phrase} (h : phrase.Accepts ts) : phrase.Begins ts :=
  ⟨[], by simpa using h⟩

/-- A text literal is a phrase of every kind. -/
theorem Phrase.accepts_text (phrase : Phrase) (s : String) : phrase.Accepts [.text s] := by
  have literal : Phrase.primary.Accepts [.text s] := (Derives.text (n := 0) s).accepts
  cases phrase with
  | levels ls =>
      induction ls with
      | nil => exact literal.operand.base
      | cons l ls ih => exact ih.tighter
  | signed => exact literal.operand
  | primary => exact literal

theorem Phrase.begins_nil (phrase : Phrase) : phrase.Begins [] :=
  ⟨[.text ""], phrase.accepts_text ""⟩

theorem Phrase.Begins.of_append {phrase : Phrase} (h : phrase.Begins (ts ++ us)) : phrase.Begins ts := by
  obtain ⟨more, accepted⟩ := h
  exact ⟨us ++ more, by simpa using accepted⟩

theorem Phrase.Begins.mono {phrase wider : Phrase} (sub : ∀ us, phrase.Accepts us → wider.Accepts us)
    (h : phrase.Begins ts) : wider.Begins ts := by
  obtain ⟨more, accepted⟩ := h
  exact ⟨more, sub _ accepted⟩

/-- What begins a part of a phrase begins the phrase, behind what stands in front of the part. -/
theorem Phrase.Begins.within {phrase part : Phrase} (before behind : List Token)
    (embed : ∀ us, part.Accepts us → phrase.Accepts (before ++ us ++ behind)) (h : part.Begins us) :
    phrase.Begins (before ++ us) := by
  obtain ⟨more, accepted⟩ := h
  refine ⟨more ++ behind, ?_⟩
  have whole := embed _ accepted
  simpa using whole

end Rules

end FormulaSheet
