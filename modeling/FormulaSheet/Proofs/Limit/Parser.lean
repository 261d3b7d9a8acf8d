import FormulaSheet.Proofs.Grammar.Soundness
import FormulaSheet.Proofs.Limit.Agreement

/-!
# The limit of nesting

Readers for `n` and for `m ≥ n` levels of nesting go through a formula in the same way until the first
of them has no level left. It stops there, and no part of the reader goes on after a failure of a part
that is nested in it. Every part has a lemma that says so for two readers that agree on whatever is
nested (`NestedAgree`).

* `reader_agrees` is the induction on the levels of nesting.
* `parse_agrees` is the statement about whole formulas.
-/

namespace FormulaSheet

/-- The error of a formula with more than `limit` levels of nesting. -/
def SyntaxError.Exceeds (limit : Int) (error : SyntaxError) : Prop :=
  error = .tooDeep limit

theorem SyntaxError.exceeds_tooDeep (limit : Int) : Exceeds limit (.tooDeep limit) :=
  rfl

/-- A reader reads what another one reads, unless the limit of nesting stops it. -/
def ReaderAgrees {α : Type} (limit : Int) (read other : Reader α) : Prop :=
  ∀ input, AgreesUnless (SyntaxError.Exceeds limit) (read input) (other input)

/-- Whatever is nested is read in the same way, as long as there are levels left. -/
def NestedAgree (limit : Int) (below wider : Option (Part → Reader Expr)) : Prop :=
  ∀ readers ∈ below, ∃ others ∈ wider, ∀ part, ReaderAgrees limit (readers part) (others part)

section Reading

variable {ending : Ending} {limit limit' : Int}

/-! ### Operators that associate to the left -/

theorem chain_agrees {level : Level} {operand other : Reader Expr}
    (agrees : ReaderAgrees limit operand other) (left : Expr) (input : List Lexeme) :
    AgreesUnless (SyntaxError.Exceeds limit) (chain ending level operand left input)
      (chain ending level other left input) := by
  fun_induction chain ending level operand left input with
  | case1 left =>
      rw [chain]
      exact AgreesUnless.refl _
  | case2 left lexeme rest noOperator =>
      rw [chain, noOperator]
      exact AgreesUnless.refl _
  | case3 left lexeme rest op operator ih =>
      rw [chain, operator]
      refine AgreesUnless.bind_left _ fun _ => (agrees rest).bind fun right => ?_
      exact (ih right).bind fun reply => AgreesUnless.refl _

theorem leftAssociative_agrees {operand other : Reader Expr}
    (agrees : ReaderAgrees limit operand other) (level : Level) :
    ReaderAgrees limit (leftAssociative ending level operand)
      (leftAssociative ending level other) := by
  intro input
  refine (agrees input).bind fun first => ?_
  exact (chain_agrees agrees first.result first.rest).bind fun reply => AgreesUnless.refl _

theorem levels_agree {operand other : Reader Expr} (agrees : ReaderAgrees limit operand other)
    (ls : List Level) :
    ReaderAgrees limit (ls.foldr (leftAssociative ending) operand)
      (ls.foldr (leftAssociative ending) other) := by
  induction ls with
  | nil => exact agrees
  | cons level rest ih => exact leftAssociative_agrees ih level

/-! ### Calls and parentheses -/

theorem moreArguments_agrees {argument other : Reader Expr}
    (agrees : ReaderAgrees limit argument other) (input : List Lexeme) :
    AgreesUnless (SyntaxError.Exceeds limit) (moreArguments ending argument input)
      (moreArguments ending other input) := by
  fun_induction moreArguments ending argument input with
  | case1 position rest ih =>
      rw [moreArguments]
      refine AgreesUnless.bind_left _ fun _ => (agrees rest).bind fun next => ?_
      exact (ih next).bind fun reply => AgreesUnless.refl _
  | case2 input noMore =>
      rw [moreArguments]
      · exact AgreesUnless.refl _
      · exact noMore

theorem arguments_agrees {argument other : Reader Expr}
    (agrees : ReaderAgrees limit argument other) :
    ReaderAgrees limit (arguments ending argument) (arguments ending other) := by
  intro input
  unfold arguments
  split
  · exact AgreesUnless.refl _
  · refine (agrees input).bind fun first => ?_
    exact (moreArguments_agrees agrees first.rest).bind fun reply => AgreesUnless.refl _

/-! ### One level of nesting -/

variable {below wider : Option (Part → Reader Expr)} (nest : NestedAgree limit below wider)
include nest

/-- Where something is nested, the limit stops the first reader, or both go on. -/
theorem NestedAgree.bind {α : Type} {f g : (Part → Reader Expr) → Except SyntaxError α}
    (later : ∀ readers others, (∀ part, ReaderAgrees limit (readers part) (others part)) →
      AgreesUnless (SyntaxError.Exceeds limit) (f readers) (g others)) :
    AgreesUnless (SyntaxError.Exceeds limit) (nested limit below >>= f)
      (nested limit' wider >>= g) := by
  cases below with
  | none => exact AgreesUnless.of_stop (SyntaxError.exceeds_tooDeep limit) _
  | some readers =>
      obtain ⟨others, rfl, agree⟩ := nest readers rfl
      exact later readers others agree

theorem callOf_agrees (ident : String) {lexeme : Lexeme} (rest : List Lexeme) :
    AgreesUnless (SyntaxError.Exceeds limit)
      (callOf ending limit below ident rest : Except SyntaxError (Reply Expr (lexeme :: rest)))
      (callOf ending limit' wider ident rest) := by
  unfold callOf
  split
  · refine AgreesUnless.bind_left _ fun _ => nest.bind fun readers others agree => ?_
    exact (arguments_agrees (agree .expression) _).bind fun args => AgreesUnless.refl _
  · exact AgreesUnless.refl _

theorem enclosed_agrees {lexeme : Lexeme} (rest : List Lexeme) :
    AgreesUnless (SyntaxError.Exceeds limit)
      (enclosed ending limit below rest : Except SyntaxError (Reply Expr (lexeme :: rest)))
      (enclosed ending limit' wider rest) :=
  nest.bind fun _ _ agree => (agree .expression rest).bind fun _ => AgreesUnless.refl _

theorem primary_agrees :
    ReaderAgrees limit (primary ending limit below) (primary ending limit' wider) := by
  intro input
  unfold primary
  split
  · exact AgreesUnless.refl _
  · next lexeme rest =>
    split
    · exact AgreesUnless.refl _
    · exact AgreesUnless.refl _
    · exact AgreesUnless.refl _
    · exact AgreesUnless.bind_left _ fun _ => callOf_agrees nest _ rest
    · exact AgreesUnless.bind_left _ fun _ => enclosed_agrees nest rest
    · exact AgreesUnless.refl _

theorem signed_agrees :
    ReaderAgrees limit (signed ending limit below) (signed ending limit' wider) := by
  intro input
  unfold signed
  split
  · next s position rest =>
    split
    · refine AgreesUnless.bind_left _ fun _ => nest.bind fun readers others agree => ?_
      exact (agree .operand rest).bind fun operand => AgreesUnless.refl _
    · exact primary_agrees nest _
  · exact primary_agrees nest _

theorem raised_agrees :
    ReaderAgrees limit (raised ending limit below) (raised ending limit' wider) := by
  intro input
  refine (signed_agrees nest input).bind fun base => ?_
  split
  · next position rest _ =>
    refine AgreesUnless.bind_left _ fun _ => nest.bind fun readers others agree => ?_
    exact (agree .power rest).bind fun exponent => AgreesUnless.refl _
  · exact AgreesUnless.refl _

theorem partReader_agrees (part : Part) :
    ReaderAgrees limit (partReader ending limit below part)
      (partReader ending limit' wider part) := by
  cases part with
  | expression => exact levels_agree (raised_agrees nest) Level.all
  | power => exact raised_agrees nest
  | operand => exact signed_agrees nest

end Reading

/-- A reader for fewer levels of nesting reads the same, unless it runs out of levels. -/
theorem reader_agrees {ending : Ending} {limit limit' : Int} {n m : Nat} (h : n ≤ m) (part : Part) :
    ReaderAgrees limit (reader ending limit n part) (reader ending limit' m part) := by
  induction n generalizing m part with
  | zero =>
      cases m with
      | zero =>
          refine partReader_agrees ?_ part
          rintro readers ⟨⟩
      | succ m =>
          refine partReader_agrees ?_ part
          rintro readers ⟨⟩
  | succ n ih =>
      cases m with
      | zero => cases h
      | succ m =>
          refine partReader_agrees ?_ part
          rintro readers ⟨⟩
          exact ⟨reader ending limit' m, rfl, ih (Nat.le_of_succ_le_succ h)⟩

/-- Lexemes are read in the same way under a wider limit of nesting, unless the limit stops it. -/
theorem parseLexemes_agrees {limit limit' : Int} (h : limit ≤ limit') (input : List Lexeme)
    (ending : Ending) :
    AgreesUnless (SyntaxError.Exceeds limit) (parseLexemes limit input ending)
      (parseLexemes limit' input ending) := by
  refine AgreesUnless.bind_left _ fun _ => ?_
  exact (reader_agrees (Int.toNat_le_toNat h) .expression _).bind fun reply => AgreesUnless.refl _

/-- A formula is read in the same way under a wider limit of nesting, unless the limit stops it. -/
theorem parse_agrees {limit limit' : Int} (h : limit ≤ limit') (text : String) :
    AgreesUnless (SyntaxError.Exceeds limit) (parse limit text) (parse limit' text) :=
  parseLexemes_agrees h _ _

end FormulaSheet
