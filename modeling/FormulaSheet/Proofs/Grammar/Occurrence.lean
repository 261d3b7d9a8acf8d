import FormulaSheet.Proofs.Grammar.Derivation
import FormulaSheet.Proofs.Reading.Cells
import Mathlib.Data.List.Chain

/-!
# Where the cells of an expression stand

Every cell of an expression comes from a reference or from a range among its tokens. The grammar puts
both of them only where an operand can stand: at the start, or behind a symbol that is no colon. This is
what keeps a reference apart from a number or a name in front of it, and a range from a reference in
front of it.
-/

namespace FormulaSheet

open Address (reference?)

/-- What stands in front of an operand: nothing, or a symbol that is no colon. -/
def OperandPlace (before : List Token) : Prop :=
  ∀ token ∈ before.getLast?, ∃ s : Symbol, token = .symbol s ∧ s ≠ .colon

/-- Tokens hold a reference to a cell, or a range with the cell, where an operand can stand. -/
def Shows (bounds : Option Bounds) (ts : List Token) (c : Coord) : Prop :=
  (∃ before ref after, ts = before ++ .cell ref :: after ∧ OperandPlace before ∧
    reference? ref.toList = .ok (some c)) ∨
  ∃ before start finish after,
    ts = before ++ .cell start :: .symbol .colon :: .cell finish :: after ∧ OperandPlace before ∧
      c ∈ cellsOfRange bounds start finish

/-- All references among some tokens can be read. -/
def Legible (ts : List Token) : Prop :=
  ∀ ref, .cell ref ∈ ts → ∃ found, reference? ref.toList = .ok found

theorem Legible.mono {ts us : List Token} (h : Legible us) (sub : ts ⊆ us) : Legible ts :=
  fun ref mem => h ref (sub mem)

theorem operandPlace_nil : OperandPlace [] := by
  intro token mem
  cases mem

theorem operandPlace_concat (ts : List Token) {s : Symbol} (ne : s ≠ .colon) :
    OperandPlace (ts ++ [.symbol s]) := by
  intro token mem
  rw [List.getLast?_concat] at mem
  cases mem
  exact ⟨s, rfl, ne⟩

theorem OperandPlace.append {front before : List Token} (first : OperandPlace front)
    (second : OperandPlace before) : OperandPlace (front ++ before) := by
  by_cases empty : before = []
  · rw [empty, List.append_nil]
    exact first
  · intro token mem
    rw [List.getLast?_append_of_ne_nil _ empty] at mem
    exact second token mem

/-- What an operand shows is shown by the tokens around it, too. -/
theorem Shows.embed {bounds : Option Bounds} {us : List Token} {c : Coord} (h : Shows bounds us c)
    {front : List Token} (place : OperandPlace front) (back : List Token) :
    Shows bounds (front ++ us ++ back) c := by
  rcases h with ⟨before, ref, after, rfl, inner, named⟩ |
    ⟨before, start, finish, after, rfl, inner, mem⟩
  · refine Or.inl ⟨front ++ before, ref, after ++ back, ?_, place.append inner, named⟩
    simp
  · refine Or.inr ⟨front ++ before, start, finish, after ++ back, ?_, place.append inner, mem⟩
    simp

variable {bounds : Option Bounds}

/-- Two operands with a symbol between them show what each of them shows. -/
theorem shows_beside {ts us : List Token} {s : Symbol} (ne : s ≠ .colon) {front behind : List Coord}
    (left : ∀ c ∈ front, Shows bounds ts c) (right : ∀ c ∈ behind, Shows bounds us c) :
    ∀ c ∈ front ++ behind, Shows bounds (ts ++ [.symbol s] ++ us) c := by
  intro c mem
  rcases List.mem_append.1 mem with first | second
  · have here := (left c first).embed operandPlace_nil ([.symbol s] ++ us)
    rw [List.nil_append, ← List.append_assoc] at here
    exact here
  · have here := (right c second).embed (operandPlace_concat ts ne) []
    rw [List.append_nil] at here
    exact here

/-- The cells of an expression can be collected, and all of them are shown by some tokens. -/
def ShowsAll (bounds : Option Bounds) (ts : List Token) (e : Expr) : Prop :=
  ∃ cells, e.cells bounds = .ok cells ∧ ∀ c ∈ cells, Shows bounds ts c

theorem showsAll_binary {ts us : List Token} {s : Symbol} (ne : s ≠ .colon) {op : BinaryOp}
    {e f : Expr} (left : ShowsAll bounds ts e) (right : ShowsAll bounds us f) :
    ShowsAll bounds (ts ++ .symbol s :: us) (.binary op e f) := by
  obtain ⟨front, first, shown⟩ := left
  obtain ⟨behind, second, shown'⟩ := right
  rw [List.append_cons]
  exact ⟨front ++ behind, bind_eq_ok.2 ⟨front, first, bind_eq_ok.2 ⟨behind, second, rfl⟩⟩,
    shows_beside ne shown shown'⟩

/-- The cells of arguments are shown by the arguments with commas between them. -/
theorem cellsOfList_shows {args : List (List Token × Expr)}
    (each : ∀ arg ∈ args, Legible arg.1 → ShowsAll bounds arg.1 arg.2)
    (legible : Legible (separated args)) :
    ∃ cells, Expr.cellsOfList bounds (args.map Prod.snd) = .ok cells ∧
      ∀ c ∈ cells, Shows bounds (separated args) c := by
  induction args with
  | nil => exact ⟨[], rfl, by simp⟩
  | cons arg rest ih =>
      have others : ∀ other ∈ rest, Legible other.1 → ShowsAll bounds other.1 other.2 :=
        fun other mem => each other (List.mem_cons_of_mem arg mem)
      cases rest with
      | nil =>
          rw [separated_singleton] at legible ⊢
          obtain ⟨cells, found, shown⟩ := each arg List.mem_cons_self legible
          refine ⟨cells ++ [], bind_eq_ok.2 ⟨cells, found, rfl⟩, ?_⟩
          rw [List.append_nil]
          exact shown
      | cons next rest =>
          rw [separated_cons_cons] at legible ⊢
          obtain ⟨front, first, shown⟩ := each arg List.mem_cons_self
            (legible.mono fun t mem => by simp [mem])
          obtain ⟨behind, second, shown'⟩ := ih others
            (legible.mono fun t mem => List.mem_append_right _ mem)
          exact ⟨front ++ behind, bind_eq_ok.2 ⟨front, first, bind_eq_ok.2 ⟨behind, second, rfl⟩⟩,
            shows_beside (by decide) shown shown'⟩

theorem ne_colon_of_operator? {l : Level} {s : Symbol} {op : BinaryOp}
    (h : l.operator? s = some op) : s ≠ .colon := by
  rintro rfl
  cases l <;> cases h

theorem ne_colon_of_ofSymbol? {s : Symbol} {sign : Sign} (h : Sign.ofSymbol? s = some sign) :
    s ≠ .colon := by
  rintro rfl
  cases h

/-- The tokens of an expression show all its cells, if the references among them can be read. -/
theorem Derives.showsAll {n : Nat} {phrase : Phrase} {ts : List Token} {e : Expr}
    (h : Derives n phrase ts e) (legible : Legible ts) : ShowsAll bounds ts e := by
  induction h with
  | tighter h ih => exact ih legible
  | chained left symbol right ihLeft ihRight =>
      exact showsAll_binary (ne_colon_of_operator? symbol)
        (ihLeft (legible.mono fun t mem => by simp [mem]))
        (ihRight (legible.mono fun t mem => by simp [mem]))
  | base h ih => exact ih legible
  | power left right ihLeft ihRight =>
      exact showsAll_binary (by decide)
        (ihLeft (legible.mono fun t mem => by simp [mem]))
        (ihRight (legible.mono fun t mem => by simp [mem]))
  | operand h ih => exact ih legible
  | @sign n s sign ts e symbol h ih =>
      obtain ⟨cells, found, shown⟩ := ih (legible.mono fun t mem => List.mem_cons_of_mem _ mem)
      refine ⟨cells, found, fun c mem => ?_⟩
      have here := (shown c mem).embed (operandPlace_concat [] (ne_colon_of_ofSymbol? symbol)) []
      rw [List.append_nil] at here
      exact here
  | number x => exact ⟨[], rfl, by simp⟩
  | text s => exact ⟨[], rfl, by simp⟩
  | cell ref =>
      obtain ⟨found, read⟩ := legible ref List.mem_cons_self
      refine ⟨found.toList, map_eq_ok.2 ⟨found, read, rfl⟩, fun c mem => ?_⟩
      rw [Option.mem_toList] at mem
      cases mem
      exact Or.inl ⟨[], ref, [], rfl, operandPlace_nil, read⟩
  | range start finish =>
      refine ⟨cellsOfRange bounds start finish, rfl, fun c mem => ?_⟩
      exact Or.inr ⟨[], start, finish, [], rfl, operandPlace_nil, mem⟩
  | @parens n ts e h ih =>
      obtain ⟨cells, found, shown⟩ := ih (legible.mono fun t mem => by simp [mem])
      refine ⟨cells, found, fun c mem => ?_⟩
      exact (shown c mem).embed (operandPlace_concat [] (by decide : Symbol.openParen ≠ .colon))
        [.symbol .closeParen]
  | @call n ident args h ih =>
      obtain ⟨cells, found, shown⟩ := cellsOfList_shows ih (legible.mono fun t mem => by simp [mem])
      refine ⟨cells, found, fun c mem => ?_⟩
      exact (shown c mem).embed
        (operandPlace_concat [.name ident] (by decide : Symbol.openParen ≠ .colon))
        [.symbol .closeParen]

/-! ### Behind what a reference stands -/

/-- Tokens of which the second one is no reference, or the first one a symbol. -/
def MayPrecede (token next : Token) : Prop :=
  ∀ ref, next = .cell ref → ∃ s, token = .symbol s

theorem isChain_beside {ts us : List Token} (left : ts.IsChain MayPrecede)
    (right : us.IsChain MayPrecede) (s : Symbol) :
    (ts ++ .symbol s :: us).IsChain MayPrecede := by
  refine List.isChain_append.2 ⟨left, ?_, ?_⟩
  · refine List.isChain_cons.2 ⟨fun next _ ref _ => ⟨s, rfl⟩, right⟩
  · rintro token _ next ⟨⟩ ref same
    cases same

theorem isChain_separated {args : List (List Token × Expr)}
    (each : ∀ arg ∈ args, arg.1.IsChain MayPrecede) : (separated args).IsChain MayPrecede := by
  induction args with
  | nil => exact List.IsChain.nil
  | cons arg rest ih =>
      have first := each arg List.mem_cons_self
      cases rest with
      | nil =>
          rw [separated_singleton]
          exact first
      | cons next rest =>
          have others := ih fun other mem => each other (List.mem_cons_of_mem arg mem)
          rw [separated_cons_cons, List.append_assoc]
          exact isChain_beside first others .comma

/-- No reference of a phrase stands behind a number, a text, a name or another reference. -/
theorem Derives.isChain {n : Nat} {phrase : Phrase} {ts : List Token} {e : Expr}
    (h : Derives n phrase ts e) : ts.IsChain MayPrecede := by
  induction h with
  | tighter h ih => exact ih
  | chained left symbol right ihLeft ihRight => exact isChain_beside ihLeft ihRight _
  | base h ih => exact ih
  | power left right ihLeft ihRight => exact isChain_beside ihLeft ihRight _
  | operand h ih => exact ih
  | @sign n s sign ts e symbol h ih => exact isChain_beside List.IsChain.nil ih s
  | number x => exact List.IsChain.singleton _
  | text s => exact List.IsChain.singleton _
  | cell ref => exact List.IsChain.singleton _
  | range start finish =>
      exact isChain_beside (List.IsChain.singleton _) (List.IsChain.singleton _) .colon
  | parens h ih =>
      exact isChain_beside List.IsChain.nil (isChain_beside ih List.IsChain.nil _) _
  | call ident args h ih =>
      exact isChain_beside (List.IsChain.singleton (.name ident))
        (isChain_beside (isChain_separated ih) List.IsChain.nil _) _

/-- A reference of a phrase is its first token, or stands behind a symbol. -/
theorem Derives.symbol_before_cell {n : Nat} {phrase : Phrase} {before after : List Token}
    {ref : String} {e : Expr} (h : Derives n phrase (before ++ .cell ref :: after) e) :
    ∀ token ∈ before.getLast?, ∃ s, token = .symbol s := fun token mem =>
  (List.isChain_append.1 h.isChain).2.2 token mem _ rfl ref rfl

end FormulaSheet
