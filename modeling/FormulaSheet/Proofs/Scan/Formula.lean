import FormulaSheet.Proofs.Grammar.Occurrence
import FormulaSheet.Proofs.Grammar.Soundness
import FormulaSheet.Proofs.Lexeme.Spelling
import FormulaSheet.Proofs.Scan.Contents
import FormulaSheet.Sheet.Engine

/-!
# The scan misses no reference

The scan looks at a formula as a text, and evaluation at the expression that it is read as. The two
readers split the text differently: behind a number the scan goes on with a reference that touches it,
and a word with an underscore is one name for the lexer and several runs for the scan. A reference of
the expression is safe from this because it stands where an operand can stand. What is in front of it
ends with a character that belongs to no run, is no blank and no colon (`Cut`), so the reference is a
run of its own, and a range is not taken apart by a reference in front of it.

* `Scans.mentions_of_shows`: the scan mentions what the tokens of a text show.
* `references_subset_scan`: all references of an expression are in the scan of its formula.
-/

namespace FormulaSheet

open Address (reference? Rect)

/-- A text ends with a character that separates what follows from it, if it is not empty. -/
def Cut (front : List Char) : Prop :=
  ∀ c ∈ front.getLast?, c.isAlphanum = false ∧ Text.isBlank c = false ∧ c ≠ ':'

theorem cut_nil : Cut [] := by
  intro c mem
  cases mem

theorem Cut.append {mark front : List Char} (first : Cut mark) (second : Cut front) :
    Cut (mark ++ front) := by
  by_cases empty : front = []
  · rw [empty, List.append_nil]
    exact first
  · intro c mem
    rw [List.getLast?_append_of_ne_nil _ empty] at mem
    exact second c mem

/-- A word that is read as a reference and ends where the text behind it begins. -/
structure CellWord (ref : String) (word behind : List Char) : Prop where
  upper : word.map Char.toUpper = ref.toList
  nonempty : word ≠ []
  alphanum : ∀ c ∈ word, c.isAlphanum = true
  stop : ∀ c ∈ behind.head?, c.isAlphanum = false

theorem CellWord.reference?_eq {ref : String} {word behind : List Char}
    (h : CellWord ref word behind) : reference? word = reference? ref.toList := by
  rw [← h.upper, Address.reference?_map_toUpper]

/-! ### From tokens to the text -/

theorem Laid.exists_cell {position : Nat} {cs rest : List Char} {lexeme : Lexeme}
    {others : List Lexeme} {ref : String} (h : Laid position cs (lexeme :: others) rest)
    (token : lexeme.token = .cell ref) :
    ∃ place blanks word behind, cs = blanks ++ (word ++ behind) ∧
      (∀ b ∈ blanks, Text.isBlank b = true) ∧ CellWord ref word behind ∧
      Laid place behind others rest := by
  cases h with
  | @cons _ _ blanks spelling behind _ _ blank spelled maximal later =>
      cases token
      obtain ⟨upper, head, all⟩ := spelled.cell
      have stop : ∀ c ∈ behind.head?, c.isAlphanum = false := by
        intro c mem
        have other := maximal head c mem
        rw [isWordChar, Bool.or_eq_false_iff] at other
        exact other.1
      exact ⟨_, blanks, spelling, behind, List.append_assoc .., blank,
        ⟨upper, spelled.ne_nil, all, stop⟩, later⟩

theorem Laid.exists_colon {position : Nat} {cs rest : List Char} {lexeme : Lexeme}
    {others : List Lexeme} (h : Laid position cs (lexeme :: others) rest)
    (token : lexeme.token = .symbol .colon) :
    ∃ place blanks behind, cs = blanks ++ ':' :: behind ∧
      (∀ b ∈ blanks, Text.isBlank b = true) ∧ Laid place behind others rest := by
  cases h with
  | @cons _ _ blanks spelling behind _ _ blank spelled maximal later =>
      cases token
      have colon := spelled.colon
      subst colon
      exact ⟨_, blanks, behind, by simp, blank, later⟩

/-- What holds of the last character of every spelling of the last token holds of the text. -/
theorem Laid.exists_front_of_last {position : Nat} {cs rest : List Char} {lexemes : List Lexeme}
    (h : Laid position cs lexemes rest) {p : Char → Prop}
    (last : ∀ token ∈ (lexemes.map Lexeme.token).getLast?, ∀ spelling : List Char,
      token.Spelled spelling → ∀ c ∈ spelling.getLast?, p c) :
    ∃ front, cs = front ++ rest ∧ ∀ c ∈ front.getLast?, p c := by
  obtain ⟨front, split, empty, final⟩ := h.exists_front
  refine ⟨front, split, ?_⟩
  intro c mem
  cases ends : lexemes.getLast? with
  | none =>
      rw [List.getLast?_eq_none_iff] at ends
      rw [empty ends] at mem
      cases mem
  | some lexeme =>
      obtain ⟨before, spelling, rfl, spelled⟩ := final lexeme ends
      have token : lexeme.token ∈ (lexemes.map Lexeme.token).getLast? := by
        rw [List.getLast?_map, ends]
        rfl
      rw [List.getLast?_append_of_ne_nil _ spelled.ne_nil] at mem
      exact last lexeme.token token spelling spelled c mem

/-- In front of a place where an operand can stand, the text is cut. -/
theorem Laid.exists_cut {position : Nat} {cs rest : List Char} {lexemes : List Lexeme}
    (h : Laid position cs lexemes rest) (place : OperandPlace (lexemes.map Lexeme.token)) :
    ∃ front, cs = front ++ rest ∧ Cut front := by
  refine h.exists_front_of_last fun token mem spelling spelled => ?_
  obtain ⟨s, rfl, ne⟩ := place token mem
  exact spelled.symbol_getLast ne

/-! ### From the text to the scan -/

section Scan

variable {front blanks word behind : List Char} {ref : String}

/-- A reference behind a front that ends with no letter or digit is a run of its own. -/
theorem CellWord.exists_run (cell : CellWord ref word behind)
    (stop : ∀ c ∈ front.getLast?, c.isAlphanum = false)
    (blank : ∀ b ∈ blanks, Text.isBlank b = true) :
    ∃ run ∈ runs (front ++ blanks ++ (word ++ behind)), run.word = word := by
  obtain ⟨gap, rs, split⟩ := exists_splitsInto_word cell.nonempty cell.alphanum cell.stop
  obtain ⟨before, found, _, _⟩ := runs_append stop
    (fun b mem => Text.isAlphanum_of_isBlank (blank b mem)) split
  refine ⟨⟨word, gap⟩, ?_, rfl⟩
  rw [found]
  exact List.mem_append_right before List.mem_cons_self

variable (cut : Cut front) (blank : ∀ b ∈ blanks, Text.isBlank b = true)
  (cell : CellWord ref word behind)
include cut blank cell

/-- A range behind a cut is a pair of runs. -/
theorem mem_rangePairs_of_cut {left right final last : List Char} {other : String}
    (split : behind = left ++ ':' :: right ++ (last ++ final))
    (blankLeft : ∀ b ∈ left, Text.isBlank b = true)
    (blankRight : ∀ b ∈ right, Text.isBlank b = true) (second : CellWord other last final) :
    (word, last) ∈ rangePairs (runs (front ++ blanks ++ (word ++ behind))) := by
  obtain ⟨gap, rs, inner⟩ := exists_splitsInto_word second.nonempty second.alphanum second.stop
  have between : ∀ c ∈ left ++ ':' :: right, c.isAlphanum = false := by
    intro c mem
    rcases List.mem_append.1 mem with first | later
    · exact Text.isAlphanum_of_isBlank (blankLeft c first)
    · rcases List.mem_cons.1 later with rfl | behind
      · decide
      · exact Text.isAlphanum_of_isBlank (blankRight c behind)
  have whole : SplitsInto (word ++ behind) (⟨word, left ++ ':' :: right⟩ :: ⟨last, gap⟩ :: rs) := by
    have stop := cell.stop
    rw [split] at stop ⊢
    exact SplitsInto.cons_word cell.nonempty cell.alphanum between stop inner
  obtain ⟨before, found, start, grown⟩ := runs_append (fun c mem => (cut c mem).1)
    (fun b mem => Text.isAlphanum_of_isBlank (blank b mem)) whole
  rw [found]
  have apart : ∀ run ∈ before.getLast?, isRangeGap run.gap = false := by
    intro run mem
    cases final : front.getLast? with
    | none =>
        rw [List.getLast?_eq_none_iff] at final
        rw [start final] at mem
        cases mem
    | some c =>
        -- The character in front of the range is in the gap in front of it, which is none of a range.
        obtain ⟨_, solid, ne⟩ := cut c final
        exact isRangeGap_of_mem (grown run mem c final) solid ne
  refine mem_rangePairs_append apart ?_
  rw [rangePairs, if_pos (isRangeGap_of_blanks blankLeft blankRight)]
  exact List.mem_cons_self

end Scan

/-- The scan of a text mentions what its tokens show, with or without a mark in front of them. -/
theorem Scans.mentions_of_shows {text : String} (scans : Scans text) {mark body : List Char}
    (split : text.toList = mark ++ body) (cut : Cut mark) {position : Nat} {lexemes : List Lexeme}
    {rest : List Char} (laid : Laid position body lexemes rest) {bounds : Option Bounds} {c : Coord}
    (shown : Shows bounds (lexemes.map Lexeme.token) c) : Mentions text bounds c := by
  rcases shown with ⟨before, ref, after, tokens, place, named⟩ |
    ⟨before, start, finish, after, tokens, place, mem⟩
  · obtain ⟨front, back, rfl, rfl, later⟩ := List.map_eq_append_iff.1 tokens
    obtain ⟨lexeme, others, rfl, token, _⟩ := List.map_eq_cons_iff.1 later
    obtain ⟨_, middle, before, inner⟩ := laid.split
    obtain ⟨skipped, rfl, cutFront⟩ := before.exists_cut place
    obtain ⟨_, blanks, word, behind, rfl, blank, cell, _⟩ := inner.exists_cell token
    have whole : text.toList = mark ++ skipped ++ blanks ++ (word ++ behind) := by
      simp [split]
    obtain ⟨run, mem, same⟩ := cell.exists_run (fun c mem => (cut.append cutFront c mem).1) blank
    rw [← whole] at mem
    refine scans.mentions_of_mem_runs mem ?_ bounds
    rw [same, cell.reference?_eq]
    exact named
  · obtain ⟨front, back, rfl, rfl, later⟩ := List.map_eq_append_iff.1 tokens
    obtain ⟨first, others, rfl, token, later⟩ := List.map_eq_cons_iff.1 later
    obtain ⟨colon, others, rfl, token', later⟩ := List.map_eq_cons_iff.1 later
    obtain ⟨second, others, rfl, token'', _⟩ := List.map_eq_cons_iff.1 later
    obtain ⟨_, middle, before, inner⟩ := laid.split
    obtain ⟨skipped, rfl, cutFront⟩ := before.exists_cut place
    obtain ⟨_, blanks, word, behind, rfl, blank, cell, inner⟩ := inner.exists_cell token
    obtain ⟨_, left, middle, rfl, blankLeft, inner⟩ := inner.exists_colon token'
    obtain ⟨_, right, last, final, rfl, blankRight, cell', _⟩ := inner.exists_cell token''
    have whole : text.toList = mark ++ skipped ++ blanks ++
        (word ++ (left ++ ':' :: (right ++ (last ++ final)))) := by
      simp [split]
    have pair := mem_rangePairs_of_cut (cut.append cutFront) blank cell (by simp) blankLeft
      blankRight cell'
    rw [← whole] at pair
    obtain ⟨a, b, ha, hb, inside⟩ := mem_cellsOfRange.1 mem
    exact scans.mentions_of_mem_rangePairs pair (cell.reference?_eq.trans ha)
      (cell'.reference?_eq.trans hb) inside

theorem mentions_of_shows {text : String} (short : ShortDigits text.toList) {mark body : List Char}
    (split : text.toList = mark ++ body) (cut : Cut mark) {position : Nat} {lexemes : List Lexeme}
    {rest : List Char} (laid : Laid position body lexemes rest) {bounds : Option Bounds} {c : Coord}
    (shown : Shows bounds (lexemes.map Lexeme.token) c) : Mentions text bounds c :=
  Scans.mentions_of_shows short.exists_scanParts split cut laid shown

/-- The references among the tokens of a text are parts of it, so they can be read if its runs of
digits are short. -/
theorem legible_of_laid {position : Nat} {cs rest : List Char} {lexemes : List Lexeme}
    (laid : Laid position cs lexemes rest) (short : ShortDigits cs) :
    Legible (lexemes.map Lexeme.token) := by
  intro ref mem
  obtain ⟨lexeme, inside, token⟩ := List.mem_map.1 mem
  obtain ⟨front, back, rfl⟩ := List.append_of_mem inside
  obtain ⟨_, middle, before, inner⟩ := laid.split
  obtain ⟨skipped, rfl, _⟩ := before.exists_front
  obtain ⟨_, blanks, word, behind, rfl, _, cell, _⟩ := inner.exists_cell token
  rw [← cell.reference?_eq]
  refine Address.exists_reference?_eq_ok (short.of_isInfix ⟨skipped ++ blanks, behind, ?_⟩)
  simp

/-- In front of the text behind the mark of a formula there is the mark, or nothing. -/
theorem exists_mark (formula : String) :
    ∃ mark, formula.toList = mark ++ ((formulaBody? formula).getD formula).toList ∧ Cut mark := by
  unfold formulaBody?
  split
  · next rest marked =>
    refine ⟨['='], by simp [marked], ?_⟩
    rintro _ ⟨⟩
    decide
  · exact ⟨[], rfl, cut_nil⟩

/-- Whenever a formula can be read as an expression, with its mark or without one, all cells that the
expression refers to are in the scan of the formula, for all bounds. -/
theorem references_subset_scan {limit : Int} {formula : String} {e : Expr}
    (parsed : parse limit ((formulaBody? formula).getD formula) = .ok e)
    (short : ShortDigits formula.toList) (bounds : Option Bounds) :
    ∃ references scanned, e.references bounds = .ok references ∧
      scanReferences formula bounds = .ok scanned ∧ ∀ c ∈ references, c ∈ scanned := by
  obtain ⟨mark, split, cut⟩ := exists_mark formula
  obtain ⟨rest, laid⟩ := laid_lexemesFrom 0 ((formulaBody? formula).getD formula).toList
  have shortBody : ShortDigits ((formulaBody? formula).getD formula).toList :=
    short.of_isInfix (split ▸ (List.suffix_append mark _).isInfix)
  obtain ⟨cells, collected, shown⟩ :=
    (derives_of_parse parsed).showsAll (legible_of_laid laid shortBody)
  obtain ⟨scanned, found⟩ := short.exists_scan bounds
  refine ⟨Coord.distinct cells, scanned, ?_, found, ?_⟩
  · rw [Expr.references_eq, collected]
    rfl
  · intro c mem
    obtain ⟨cells', found', inside⟩ :=
      mentions_of_shows short split cut laid (shown c (Coord.mem_distinct.1 mem))
    rw [found] at found'
    cases found'
    exact inside

/-- A formula with a range whose name of a function is itself a run, and a reference in lower case. -/
theorem references_subset_scan_sum :
    ∃ e, parse 8 ((formulaBody? "=SUM(A1 : B2, -c3)").getD "=SUM(A1 : B2, -c3)") = .ok e ∧
      ShortDigits "=SUM(A1 : B2, -c3)".toList ∧
      ∃ references scanned, e.references none = .ok references ∧
        scanReferences "=SUM(A1 : B2, -c3)" none = .ok scanned ∧
          ∀ c ∈ references, c ∈ scanned := by
  have short : ShortDigits "=SUM(A1 : B2, -c3)".toList := fun ds inside _ =>
    inside.length_le.trans (by decide)
  have read : (parse 8 ((formulaBody? "=SUM(A1 : B2, -c3)").getD "=SUM(A1 : B2, -c3)")).isOk =
      true := by
    decide +kernel
  cases parsed : parse 8 ((formulaBody? "=SUM(A1 : B2, -c3)").getD "=SUM(A1 : B2, -c3)") with
  | error fault =>
      rw [parsed] at read
      cases read
  | ok e => exact ⟨e, rfl, short, references_subset_scan parsed short none⟩

end FormulaSheet
