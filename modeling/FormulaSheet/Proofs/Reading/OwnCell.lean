import FormulaSheet.Proofs.Dependency.Cycle
import FormulaSheet.Proofs.Scan.Formula

/-!
# A formula that is accepted does not read its own cell

The verdict on a formula is given on its text, by a scan, and its value is that of an expression. A
verdict is only given if the scan has read every run of the text, so no reference of the expression has
a row number beyond the limit either: each of them is a run of its own (`Scans.legible`). The cells of the
expression are then all among those that the scan mentions, and the cell that the formula is entered
into is not among them, or the verdict would be that there is a cycle.
-/

namespace FormulaSheet

open Address (reference?)

/-- The references of a phrase that a text spells out can be read if the scan of the text succeeds. -/
theorem Scans.legible {text : String} (scans : Scans text) {mark body : List Char}
    (split : text.toList = mark ++ body) (cut : Cut mark) {position : Nat} {lexemes : List Lexeme}
    {rest : List Char} (laid : Laid position body lexemes rest) {n : Nat} {phrase : Phrase}
    {e : Expr} (derived : Derives n phrase (lexemes.map Lexeme.token) e) :
    Legible (lexemes.map Lexeme.token) := by
  intro ref mem
  obtain ⟨before, after, tokens⟩ := List.append_of_mem mem
  rw [tokens] at derived
  obtain ⟨front, back, rfl, rfl, later⟩ := List.map_eq_append_iff.1 tokens
  obtain ⟨lexeme, others, rfl, token, _⟩ := List.map_eq_cons_iff.1 later
  obtain ⟨_, middle, first, inner⟩ := laid.split
  obtain ⟨skipped, rfl, stop⟩ := first.exists_front_of_last fun token mem spelling spelled => by
    obtain ⟨s, rfl⟩ := derived.symbol_before_cell token mem
    exact spelled.symbol_isAlphanum
  obtain ⟨_, blanks, word, behind, rfl, blank, cell, _⟩ := inner.exists_cell token
  -- In front of the word stand the mark and the tokens before, of which the last one is a symbol.
  have stop' : ∀ c ∈ (mark ++ skipped).getLast?, c.isAlphanum = false := by
    intro c mem
    by_cases empty : skipped = []
    · rw [empty, List.append_nil] at mem
      exact (cut c mem).1
    · rw [List.getLast?_append_of_ne_nil _ empty] at mem
      exact stop c mem
  have whole : text.toList = mark ++ skipped ++ blanks ++ (word ++ behind) := by
    simp [split]
  obtain ⟨run, mem, same⟩ := cell.exists_run stop' blank
  rw [← whole] at mem
  rw [← cell.reference?_eq, ← same]
  exact scans.exists_reference? mem

/-- If the scan of a formula succeeds, it mentions all cells of the expression. -/
theorem Scans.exists_cells {formula : String} (scans : Scans formula) {limit : Int} {e : Expr}
    (parsed : parse limit ((formulaBody? formula).getD formula) = .ok e)
    (bounds : Option Bounds) :
    ∃ cells, e.cells bounds = .ok cells ∧ ∀ c ∈ cells, Mentions formula bounds c := by
  obtain ⟨mark, split, cut⟩ := exists_mark formula
  obtain ⟨rest, laid⟩ := laid_lexemesFrom 0 ((formulaBody? formula).getD formula).toList
  have derived := derives_of_parse parsed
  obtain ⟨cells, collected, shown⟩ := derived.showsAll (scans.legible split cut laid derived)
  exact ⟨cells, collected, fun c mem => scans.mentions_of_shows split cut laid (shown c mem)⟩

namespace Engine

variable {σ : Type} {engine : Engine σ} {sheet : Sheet} {text : String} {c : Coord}

theorem scans_of_wouldCycle {cyclic : Bool} (h : engine.wouldCycle sheet text c = .ok cyclic) :
    Scans text := by
  unfold wouldCycle dependencyWalk at h
  rw [scanReferences_eq_map] at h
  cases scanned : scanParts text with
  | error fault =>
      rw [scanned] at h
      cases h
  | ok parts => exact ⟨parts, scanned⟩

theorem not_mentions_of_wouldCycle (inside : c.IsInside sheet.rows sheet.cols)
    (h : engine.wouldCycle sheet text c = .ok false) : ¬ Mentions text none c := by
  intro mentions
  have within : Mentions text (some sheet.bounds) c := mentions.within ⟨inside.1.2, inside.2.2⟩
  cases (engine.wouldCycle_eq_ok_within h).2 ⟨c, within, Relation.ReflTransGen.refl⟩

/-- A formula for which no cycle was found does not read its own cell. -/
theorem exists_cells_of_wouldCycle (inside : c.IsInside sheet.rows sheet.cols)
    (h : engine.wouldCycle sheet text c = .ok false) {e : Expr}
    (parsed : engine.parseFormula text = .ok e) :
    ∃ cells, e.cells none = .ok cells ∧ c ∉ cells := by
  obtain ⟨cells, collected, mentioned⟩ := (scans_of_wouldCycle h).exists_cells parsed none
  exact ⟨cells, collected, fun mem => not_mentions_of_wouldCycle inside h (mentioned c mem)⟩

end Engine

end FormulaSheet
