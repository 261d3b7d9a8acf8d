import FormulaSheet.Proofs.Address.Reference
import FormulaSheet.Proofs.Result
import FormulaSheet.Proofs.Scan.Runs

/-!
# What a scan lists

The scan of a text lists the cells of its runs and the cells of the rectangles that its pairs of runs
span. Only the second part depends on the bounds, and it depends on them in the simplest way: a cell
of a rectangle is listed if it is in front of the bounds.

* `scanReferences_eq_map` separates what the text decides from what the bounds decide.
* `mem_fst_scanParts` and `mem_snd_scanParts` say what the two parts consist of, and `mentions_iff_parts`
  which cells a text mentions by them.
* `Mentions.unbounded` and `Mentions.within` compare scans of one text under different bounds.
* `ShortDigits.exists_scan`: a scan fails only at a row number beyond the limit.
* If the scan of a text succeeds (`Scans`), the cells of its runs and of its pairs of runs are mentioned
  (`Scans.mentions_of_mem_runs`, `Scans.mentions_of_mem_rangePairs`).
-/

namespace FormulaSheet

open Address (reference? Rect)

/-- The cells of the runs of a text, and the rectangles of its pairs of runs. -/
def scanParts (text : String) : Except Number.IntegerFault (List Coord × List Rect) := do
  let found := runs text.toList
  let singles ← found.mapM fun run => reference? run.word
  let rects ← (rangePairs found).mapM pairRect?
  return (singles.filterMap id, rects.filterMap id)

/-- The cells of some parts under bounds, each at its first place. -/
def listParts (bounds : Option Bounds) (parts : List Coord × List Rect) : List Coord :=
  Coord.distinct (parts.1 ++ parts.2.flatMap (·.cellsWithin bounds))

theorem scanReferences_eq_map (text : String) (bounds : Option Bounds) :
    scanReferences text bounds = (scanParts text).map (listParts bounds) := by
  unfold scanReferences scanParts
  dsimp only
  cases (runs text.toList).mapM fun run => reference? run.word with
  | error fault => rfl
  | ok cells =>
      change ((rangePairs (runs text.toList)).mapM pairRect? >>= _) = Except.map _ (_ >>= _)
      cases (rangePairs (runs text.toList)).mapM pairRect? with
      | error fault => rfl
      | ok rects => rfl

/-- The scan of a text succeeds, and lists a cell. -/
def Mentions (text : String) (bounds : Option Bounds) (c : Coord) : Prop :=
  ∃ cells, scanReferences text bounds = .ok cells ∧ c ∈ cells

theorem mem_listParts {bounds : Option Bounds} {parts : List Coord × List Rect} {c : Coord} :
    c ∈ listParts bounds parts ↔ c ∈ parts.1 ∨ ∃ r ∈ parts.2, c ∈ r.cellsWithin bounds := by
  rw [listParts, Coord.mem_distinct, List.mem_append, List.mem_flatMap]

theorem mentions_iff_parts {text : String} {bounds : Option Bounds} {c : Coord} :
    Mentions text bounds c ↔
      ∃ parts, scanParts text = .ok parts ∧
        (c ∈ parts.1 ∨ ∃ r ∈ parts.2, c ∈ r.cellsWithin bounds) := by
  unfold Mentions
  rw [scanReferences_eq_map]
  constructor
  · rintro ⟨cells, scanned, mem⟩
    obtain ⟨parts, found, rfl⟩ := map_eq_ok.1 scanned
    exact ⟨parts, found, mem_listParts.1 mem⟩
  · rintro ⟨parts, found, mem⟩
    exact ⟨_, map_eq_ok.2 ⟨parts, found, rfl⟩, mem_listParts.2 mem⟩

/-- A cell of a rectangle is kept by the bounds that it is in front of. -/
theorem mem_cellsWithin {r : Rect} {bounds : Option Bounds} {c : Coord} :
    c ∈ r.cellsWithin bounds ↔ c ∈ r.cells ∧ ∀ b ∈ bounds, c.row < b.rows ∧ c.col < b.cols := by
  cases bounds with
  | none => simp [Rect.cellsWithin]
  | some b =>
      simp only [Rect.cellsWithin, Rect.mem_cells, Rect.clip, Option.mem_def, Option.some.injEq]
      constructor
      · rintro ⟨⟨top, bottom⟩, left, right⟩
        refine ⟨⟨⟨top, by omega⟩, left, by omega⟩, ?_⟩
        rintro _ rfl
        omega
      · rintro ⟨⟨⟨top, bottom⟩, left, right⟩, front⟩
        have := front b rfl
        omega

theorem mem_cells_of_mem_cellsWithin {r : Rect} {bounds : Option Bounds} {c : Coord}
    (h : c ∈ r.cellsWithin bounds) : c ∈ r.cells :=
  (mem_cellsWithin.1 h).1

/-- Bounds only take cells away. -/
theorem Mentions.unbounded {text : String} {bounds : Option Bounds} {c : Coord}
    (h : Mentions text bounds c) : Mentions text none c := by
  obtain ⟨parts, found, mem⟩ := mentions_iff_parts.1 h
  refine mentions_iff_parts.2 ⟨parts, found, ?_⟩
  rcases mem with single | ⟨r, hr, within⟩
  · exact Or.inl single
  · exact Or.inr ⟨r, hr, mem_cells_of_mem_cellsWithin within⟩

/-- Bounds take no cell away that is in front of them. -/
theorem Mentions.within {text : String} {c : Coord} (h : Mentions text none c) {b : Bounds}
    (front : c.row < b.rows ∧ c.col < b.cols) : Mentions text (some b) c := by
  obtain ⟨parts, found, mem⟩ := mentions_iff_parts.1 h
  refine mentions_iff_parts.2 ⟨parts, found, ?_⟩
  rcases mem with single | ⟨r, hr, cell⟩
  · exact Or.inl single
  · refine Or.inr ⟨r, hr, mem_cellsWithin.2 ⟨mem_cells_of_mem_cellsWithin cell, ?_⟩⟩
    rintro _ ⟨⟩
    exact front

/-- A pair of runs spans a rectangle if both are references. -/
theorem pairRect?_eq_some_iff {pair : List Char × List Char} {r : Rect} :
    pairRect? pair = .ok (some r) ↔
      ∃ a b, reference? pair.1 = .ok (some a) ∧ reference? pair.2 = .ok (some b) ∧
        r = Rect.ofCorners a b := by
  constructor
  · intro spanned
    obtain ⟨first, hfirst, later⟩ := bind_eq_ok.1 spanned
    cases first with
    | none => cases later
    | some a =>
        obtain ⟨second, hsecond, last⟩ := bind_eq_ok.1 later
        cases second with
        | none => cases last
        | some b =>
            cases last
            exact ⟨a, b, hfirst, hsecond, rfl⟩
  · rintro ⟨a, b, hfirst, hsecond, rfl⟩
    exact bind_eq_ok.2 ⟨some a, hfirst, bind_eq_ok.2 ⟨some b, hsecond, rfl⟩⟩

section Parts

variable {text : String} {parts : List Coord × List Rect} (found : scanParts text = .ok parts)
include found

/-- The first part of a scan are the cells of the runs. -/
theorem mem_fst_scanParts {c : Coord} :
    c ∈ parts.1 ↔ ∃ run ∈ runs text.toList, reference? run.word = .ok (some c) := by
  obtain ⟨singles, hsingles, later⟩ := bind_eq_ok.1 found
  obtain ⟨rects, _, last⟩ := bind_eq_ok.1 later
  cases last
  rw [← mem_of_mapM_eq_ok hsingles (some c)]
  simp

/-- The second part of a scan are the rectangles of the pairs of runs. -/
theorem mem_snd_scanParts {r : Rect} :
    r ∈ parts.2 ↔ ∃ pair ∈ rangePairs (runs text.toList), pairRect? pair = .ok (some r) := by
  obtain ⟨singles, _, later⟩ := bind_eq_ok.1 found
  obtain ⟨rects, hrects, last⟩ := bind_eq_ok.1 later
  cases last
  rw [← mem_of_mapM_eq_ok hrects (some r)]
  simp

end Parts

theorem exists_pairRect?_eq_ok {pair : List Char × List Char} (first : ShortDigits pair.1)
    (second : ShortDigits pair.2) : ∃ rect, pairRect? pair = .ok rect := by
  obtain ⟨start, hstart⟩ := Address.exists_reference?_eq_ok first
  obtain ⟨finish, hfinish⟩ := Address.exists_reference?_eq_ok second
  cases start with
  | none => exact ⟨none, bind_eq_ok.2 ⟨none, hstart, rfl⟩⟩
  | some a =>
      cases finish with
      | none => exact ⟨none, bind_eq_ok.2 ⟨some a, hstart, bind_eq_ok.2 ⟨none, hfinish, rfl⟩⟩⟩
      | some b =>
          exact ⟨some (Rect.ofCorners a b),
            bind_eq_ok.2 ⟨some a, hstart, bind_eq_ok.2 ⟨some b, hfinish, rfl⟩⟩⟩

/-- Every row number that the scan of a text comes to can be read. -/
def Scans (text : String) : Prop :=
  ∃ parts, scanParts text = .ok parts

section Short

variable {text : String} (short : ShortDigits text.toList)
include short

theorem ShortDigits.exists_scanParts : Scans text := by
  have words : ∀ run ∈ runs text.toList, ShortDigits run.word := fun run mem =>
    short.of_isInfix (infix_of_mem_runs mem)
  have named : ∀ run ∈ runs text.toList, ∃ c, reference? run.word = .ok c := fun run mem =>
    Address.exists_reference?_eq_ok (words run mem)
  obtain ⟨singles, hsingles⟩ := exists_mapM_eq_ok named
  have pairs : ∀ pair ∈ rangePairs (runs text.toList), ∃ rect, pairRect? pair = .ok rect := by
    intro pair mem
    obtain ⟨⟨first, memFirst, hfirst⟩, second, memSecond, hsecond⟩ := exists_of_mem_rangePairs mem
    exact exists_pairRect?_eq_ok (hfirst ▸ words first memFirst)
      (hsecond ▸ words second memSecond)
  obtain ⟨rects, hrects⟩ := exists_mapM_eq_ok pairs
  exact ⟨_, bind_eq_ok.2 ⟨singles, hsingles, bind_eq_ok.2 ⟨rects, hrects, rfl⟩⟩⟩

/-- A scan fails only at a row number beyond the limit. -/
theorem ShortDigits.exists_scan (bounds : Option Bounds) :
    ∃ cells, scanReferences text bounds = .ok cells := by
  obtain ⟨parts, found⟩ := short.exists_scanParts
  exact ⟨listParts bounds parts, by rw [scanReferences_eq_map, found]; rfl⟩

end Short

section Scans

variable {text : String} (scans : Scans text)
include scans

/-- The references in a text whose scan succeeds can be read, as the scan reads every run. -/
theorem Scans.exists_reference? {run : Run} (mem : run ∈ runs text.toList) :
    ∃ found, reference? run.word = .ok found := by
  obtain ⟨parts, found⟩ := scans
  obtain ⟨singles, hsingles, _⟩ := bind_eq_ok.1 found
  exact exists_of_mapM_eq_ok hsingles mem

theorem Scans.mentions_of_mem_runs {run : Run} (mem : run ∈ runs text.toList) {c : Coord}
    (named : reference? run.word = .ok (some c)) (bounds : Option Bounds) :
    Mentions text bounds c := by
  obtain ⟨parts, found⟩ := scans
  exact mentions_iff_parts.2 ⟨parts, found, Or.inl ((mem_fst_scanParts found).2 ⟨run, mem, named⟩)⟩

theorem Scans.mentions_of_mem_rangePairs {pair : List Char × List Char}
    (mem : pair ∈ rangePairs (runs text.toList)) {a b c : Coord}
    (first : reference? pair.1 = .ok (some a)) (second : reference? pair.2 = .ok (some b))
    {bounds : Option Bounds} (inside : c ∈ (Rect.ofCorners a b).cellsWithin bounds) :
    Mentions text bounds c := by
  obtain ⟨parts, found⟩ := scans
  have spanned : pairRect? pair = .ok (some (Rect.ofCorners a b)) :=
    pairRect?_eq_some_iff.2 ⟨a, b, first, second, rfl⟩
  have listed : Rect.ofCorners a b ∈ parts.2 := (mem_snd_scanParts found).2 ⟨pair, mem, spanned⟩
  exact mentions_iff_parts.2 ⟨parts, found, Or.inr ⟨_, listed, inside⟩⟩

end Scans

end FormulaSheet
