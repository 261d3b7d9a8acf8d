import FormulaSheet.Proofs.Dependency.Search
import FormulaSheet.Proofs.Scan.Contents
import FormulaSheet.Sheet.Engine
import Mathlib.Data.List.Chain

/-!
# The verdict on cycles

A formula that is about to be entered at a cell closes a cycle if a chain of references leads from it
back to the cell. The search answers this on the references that are left when ranges are cut down to
the sheet. That loses nothing: a cell outside of the sheet has no formula, so a chain can neither go
through it nor end there.

* `reachable_within`: a chain of references that ends inside the sheet stays inside of it.
* `wouldCycle_eq_ok_iff`: the verdict is the existence of such a chain.
-/

namespace FormulaSheet

/-- The formula of `c` mentions `d`. An empty formula mentions nothing. -/
def Sheet.Refers (sheet : Sheet) (bounds : Option Bounds) (c d : Coord) : Prop :=
  ∃ formula, (sheet.get c).formula = some formula ∧ Mentions formula bounds d

/-- The formula of `c` mentions `d` when ranges are cut down to the sheet. -/
abbrev Sheet.DependsOn (sheet : Sheet) (c d : Coord) : Prop :=
  sheet.Refers (some sheet.bounds) c d

/-- A chain of references: the text mentions its first cell, and the formula of every cell mentions
the next one. -/
structure Sheet.Chain (sheet : Sheet) (bounds : Option Bounds) (text : String)
    (cells : List Coord) : Prop where
  head : ∀ c ∈ cells.head?, Mentions text bounds c
  refers : cells.IsChain (sheet.Refers bounds)

theorem not_mentions_empty (bounds : Option Bounds) (c : Coord) : ¬ Mentions "" bounds c := by
  rintro ⟨cells, scanned, mem⟩
  have nothing : scanReferences "" bounds = .ok [] := by
    simp [scanReferences, runs, rangePairs, Coord.distinct, bind, Except.bind, pure, Except.pure]
  rw [nothing] at scanned
  cases scanned
  exact List.not_mem_nil mem

namespace Sheet

variable {sheet : Sheet}

/-- Only cells inside the sheet hold formulas. -/
theorem isInside_of_formula {c : Coord} {formula : String}
    (h : (sheet.get c).formula = some formula) : c.IsInside sheet.rows sheet.cols := by
  refine sheet.inside c ?_
  by_contra missing
  have empty : sheet.get c = {} := by
    rw [get, Std.TreeMap.getElem?_eq_none missing]
    rfl
  rw [empty] at h
  cases h

/-- The references that a search follows are those of the formulas, with ranges cut down. -/
theorem leads_iff {c d : Coord} : Walk.Leads sheet.dependencies c d ↔ sheet.DependsOn c d := by
  unfold Walk.Leads DependsOn Refers dependencies
  cases (sheet.get c).formula with
  | none => simp
  | some formula =>
      by_cases empty : formula = ""
      · subst empty
        simp [not_mentions_empty]
      · simp [empty, Mentions]

theorem leads_dependencies (sheet : Sheet) : Walk.Leads sheet.dependencies = sheet.DependsOn := by
  funext c d
  exact propext leads_iff

theorem Refers.unbounded {bounds : Option Bounds} {c d : Coord} (h : sheet.Refers bounds c d) :
    sheet.Refers none c d := by
  obtain ⟨formula, stored, mentions⟩ := h
  exact ⟨formula, stored, mentions.unbounded⟩

theorem Refers.within {c d : Coord} (h : sheet.Refers none c d)
    (inside : d.IsInside sheet.rows sheet.cols) : sheet.DependsOn c d := by
  obtain ⟨formula, stored, mentions⟩ := h
  exact ⟨formula, stored, mentions.within ⟨inside.1.2, inside.2.2⟩⟩

/-- A chain of references that ends inside the sheet is inside of it all the way, so it is still
there when ranges are cut down. -/
theorem reachable_within {c d : Coord} (inside : d.IsInside sheet.rows sheet.cols)
    (h : Relation.ReflTransGen (sheet.Refers none) c d) :
    c.IsInside sheet.rows sheet.cols ∧ Relation.ReflTransGen sheet.DependsOn c d := by
  induction h using Relation.ReflTransGen.head_induction_on with
  | refl => exact ⟨inside, Relation.ReflTransGen.refl⟩
  | head first _ ih =>
      have within := first.within ih.1
      obtain ⟨formula, stored, _⟩ := first
      exact ⟨isInside_of_formula stored, Relation.ReflTransGen.head within ih.2⟩

/-- There is a chain to a cell if one of the cells that the text mentions leads to it. -/
theorem exists_chain_iff {bounds : Option Bounds} {text : String} {c : Coord} :
    (∃ cells, sheet.Chain bounds text cells ∧ cells.getLast? = some c) ↔
      ∃ d, Mentions text bounds d ∧ Relation.ReflTransGen (sheet.Refers bounds) d c := by
  constructor
  · rintro ⟨cells, chain, last⟩
    cases cells with
    | nil => cases last
    | cons d rest =>
        refine ⟨d, chain.head d rfl, ?_⟩
        refine List.relationReflTransGen_of_exists_isChain_cons rest chain.refers ?_
        rw [List.getLast?_eq_some_getLast (List.cons_ne_nil d rest)] at last
        exact Option.some.inj last
  · rintro ⟨d, mentions, reach⟩
    obtain ⟨rest, refers, last⟩ := List.exists_isChain_cons_of_relationReflTransGen reach
    refine ⟨d :: rest, ⟨?_, refers⟩, ?_⟩
    · rintro _ ⟨⟩
      exact mentions
    · rw [List.getLast?_eq_some_getLast (List.cons_ne_nil d rest), last]

end Sheet

namespace Engine

variable {σ : Type} (engine : Engine σ) {sheet : Sheet} {text : String} {c : Coord}

/-- The verdict on a formula, on the references that are left when ranges are cut down. -/
theorem wouldCycle_eq_ok_within {cyclic : Bool}
    (h : engine.wouldCycle sheet text c = .ok cyclic) :
    cyclic = true ↔
      ∃ d, Mentions text (some sheet.bounds) d ∧ Relation.ReflTransGen sheet.DependsOn d c := by
  unfold wouldCycle dependencyWalk at h
  split at h
  · cases h
  · next cells scanned =>
    have verdict := Walk.search_eq_ok_iff (Prod.ext h rfl)
    rw [verdict, sheet.leads_dependencies]
    constructor
    · rintro ⟨d, mem, reach⟩
      exact ⟨d, ⟨cells, scanned, mem⟩, reach⟩
    · rintro ⟨d, ⟨others, scanned', mem⟩, reach⟩
      rw [scanned] at scanned'
      cases scanned'
      exact ⟨d, mem, reach⟩

/-- The verdict on a formula is whether a chain of references leads from it to its cell. Ranges are
not cut down here. -/
theorem wouldCycle_eq_ok_iff {cyclic : Bool} (inside : c.IsInside sheet.rows sheet.cols)
    (h : engine.wouldCycle sheet text c = .ok cyclic) :
    cyclic = true ↔ ∃ cells, sheet.Chain none text cells ∧ cells.getLast? = some c := by
  rw [engine.wouldCycle_eq_ok_within h, Sheet.exists_chain_iff]
  constructor
  · rintro ⟨d, mentions, reach⟩
    refine ⟨d, mentions.unbounded, ?_⟩
    exact Relation.ReflTransGen.mono (fun _ _ => Sheet.Refers.unbounded) d c reach
  · rintro ⟨d, mentions, reach⟩
    obtain ⟨inside', reach'⟩ := Sheet.reachable_within inside reach
    exact ⟨d, mentions.within ⟨inside'.1.2, inside'.2.2⟩, reach'⟩

/-- An engine with the functions that are built in and the usual limits. -/
def plain : Engine Unit where
  registry := { world := World.still }

end Engine

/-- A row of two cells, of which the second one refers to the first one. -/
def Sheet.linked : Sheet :=
  Sheet.put ⟨1, 2, by decide, by decide, ∅, fun _ mem => absurd mem Std.TreeMap.not_mem_emptyc⟩
    ⟨0, 1⟩ { value := "0", formula := some "=A1" } (by decide)

/-- Entering a reference to the second cell in the first one would close a chain. -/
theorem Engine.wouldCycle_linked :
    (⟨0, 0⟩ : Coord).IsInside Sheet.linked.rows Sheet.linked.cols ∧
      Engine.plain.wouldCycle Sheet.linked "=SUM(B1:C9)" ⟨0, 0⟩ = .ok true ∧
      ∃ cells, Sheet.linked.Chain none "=SUM(B1:C9)" cells ∧ cells.getLast? = some ⟨0, 0⟩ := by
  have inside : (⟨0, 0⟩ : Coord).IsInside Sheet.linked.rows Sheet.linked.cols := by decide
  have verdict : Engine.plain.wouldCycle Sheet.linked "=SUM(B1:C9)" ⟨0, 0⟩ = .ok true := by
    decide +kernel
  exact ⟨inside, verdict, (Engine.plain.wouldCycle_eq_ok_iff inside verdict).1 rfl⟩

end FormulaSheet
