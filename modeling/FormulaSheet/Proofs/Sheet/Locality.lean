import FormulaSheet.Proofs.Sheet.Reentry

/-!
# What a formula depends on

Everything that is found out about a formula before it is stored, and the value that is stored with it, is
decided by the cells that it leads to. A region of cells is closed if no formula in it refers to a cell
outside. If a formula refers to cells of a closed region only, then neither the walk that looks for a cycle
nor the evaluation leaves the region, so two sheets that store the same in it make the same cell.

* `Walk.search_eq_of_closed`: a walk that starts in a closed region stays in it.
* `Engine.evaluate_eq_of_agreeOn`: an evaluation reads cells that the text mentions, and cells outside of
  the sheet, which are empty.
* `Engine.cellFor_eq_of_agreeOn` puts both together.
-/

namespace FormulaSheet

namespace Walk

variable {dependencies others : Dependencies} {limit : Int} {target : Coord} {region : Coord → Prop}

theorem follow_congr {visit other : Coord → Walk → Outcome} {cs : List Coord}
    (h : ∀ c ∈ cs, visit c = other c) (walk : Walk) : follow visit cs walk = follow other cs walk := by
  induction cs generalizing walk with
  | nil => rfl
  | cons c rest ih =>
      have later : follow visit rest = follow other rest :=
        funext (ih fun d mem => h d (List.mem_cons_of_mem c mem))
      rw [follow, follow, h c List.mem_cons_self, later]

section Closed

variable (same : ∀ c, region c → dependencies c = others c)
  (closed : ∀ c d, region c → Leads dependencies c d → region d)
include same closed

/-- Walks from a cell of a closed region are the same for dependencies that are the same in it. -/
theorem reaches_eq_of_closed (steps : Nat) {c : Coord} (inside : region c) :
    reaches dependencies limit target steps c = reaches others limit target steps c := by
  induction steps generalizing c with
  | zero => rfl
  | succ steps ih =>
      have expanded : expand dependencies (reaches dependencies limit target steps) c =
          expand others (reaches others limit target steps) c := by
        funext walk
        rw [expand, expand, ← same c inside]
        cases found : dependencies c with
        | none => rfl
        | some scanned =>
            cases scanned with
            | error fault => rfl
            | ok references =>
                have below : ∀ d ∈ references, reaches dependencies limit target steps d =
                    reaches others limit target steps d := fun d mem =>
                  ih (closed c d inside ⟨references, found, mem⟩)
                dsimp only
                rw [follow_congr below]
      funext walk
      rw [reaches, reaches, arrive, arrive, expanded]

theorem search_eq_of_closed {references : List Coord} (inside : ∀ c ∈ references, region c) :
    search dependencies limit target references = search others limit target references :=
  follow_congr (fun c mem => reaches_eq_of_closed same closed limit.toNat (inside c mem)) {}

end Closed

end Walk

namespace Sheet

/-- Two sheets have the same rows and columns, and store the same in the cells of a region. -/
structure AgreeOn (sheet other : Sheet) (region : Coord → Prop) : Prop where
  rows : sheet.rows = other.rows
  cols : sheet.cols = other.cols
  cells : ∀ c, region c → sheet.cells[c]? = other.cells[c]?

/-- The formulas in a region refer to cells of the region only. -/
def IsClosed (sheet : Sheet) (region : Coord → Prop) : Prop :=
  ∀ c d, region c → sheet.DependsOn c d → region d

variable {sheet other third : Sheet} {region smaller : Coord → Prop}

namespace AgreeOn

theorem refl (sheet : Sheet) (region : Coord → Prop) : sheet.AgreeOn sheet region :=
  ⟨rfl, rfl, fun _ _ => rfl⟩

theorem symm (h : sheet.AgreeOn other region) : other.AgreeOn sheet region :=
  ⟨h.rows.symm, h.cols.symm, fun c inside => (h.cells c inside).symm⟩

theorem trans (h : sheet.AgreeOn other region) (h' : other.AgreeOn third region) :
    sheet.AgreeOn third region :=
  ⟨h.rows.trans h'.rows, h.cols.trans h'.cols, fun c inside =>
    (h.cells c inside).trans (h'.cells c inside)⟩

theorem mono (h : sheet.AgreeOn other region) (sub : ∀ c, smaller c → region c) :
    sheet.AgreeOn other smaller :=
  ⟨h.rows, h.cols, fun c inside => h.cells c (sub c inside)⟩

variable (agree : sheet.AgreeOn other region)
include agree

theorem get_eq {c : Coord} (inside : region c) : sheet.get c = other.get c := by
  rw [Sheet.get, Sheet.get, agree.cells c inside]

theorem bounds_eq : sheet.bounds = other.bounds := by
  rw [bounds, bounds, agree.rows, agree.cols]

theorem dependencies_eq {c : Coord} (inside : region c) :
    sheet.dependencies c = other.dependencies c := by
  rw [dependencies, dependencies, agree.get_eq inside, agree.bounds_eq]

end AgreeOn

/-- A cell that is not inside the sheet is empty. -/
theorem get_of_not_isInside {c : Coord} (h : ¬ c.IsInside sheet.rows sheet.cols) : sheet.get c = {} := by
  have missing : c ∉ sheet.cells := fun mem => h (sheet.inside c mem)
  rw [get, Std.TreeMap.getElem?_eq_none missing]
  rfl

end Sheet

namespace Engine

variable {σ : Type} {engine : Engine σ} {sheet other : Sheet} {region : Coord → Prop} {text : String}
  (agree : sheet.AgreeOn other region)
  (mentions : ∀ c, Mentions text (some sheet.bounds) c → region c)
include agree mentions

/-- An evaluation reads cells that the text mentions, and cells outside of the sheet. -/
theorem evaluate_eq_of_agreeOn (scans : Scans text) :
    engine.evaluate sheet text = engine.evaluate other text := by
  unfold evaluate
  cases parsed : engine.parseFormula text with
  | error error => rfl
  | ok e =>
      obtain ⟨cells, collected, mentioned⟩ := scans.exists_cells parsed none
      have same : ∀ c ∈ cells, sheet.get c = other.get c := by
        intro c mem
        by_cases inside : c.IsInside sheet.rows sheet.cols
        · exact agree.get_eq (mentions c ((mentioned c mem).within ⟨inside.1.2, inside.2.2⟩))
        · have outside : ¬ c.IsInside other.rows other.cols := by
            rw [← agree.rows, ← agree.cols]
            exact inside
          rw [Sheet.get_of_not_isInside inside, Sheet.get_of_not_isInside outside]
      have contexts : (engine.context sheet).Agree (engine.context other) cells :=
        { texts := fun c mem => congrArg (pure ∘ Cell.value) (same c mem)
          functions := rfl
          limits := rfl }
      exact contexts.descend_eq (e.node_eq_of_agree contexts collected (List.Subset.refl _)) 0

variable (closed : sheet.IsClosed region)
include closed

theorem wouldCycle_eq_of_agreeOn (c : Coord) :
    engine.wouldCycle sheet text c = engine.wouldCycle other text c := by
  unfold wouldCycle dependencyWalk
  rw [← agree.bounds_eq]
  cases scanned : scanReferences text (some sheet.bounds) with
  | error fault => rfl
  | ok references =>
      have inside : ∀ d ∈ references, region d := fun d mem => mentions d ⟨references, scanned, mem⟩
      have stays : ∀ d e, region d → Walk.Leads sheet.dependencies d e → region e :=
        fun d e inside leads => closed d e inside (Sheet.leads_iff.1 leads)
      exact congrArg Prod.fst
        (Walk.search_eq_of_closed (fun d inside => agree.dependencies_eq inside) stays inside)

theorem check_eq_of_agreeOn (c : Coord) : engine.check sheet text c = engine.check other text c := by
  rw [check, check, wouldCycle_eq_of_agreeOn agree mentions closed]

omit mentions in
/-- Two sheets that agree on a closed region make the same cell for a formula that refers to cells of the
region only, and for every text that is no formula. -/
theorem cellFor_eq_of_agreeOn (c : Coord)
    (mentions : (formulaBody? text).isSome = true → ∀ d, Mentions text (some sheet.bounds) d → region d) :
    engine.cellFor sheet c text = engine.cellFor other c text := by
  cases mark : formulaBody? text with
  | none => rw [cellFor_of_text mark, cellFor_of_text mark]
  | some body =>
      rw [mark] at mentions
      have checked := engine.check_eq_of_agreeOn agree (mentions rfl) closed c
      cases verdict : engine.check sheet text c with
      | error failure =>
          rw [cellFor_of_refused mark verdict, cellFor_of_refused mark (checked ▸ verdict)]
      | ok =>
          have scans : Scans text := scans_of_wouldCycle (check_eq_ok verdict)
          have displayed : engine.display sheet text = engine.display other text := by
            rw [display, display, evaluate_eq_of_agreeOn agree (mentions rfl) scans]
          rw [cellFor_of_accepted mark verdict, cellFor_of_accepted mark (checked ▸ verdict), displayed]

end Engine

end FormulaSheet
