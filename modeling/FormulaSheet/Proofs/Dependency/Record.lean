import FormulaSheet.Proofs.Dependency.Depth
import FormulaSheet.Proofs.Limit.Engine

/-!
# What a search reads

A walk notes the cells whose formulas it reads. At every moment these are the known cells that hold a
formula, and a known cell is not entered again, so no formula is read twice. The target is never known,
so its own formula is not read. This does not depend on the order in which cells become known, nor on
whether references lead in circles.

* `Walk.reaches_continues`: a walk that comes back has kept its path, and has only added cleared cells
  and formulas that were read. One that fails at its limit has read a formula at every step.
* `Walk.reaches_records`: the note is as described above, however the walk ends.
* `Engine.readsOnce`: what that means for the formulas of a sheet.
* `Engine.dependencyDepth_le_of_exceeds`: a search fails at its limit only if the sheet has as many
  formulas as the limit allows steps.
-/

namespace FormulaSheet
namespace Walk

variable {dependencies : Dependencies} {limit : Int} {target c d : Coord} {references : List Coord}
  {walk next : Walk}

/-! ### Walks that come back -/

/-- What a walk has done when it comes back to where it was: its path is the same, and it has only
added cleared cells and formulas that were read. -/
structure Continues (walk next : Walk) : Prop extends Grows walk next where
  scanned : walk.scanned <:+ next.scanned

theorem Continues.refl (walk : Walk) : Continues walk walk :=
  ⟨Grows.refl walk, List.suffix_refl walk.scanned⟩

theorem Continues.trans {third : Walk} (h : Continues walk next) (h' : Continues next third) :
    Continues walk third :=
  ⟨h.toGrows.trans h'.toGrows, h.scanned.trans h'.scanned⟩

theorem continues_clear (walk : Walk) (c : Coord) : Continues walk (walk.clear c) :=
  ⟨grows_clear walk c, List.suffix_refl walk.scanned⟩

theorem Continues.leave (h : Continues (walk.enter c) next) (fresh : ¬ walk.Known c) :
    Continues walk (next.leave c) :=
  ⟨h.toGrows.leave fresh, (List.suffix_cons c walk.scanned).trans h.scanned⟩

/-- An outcome that fails at the limit comes with at least so many formulas that were read. -/
def FailsAfter (limit : Int) (count : Nat) (outcome : Outcome) : Prop :=
  ∀ failure, outcome.1 = .error failure → Exceeds limit failure → count ≤ outcome.2.scanned.length

theorem FailsAfter.mono {count fewer : Nat} {outcome : Outcome} (h : FailsAfter limit count outcome)
    (le : fewer ≤ count) : FailsAfter limit fewer outcome :=
  fun failure failed exceeds => le.trans (h failure failed exceeds)

/-- A walk either comes back to where it was, or it stops. If it stops at the limit, each of its steps
has read a formula. -/
theorem reaches_continues (steps : Nat) (c : Coord) (walk : Walk) :
    Satisfies (Continues walk) (FailsAfter limit (walk.scanned.length + steps))
      (reaches dependencies limit target steps c walk) := by
  induction steps generalizing c walk with
  | zero =>
      refine arrive_satisfies (by rintro _ _ ⟨⟩) (fun _ _ => Continues.refl walk) fun _ _ => ?_
      rintro _ ⟨⟩ -
      exact le_refl _
  | succ steps ih =>
      refine arrive_satisfies (by rintro _ _ ⟨⟩) (fun _ _ => Continues.refl walk) fun _ fresh => ?_
      refine expand_satisfies (fun _ => continues_clear walk c) ?_ fun references _ => ?_
      · rintro fault - _ ⟨⟩ ⟨_, ⟨⟩⟩
      · have under : Satisfies (Continues (walk.enter c))
            (FailsAfter limit (walk.scanned.length + (steps + 1)))
            (follow (reaches dependencies limit target steps) references (walk.enter c)) := by
          refine follow_satisfies (fun d _ between passed => ?_) (Continues.refl _)
          -- Going below the cell has taken one step and read one formula.
          have longer := passed.scanned.length_le
          rw [scanned_enter, List.length_cons] at longer
          exact (ih d between).imp (fun _ => passed.trans) fun _ fails => fails.mono (by omega)
        exact under.imp (fun _ passed => passed.leave fresh) fun _ fails => fails

/-- A walk that comes back without the target has left its path as it was, and has only added cleared
cells. -/
theorem grows_of_reaches {steps : Nat}
    (back : reaches dependencies limit target steps c walk = (.ok false, next)) :
    Grows walk next := by
  have ended : Satisfies (Continues walk) (FailsAfter limit (walk.scanned.length + steps))
      (reaches dependencies limit target steps c walk) := reaches_continues steps c walk
  rw [back] at ended
  exact ended.toGrows

/-! ### The note of the formulas that were read -/

/-- One of the references leads to a cell. -/
def LedTo (dependencies : Dependencies) (references : List Coord) (c : Coord) : Prop :=
  ∃ first ∈ references, Relation.ReflTransGen (Leads dependencies) first c

theorem LedTo.tail (h : LedTo dependencies references c) (lead : Leads dependencies c d) :
    LedTo dependencies references d := by
  obtain ⟨first, mem, reach⟩ := h
  exact ⟨first, mem, reach.tail lead⟩

/-- The invariant of the note that a walk makes: the formulas that were read are those of the known
cells, each of them once. The target is not known, and references lead to all cells that are. -/
structure Records (dependencies : Dependencies) (target : Coord) (references : List Coord)
    (walk : Walk) : Prop where
  nodup : walk.scanned.Nodup
  unmet : ¬ walk.Known target
  mem_iff : ∀ c, c ∈ walk.scanned ↔ walk.Known c ∧ dependencies c ≠ none
  led : ∀ c, walk.Known c → LedTo dependencies references c

theorem records_empty (dependencies : Dependencies) (target : Coord) (references : List Coord) :
    Records dependencies target references {} where
  nodup := List.nodup_nil
  unmet := not_known_empty
  mem_iff := by simp
  led := by simp

theorem Records.not_mem (h : Records dependencies target references walk)
    (unknown : ¬ walk.Known c) : c ∉ walk.scanned :=
  fun mem => unknown ((h.mem_iff c).1 mem).1

theorem Records.enter (h : Records dependencies target references walk) (ne : c ≠ target)
    (fresh : ¬ walk.Known c) (formula : dependencies c ≠ none)
    (led : LedTo dependencies references c) :
    Records dependencies target references (walk.enter c) where
  nodup := List.nodup_cons.2 ⟨h.not_mem fresh, h.nodup⟩
  unmet := by simp [h.unmet, ne.symm]
  mem_iff d := by
    by_cases eq : d = c
    · simp [eq, formula]
    · simp [eq, h.mem_iff d]
  led d known := by
    rcases known_enter.1 known with rfl | old
    · exact led
    · exact h.led d old

/-- A cell without a formula becomes known, but nothing of it is read. -/
theorem Records.clear (h : Records dependencies target references walk) (ne : c ≠ target)
    (blank : dependencies c = none) (led : LedTo dependencies references c) :
    Records dependencies target references (walk.clear c) where
  nodup := h.nodup
  unmet := by simp [h.unmet, ne.symm]
  mem_iff d := by
    by_cases eq : d = c
    · simp [eq, blank, h.mem_iff c]
    · simp [eq, h.mem_iff d]
  led d known := by
    rcases known_clear.1 known with rfl | old
    · exact led
    · exact h.led d old

/-- Coming back from below a cell whose formula was read changes nothing, as it was known there. -/
theorem Records.leave (h : Records dependencies target references walk) (read : c ∈ walk.scanned) :
    Records dependencies target references (walk.leave c) := by
  have known := ((h.mem_iff c).1 read).1
  have same : ∀ d, (walk.leave c).Known d ↔ walk.Known d := by
    intro d
    rw [known_leave, or_iff_right_of_imp]
    rintro rfl
    exact known
  refine ⟨h.nodup, ?_, fun d => ?_, fun d mem => h.led d ((same d).1 mem)⟩
  · rw [same]
    exact h.unmet
  · rw [same]
    exact h.mem_iff d

/-- However a walk ends, its note is right. -/
theorem reaches_records (steps : Nat) (h : Records dependencies target references walk)
    (led : LedTo dependencies references c) :
    Satisfies (Records dependencies target references)
      (fun outcome => Records dependencies target references outcome.2)
      (reaches dependencies limit target steps c walk) := by
  induction steps generalizing c walk with
  | zero => exact arrive_satisfies (fun _ => h) (fun _ _ => h) fun _ _ => h
  | succ steps ih =>
      refine arrive_satisfies (fun _ => h) (fun _ _ => h) fun ne fresh => ?_
      refine expand_satisfies (fun blank => h.clear ne blank led)
        (fun fault stored => h.enter ne fresh (by simp [stored]) led) fun others stored => ?_
      have entered := h.enter ne fresh (by simp [stored]) led
      -- The cell is still noted when the walk comes back to it, so it may be left.
      have under : Satisfies
          (fun next => Records dependencies target references next ∧ Continues (walk.enter c) next)
          (fun outcome => Records dependencies target references outcome.2)
          (follow (reaches dependencies limit target steps) others (walk.enter c)) := by
        refine follow_satisfies ?_ ⟨entered, Continues.refl _⟩
        rintro d mem between ⟨records, passed⟩
        have below := ih records (led.tail ⟨others, stored, mem⟩)
        have both := below.and (reaches_continues steps d between)
        exact both.imp (fun _ kept => ⟨kept.1, passed.trans kept.2⟩) fun _ kept => kept.1
      refine under.imp ?_ fun _ records => records
      rintro next ⟨records, passed⟩
      exact records.leave (passed.scanned.subset List.mem_cons_self)

theorem search_records (dependencies : Dependencies) (limit : Int) (target : Coord)
    (references : List Coord) :
    Records dependencies target references (search dependencies limit target references).2 := by
  refine Satisfies.elim (fun outcome => Records dependencies target references outcome.2) ?_
  refine follow_satisfies (fun c mem walk records => ?_) (records_empty ..)
  exact reaches_records limit.toNat records ⟨c, mem, Relation.ReflTransGen.refl⟩

/-- A search that ends without the target has read all formulas that references lead to. -/
theorem mem_scanned_of_search
    (eq : search dependencies limit target references = (.ok false, next))
    (led : LedTo dependencies references c) (formula : dependencies c ≠ none) :
    c ∈ next.scanned := by
  have records := search_records dependencies limit target references
  rw [eq] at records
  obtain ⟨first, mem, reach⟩ := led
  have cleared := (cleared_of_search eq).2 first mem c reach
  exact (records.mem_iff c).2 ⟨Or.inr cleared, formula⟩

/-- A search that fails at its limit has read as many formulas as the limit allows steps. -/
theorem search_failsAfter (dependencies : Dependencies) (limit : Int) (target : Coord)
    (references : List Coord) :
    FailsAfter limit limit.toNat (search dependencies limit target references) := by
  have ended : Satisfies (fun _ => True) (FailsAfter limit limit.toNat)
      (search dependencies limit target references) := by
    refine follow_satisfies (fun c _ walk _ => ?_) trivial
    refine (reaches_continues limit.toNat c walk).imp (fun _ _ => trivial) fun _ fails => ?_
    exact fails.mono (Nat.le_add_left _ _)
  intro failure failed
  have stopped := (satisfies_of_stopped fun walk eq => by simp [eq] at failed).1 ended
  exact stopped failure failed

end Walk

/-! ### The formulas of a sheet -/

namespace Sheet

variable {sheet : Sheet} {text : String} {c d : Coord}

theorem dependencies_ne_none_iff : sheet.dependencies c ≠ none ↔ c ∈ sheet.formulaCells := by
  rw [mem_formulaCells, dependencies]
  cases (sheet.get c).formula with
  | none => simp
  | some formula => simp

/-- A text mentions a cell, or it mentions one from which references lead to it. -/
def Involves (sheet : Sheet) (text : String) (d : Coord) : Prop :=
  ∃ first, Mentions text (some sheet.bounds) first ∧ Relation.ReflTransGen sheet.DependsOn first d

theorem involves_iff {references : List Coord}
    (scanned : scanReferences text sheet.bounds = .ok references) :
    sheet.Involves text d ↔ Walk.LedTo sheet.dependencies references d := by
  simp [Involves, Walk.LedTo, Mentions, scanned, leads_dependencies]

/-- What a search for the cell `c` has read by the time it ends, with the answer or a failure. -/
structure ReadsOnce (sheet : Sheet) (text : String) (c : Coord) (outcome : Walk.Outcome) : Prop where
  /-- No formula is read twice. -/
  nodup : outcome.2.scanned.Nodup
  /-- The formula of the cell itself is not read. -/
  unmet : c ∉ outcome.2.scanned
  /-- Only formulas that the text involves are read. -/
  involved : ∀ d ∈ outcome.2.scanned, d ∈ sheet.formulaCells ∧ sheet.Involves text d
  /-- All of them are read before the answer is that the cell is not among them. -/
  complete : outcome.1 = .ok false →
    ∀ d ∈ sheet.formulaCells, sheet.Involves text d → d ∈ outcome.2.scanned

/-- There are not more formulas to be read than there are in the sheet. -/
theorem ReadsOnce.length_le {outcome : Walk.Outcome} (h : sheet.ReadsOnce text c outcome) :
    outcome.2.scanned.length ≤ sheet.formulaCells.length :=
  (h.nodup.subperm fun d mem => (h.involved d mem).1).length_le

theorem readsOnce_of_search {references : List Coord}
    (scanned : scanReferences text sheet.bounds = .ok references) (limit : Int) (c : Coord) :
    sheet.ReadsOnce text c (Walk.search sheet.dependencies limit c references) := by
  have records := Walk.search_records sheet.dependencies limit c references
  refine ⟨records.nodup, records.not_mem records.unmet, fun d mem => ?_, fun back d formula led => ?_⟩
  · obtain ⟨known, formula⟩ := (records.mem_iff d).1 mem
    exact ⟨dependencies_ne_none_iff.1 formula, (involves_iff scanned).2 (records.led d known)⟩
  · exact Walk.mem_scanned_of_search (Prod.ext back rfl) ((involves_iff scanned).1 led)
      (dependencies_ne_none_iff.2 formula)

end Sheet

namespace Engine

variable {σ : Type} (engine : Engine σ)

/-- A search reads each formula at most once and the one of its cell never, however it ends. -/
theorem readsOnce (sheet : Sheet) (text : String) (c : Coord) :
    sheet.ReadsOnce text c (engine.dependencyWalk sheet text c) := by
  rw [dependencyWalk]
  split
  · exact ⟨List.nodup_nil, List.not_mem_nil, by simp, by simp⟩
  · next references scanned => exact Sheet.readsOnce_of_search scanned _ c

/-- As a formula is read at every step and none twice, a search that fails at its limit is one in a
sheet with as many formulas as that. -/
theorem dependencyDepth_le_of_exceeds {sheet : Sheet} {text : String} {c : Coord} {failure : Failure}
    (failed : (engine.dependencyWalk sheet text c).1 = .error failure)
    (exceeds : Walk.Exceeds engine.limits.dependencyDepth failure) :
    engine.limits.dependencyDepth ≤ sheet.formulaCells.length := by
  have few := (engine.readsOnce sheet text c).length_le
  rw [dependencyWalk] at failed few
  split at failed
  · cases failed
    obtain ⟨_, ⟨⟩⟩ := exceeds
  · next references scanned =>
    rw [scanned] at few
    have many := Walk.search_failsAfter sheet.dependencies engine.limits.dependencyDepth c references
      failure failed exceeds
    exact Int.toNat_le.1 (many.trans few)

end Engine

end FormulaSheet
