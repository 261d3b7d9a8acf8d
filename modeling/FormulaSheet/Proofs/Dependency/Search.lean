import FormulaSheet.Proofs.Dependency.Step
import Mathlib.Logic.Relation

/-!
# Exactness of the walk along references

A walk skips two kinds of cells, those on its path and those that were cleared. A cell may be cleared
although one of the cells it leads to was skipped for being on the path, so a cleared cell alone says
nothing about the target. What holds at every moment is a statement about all known cells together:
a cleared cell leads to known cells only, and the target is not known (`Walk.Closed`).

* `reaches_passes`: a walk that comes back without the target has kept its path, has only added
  cleared cells, and is closed again. One that meets the target has followed references to it.
* `cleared_of_search`: when the path is empty again the cleared cells are closed on their own.
* `search_eq_ok_iff`: the answer of a search is whether the target can be reached.
-/

namespace FormulaSheet
namespace Walk

/-- The formula of `c` refers to `d`. -/
def Leads (dependencies : Dependencies) (c d : Coord) : Prop :=
  ∃ references, dependencies c = some (.ok references) ∧ d ∈ references

/-- What a walk leaves unchanged while it comes back to where it is: the path stays, and cells are
only added to the cleared ones. -/
structure Grows (walk next : Walk) : Prop where
  path : ∀ c, c ∈ next.path ↔ c ∈ walk.path
  cleared : ∀ c, c ∈ walk.cleared → c ∈ next.cleared

theorem Grows.refl (walk : Walk) : Grows walk walk :=
  ⟨fun _ => Iff.rfl, fun _ h => h⟩

theorem Grows.trans {first second third : Walk} (h : Grows first second)
    (h' : Grows second third) : Grows first third := by
  refine ⟨fun c => ?_, fun c hc => ?_⟩
  · exact (h'.path c).trans (h.path c)
  · exact h'.cleared c (h.cleared c hc)

theorem Grows.known {walk next : Walk} (h : Grows walk next) {c : Coord} (hc : walk.Known c) :
    next.Known c := by
  rcases hc with onPath | cleared
  · exact Or.inl ((h.path c).2 onPath)
  · exact Or.inr (h.cleared c cleared)

theorem grows_clear (walk : Walk) (c : Coord) : Grows walk (walk.clear c) := by
  refine ⟨fun d => mem_path_clear, fun d hd => ?_⟩
  exact mem_cleared_clear.2 (Or.inr hd)

/-- Coming back from below a cell, the path is the one from before the cell was entered. -/
theorem Grows.leave {walk next : Walk} {c : Coord} (h : Grows (walk.enter c) next)
    (fresh : ¬ walk.Known c) : Grows walk (next.leave c) := by
  refine ⟨fun d => ?_, fun d hd => mem_cleared_leave.2 (Or.inr (h.cleared d hd))⟩
  rw [mem_path_leave, h.path d, mem_path_enter]
  constructor
  · rintro ⟨other, eq | old⟩
    · exact absurd eq other
    · exact old
  · intro old
    refine ⟨?_, Or.inr old⟩
    rintro rfl
    exact fresh (Or.inl old)

/-- The invariant of a walk: the target is not known, and no reference leads from a cleared cell to
a cell that is not known. -/
structure Closed (dependencies : Dependencies) (target : Coord) (walk : Walk) : Prop where
  unmet : ¬ walk.Known target
  leads : ∀ c ∈ walk.cleared, ∀ d, Leads dependencies c d → walk.Known d

/-- What it means for a walk to pass a cell without meeting the target. -/
structure Pass (dependencies : Dependencies) (target c : Coord) (walk next : Walk) : Prop where
  grows : Grows walk next
  closed : Closed dependencies target next
  known : next.Known c

/-- An outcome that meets the target shows that one of the references leads to it. -/
def Meets (dependencies : Dependencies) (target : Coord) (references : List Coord)
    (outcome : Outcome) : Prop :=
  outcome.1 = .ok true → ∃ c ∈ references, Relation.ReflTransGen (Leads dependencies) c target

/-- A visit passes the cell it was made to, or stops, with the target only if the cell leads to it. -/
def Passing (dependencies : Dependencies) (target : Coord) (visit : Coord → Walk → Outcome) :
    Prop :=
  ∀ {c : Coord} {walk : Walk}, Closed dependencies target walk →
    Satisfies (Pass dependencies target c walk) (Meets dependencies target [c]) (visit c walk)

variable {dependencies : Dependencies} {target : Coord} {limit : Int}

theorem closed_empty (dependencies : Dependencies) (target : Coord) :
    Closed dependencies target {} := by
  refine ⟨not_known_empty, ?_⟩
  intro c hc
  exact absurd hc Std.TreeSet.not_mem_emptyc

/-- Going below a cell that is not the target keeps a walk closed: the path only gets longer. -/
theorem Closed.enter {walk : Walk} (h : Closed dependencies target walk) {c : Coord}
    (ne : c ≠ target) : Closed dependencies target (walk.enter c) := by
  refine ⟨fun met => ?_, fun d hd e lead => known_enter.2 (Or.inr (h.leads d hd e lead))⟩
  rcases known_enter.1 met with eq | old
  · exact ne eq.symm
  · exact h.unmet old

/-- A cell without a formula leads nowhere, so it may be cleared. -/
theorem pass_clear {walk : Walk} (h : Closed dependencies target walk) {c : Coord}
    (ne : c ≠ target) (blank : dependencies c = none) :
    Pass dependencies target c walk (walk.clear c) := by
  have grows := grows_clear walk c
  refine ⟨grows, ⟨fun met => ?_, fun d hd e lead => ?_⟩, known_clear.2 (Or.inl rfl)⟩
  · rcases known_clear.1 met with eq | old
    · exact ne eq.symm
    · exact h.unmet old
  · rcases mem_cleared_clear.1 hd with rfl | old
    · obtain ⟨references, stored, _⟩ := lead
      rw [blank] at stored
      cases stored
    · exact grows.known (h.leads d old e lead)

/-- A cell may be cleared once everything it leads to is known below it. -/
theorem pass_leave {walk next : Walk} {c : Coord} (ne : c ≠ target) (fresh : ¬ walk.Known c)
    (grows : Grows (walk.enter c) next) (closed : Closed dependencies target next)
    (known : ∀ d, Leads dependencies c d → next.Known d) :
    Pass dependencies target c walk (next.leave c) := by
  refine ⟨grows.leave fresh, ⟨fun met => ?_, fun d hd e lead => ?_⟩, known_leave.2 (Or.inl rfl)⟩
  · rcases known_leave.1 met with eq | old
    · exact ne eq.symm
    · exact closed.unmet old
  · rcases mem_cleared_leave.1 hd with rfl | old
    · exact known_leave.2 (Or.inr (known e lead))
    · exact known_leave.2 (Or.inr (closed.leads d old e lead))

theorem Meets.mono {cs ds : List Coord} {outcome : Outcome}
    (h : Meets dependencies target cs outcome) (sub : cs ⊆ ds) :
    Meets dependencies target ds outcome := by
  intro met
  obtain ⟨c, mem, reach⟩ := h met
  exact ⟨c, sub mem, reach⟩

section Passing

variable {visit further : Coord → Walk → Outcome} {walk : Walk} {c : Coord}

/-- References that are followed one after the other are all passed. -/
theorem follow_passes (h : Passing dependencies target visit) (cs : List Coord)
    (closed : Closed dependencies target walk) :
    Satisfies
      (fun next => Grows walk next ∧ Closed dependencies target next ∧ ∀ c ∈ cs, next.Known c)
      (Meets dependencies target cs) (follow visit cs walk) := by
  induction cs generalizing walk with
  | nil => exact ⟨Grows.refl walk, closed, fun c mem => absurd mem List.not_mem_nil⟩
  | cons c rest ih =>
      have first := (h (c := c) closed).imp (fun _ pass => pass) fun outcome meets =>
        meets.mono (List.cons_subset_cons c (List.nil_subset rest))
      refine follow_cons_satisfies first fun middle pass => ?_
      refine (ih pass.closed).imp ?_ fun outcome meets => meets.mono (List.subset_cons_self c rest)
      rintro next ⟨grows, closed', known⟩
      refine ⟨pass.grows.trans grows, closed', fun d mem => ?_⟩
      rcases List.mem_cons.1 mem with rfl | later
      · exact grows.known pass.known
      · exact known d later

theorem expand_passes (h : Passing dependencies target visit)
    (closed : Closed dependencies target walk) (ne : c ≠ target) (fresh : ¬ walk.Known c) :
    Satisfies (Pass dependencies target c walk) (Meets dependencies target [c])
      (expand dependencies visit c walk) := by
  refine expand_satisfies (pass_clear closed ne) (by rintro fault _ ⟨⟩) fun references stored => ?_
  refine (follow_passes h references (closed.enter ne)).imp ?_ ?_
  · rintro next ⟨grows, closed', known⟩
    refine pass_leave ne fresh grows closed' fun d lead => ?_
    obtain ⟨others, stored', mem⟩ := lead
    rw [stored] at stored'
    cases stored'
    exact known d mem
  · intro outcome meets met
    obtain ⟨d, mem, reach⟩ := meets met
    exact ⟨c, List.mem_singleton_self c, .head ⟨references, stored, mem⟩ reach⟩

theorem arrive_passes (closed : Closed dependencies target walk)
    (h : c ≠ target → ¬ walk.Known c →
      Satisfies (Pass dependencies target c walk) (Meets dependencies target [c])
        (further c walk)) :
    Satisfies (Pass dependencies target c walk) (Meets dependencies target [c])
      (arrive target further c walk) := by
  refine arrive_satisfies (fun eq _ => ?_) (fun _ known => ?_) h
  · exact ⟨c, List.mem_singleton_self c, eq ▸ .refl⟩
  · exact ⟨Grows.refl walk, closed, known⟩

/-- A walk that comes back without the target has passed the cell it started from, and one that meets
the target has followed references to it. -/
theorem reaches_passes (steps : Nat) :
    Passing dependencies target (reaches dependencies limit target steps) := by
  induction steps with
  | zero =>
      intro c walk closed
      refine arrive_passes closed fun _ _ => ?_
      rintro ⟨⟩
  | succ steps ih =>
      intro c walk closed
      exact arrive_passes closed (expand_passes ih closed)

end Passing

/-- The cleared cells lead to nothing but cleared cells once the path is empty. -/
theorem cleared_of_reachable {next : Walk} (closed : Closed dependencies target next)
    (empty : ∀ c, c ∉ next.path) {c d : Coord} (hc : c ∈ next.cleared)
    (reach : Relation.ReflTransGen (Leads dependencies) c d) : d ∈ next.cleared := by
  induction reach with
  | refl => exact hc
  | tail _ lead ih =>
      rcases closed.leads _ ih _ lead with onPath | cleared
      · exact absurd onPath (empty _)
      · exact cleared

theorem search_passes (dependencies : Dependencies) (limit : Int) (target : Coord)
    (references : List Coord) :
    Satisfies
      (fun next => Grows {} next ∧ Closed dependencies target next ∧
        ∀ c ∈ references, next.Known c)
      (Meets dependencies target references) (search dependencies limit target references) :=
  follow_passes (reaches_passes limit.toNat) references (closed_empty dependencies target)

/-- A search that ends without the target has cleared everything that the references lead to. -/
theorem cleared_of_search {references : List Coord} {next : Walk}
    (eq : search dependencies limit target references = (.ok false, next)) :
    target ∉ next.cleared ∧ ∀ c ∈ references, ∀ d,
      Relation.ReflTransGen (Leads dependencies) c d → d ∈ next.cleared := by
  have ended := search_passes dependencies limit target references
  rw [eq] at ended
  obtain ⟨grows, closed, known⟩ := ended
  -- The path was empty and has been kept, so all references are cleared in the end.
  have empty : ∀ c, c ∉ next.path := by
    intro c hc
    exact Std.TreeSet.not_mem_emptyc ((grows.path c).1 hc)
  refine ⟨fun cleared => closed.unmet (Or.inr cleared), fun c mem d reach => ?_⟩
  rcases known c mem with onPath | cleared
  · exact absurd onPath (empty c)
  · exact cleared_of_reachable closed empty cleared reach

/-- The answer of a search is whether the target can be reached from one of the references. -/
theorem search_eq_ok_iff {references : List Coord} {met : Bool} {next : Walk}
    (eq : search dependencies limit target references = (.ok met, next)) :
    met = true ↔ ∃ c ∈ references, Relation.ReflTransGen (Leads dependencies) c target := by
  cases met with
  | true =>
      have ended := search_passes dependencies limit target references
      rw [eq] at ended
      exact ⟨fun _ => ended rfl, fun _ => rfl⟩
  | false =>
      obtain ⟨unmet, cleared⟩ := cleared_of_search eq
      refine ⟨fun impossible => Bool.noConfusion impossible, ?_⟩
      rintro ⟨c, mem, reach⟩
      exact absurd (cleared c mem target reach) unmet

end Walk
end FormulaSheet
