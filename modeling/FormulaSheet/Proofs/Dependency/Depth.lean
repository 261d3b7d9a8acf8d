import FormulaSheet.Proofs.Dependency.Cycle
import Mathlib.Data.List.Nodup
import Mathlib.Data.List.Perm.Subperm

/-!
# How long the chains of a search are

The path of a walk is a chain of references without repetition, and a walk goes on only while this
chain is within the limit. So a failure at the limit shows a chain that is longer. The converse does
not hold. A cell counts with the chain that led to it first, and is not entered again from a longer
one: what is bounded is the distance of a cell from the formula, and not the length of every chain.

* `search_satisfies` says what holds of a search, however it ends.
* `exists_chain_of_wouldCycle`: a failure at the limit comes with a chain of one cell more, all of
  them different, so it needs as many cells with formulas as the limit says.
* `length_le_or_shorter_of_wouldCycle`: a formula is let through although a chain is longer than the
  limit only if a shorter chain, within the limit, ends at the same cell.
* `wouldCycle_forwarding` is such a formula. With its references the other way round it fails.
-/

namespace FormulaSheet
namespace Walk

/-! ### Chains of references -/

section Chains

variable {dependencies : Dependencies} {references cells : List Coord} {target c d : Coord}

/-- A chain of references: its first cell is one of those listed, and each cell refers to the next
one. -/
structure Linked (dependencies : Dependencies) (references cells : List Coord) : Prop where
  head : ∀ c ∈ cells.head?, c ∈ references
  leads : cells.IsChain (Leads dependencies)

/-- A chain of references that comes to no cell twice and not to the target. -/
structure Trail (dependencies : Dependencies) (target : Coord) (references cells : List Coord) :
    Prop extends Linked dependencies references cells where
  nodup : cells.Nodup
  unmet : target ∉ cells

theorem linked_single (mem : c ∈ references) : Linked dependencies references [c] := by
  refine ⟨?_, List.isChain_singleton c⟩
  rintro _ ⟨⟩
  exact mem

theorem Linked.concat (h : Linked dependencies references (cells ++ [c]))
    (lead : Leads dependencies c d) : Linked dependencies references (cells ++ [c] ++ [d]) := by
  refine ⟨?_, List.isChain_append.2 ⟨h.leads, List.isChain_singleton d, ?_⟩⟩
  · intro first mem
    refine h.head first ?_
    rwa [List.head?_append_of_ne_nil _ (by simp)] at mem
  · rintro last hlast _ ⟨⟩
    rw [List.getLast?_concat] at hlast
    cases hlast
    exact lead

theorem trail_nil (dependencies : Dependencies) (target : Coord) (references : List Coord) :
    Trail dependencies target references [] :=
  { head := by rintro _ ⟨⟩
    leads := List.isChain_nil
    nodup := List.nodup_nil
    unmet := List.not_mem_nil }

theorem Trail.concat (h : Trail dependencies target references cells)
    (linked : Linked dependencies references (cells ++ [c])) (ne : c ≠ target) (new : c ∉ cells) :
    Trail dependencies target references (cells ++ [c]) := by
  refine ⟨linked, List.nodup_append.2 ⟨h.nodup, List.nodup_singleton c, ?_⟩, ?_⟩
  · rintro a mem b hb rfl
    exact new (List.mem_singleton.1 hb ▸ mem)
  · intro mem
    rcases List.mem_append.1 mem with front | last
    · exact h.unmet front
    · exact ne (List.mem_singleton.1 last).symm

/-- A cell to which a chain of at most `bound` cells leads. -/
def Within (dependencies : Dependencies) (target : Coord) (references : List Coord) (bound : Nat)
    (c : Coord) : Prop :=
  ∃ cells, Trail dependencies target references cells ∧ cells.getLast? = some c ∧
    cells.length ≤ bound

/-- The invariant of a walk below `cells`: these are its path, and the cleared cells are within the
bound. -/
structure Below (dependencies : Dependencies) (target : Coord) (references : List Coord)
    (bound : Nat) (cells : List Coord) (walk : Walk) : Prop where
  trail : Trail dependencies target references cells
  path : ∀ c, c ∈ walk.path ↔ c ∈ cells
  cleared : ∀ c ∈ walk.cleared, Within dependencies target references bound c

/-- If an outcome is a failure at the limit, it comes with a chain that is longer than the bound. -/
def ShowsLonger (dependencies : Dependencies) (target : Coord) (references : List Coord)
    (bound : Nat) (limit : Int) (outcome : Outcome) : Prop :=
  ∀ failure, outcome.1 = .error failure → failure.category = .depth →
    ∃ cells c, Trail dependencies target references cells ∧ cells.getLast? = some c ∧
      cells.length = bound + 1 ∧ failure = .longChain limit c

variable {bound : Nat} {limit : Int} {walk : Walk}

theorem Below.not_mem (h : Below dependencies target references bound cells walk)
    (fresh : ¬ walk.Known c) : c ∉ cells :=
  fun mem => fresh (Or.inl ((h.path c).2 mem))

theorem Below.enter (h : Below dependencies target references bound cells walk)
    (linked : Linked dependencies references (cells ++ [c])) (ne : c ≠ target)
    (fresh : ¬ walk.Known c) :
    Below dependencies target references bound (cells ++ [c]) (walk.enter c) := by
  refine ⟨h.trail.concat linked ne (h.not_mem fresh), fun d => ?_, h.cleared⟩
  rw [mem_path_enter, h.path d, List.mem_append, List.mem_singleton, or_comm]

/-- A cell may be cleared if its chain is within the bound. -/
theorem Below.clear (h : Below dependencies target references bound cells walk)
    (trail : Trail dependencies target references (cells ++ [c])) (le : cells.length < bound) :
    Below dependencies target references bound cells (walk.clear c) := by
  refine ⟨h.trail, fun d => mem_path_clear.trans (h.path d), fun d mem => ?_⟩
  rcases mem_cleared_clear.1 mem with rfl | old
  · exact ⟨_, trail, List.getLast?_concat, by simp; omega⟩
  · exact h.cleared d old

theorem Below.leave (h : Below dependencies target references bound (cells ++ [c]) walk)
    (front : Trail dependencies target references cells) (le : cells.length < bound) :
    Below dependencies target references bound cells (walk.leave c) := by
  have new : c ∉ cells := fun mem =>
    (List.nodup_append.1 h.trail.nodup).2.2 c mem c (List.mem_singleton_self c) rfl
  refine ⟨front, fun d => ?_, fun d mem => ?_⟩
  · rw [mem_path_leave, h.path d, List.mem_append, List.mem_singleton]
    constructor
    · rintro ⟨other, old | eq⟩
      · exact old
      · exact absurd eq other
    · intro mem
      exact ⟨fun eq => new (eq ▸ mem), Or.inl mem⟩
  · rcases mem_cleared_leave.1 mem with rfl | old
    · exact ⟨_, h.trail, List.getLast?_concat, by simp; omega⟩
    · exact h.cleared d old

/-- A walk with no step left fails at the cell that it comes to, unless it does not enter it. -/
theorem reaches_zero_satisfies (h : Below dependencies target references bound cells walk)
    (linked : Linked dependencies references (cells ++ [c])) (length : cells.length = bound) :
    Satisfies (Below dependencies target references bound cells)
      (ShowsLonger dependencies target references bound limit)
      (reaches dependencies limit target 0 c walk) := by
  refine arrive_satisfies (by rintro _ _ ⟨⟩) (fun _ _ => h) fun ne fresh => ?_
  rintro failure ⟨⟩ -
  exact ⟨cells ++ [c], c, h.trail.concat linked ne (h.not_mem fresh), List.getLast?_concat,
    by simp [length], rfl⟩

/-- A walk keeps the invariant if it comes back, and shows a longer chain if it fails at the limit. -/
theorem reaches_satisfies (steps : Nat) (h : Below dependencies target references bound cells walk)
    (linked : Linked dependencies references (cells ++ [c]))
    (length : cells.length + steps = bound) :
    Satisfies (Below dependencies target references bound cells)
      (ShowsLonger dependencies target references bound limit)
      (reaches dependencies limit target steps c walk) := by
  induction steps generalizing cells walk c with
  | zero => exact reaches_zero_satisfies h linked length
  | succ steps ih =>
      refine arrive_satisfies (by rintro _ _ ⟨⟩) (fun _ _ => h) fun ne fresh => ?_
      have entered := h.enter linked ne fresh
      refine expand_satisfies (fun _ => h.clear entered.trail (by omega)) ?_ ?_
      · -- A row number beyond the limit is a failure of another category.
        rintro fault _ _ ⟨⟩ ⟨⟩
      · intro others stored
        have under : Satisfies (Below dependencies target references bound (cells ++ [c]))
            (ShowsLonger dependencies target references bound limit)
            (follow (reaches dependencies limit target steps) others (walk.enter c)) := by
          refine follow_satisfies (fun d mem next below => ?_) entered
          exact ih below (linked.concat ⟨others, stored, mem⟩) (by simp; omega)
        exact under.imp (fun next below => below.leave h.trail (by omega)) fun _ longer => longer

theorem below_empty (dependencies : Dependencies) (target : Coord) (references : List Coord)
    (bound : Nat) : Below dependencies target references bound [] {} := by
  refine ⟨trail_nil dependencies target references, fun c => ?_, fun c mem => ?_⟩
  · exact iff_of_false Std.TreeSet.not_mem_emptyc List.not_mem_nil
  · exact absurd mem Std.TreeSet.not_mem_emptyc

/-- A search that comes back has only cleared cells within the limit, and one that fails at the limit
shows a longer chain. -/
theorem search_satisfies (dependencies : Dependencies) (limit : Int) (target : Coord)
    (references : List Coord) :
    Satisfies (Below dependencies target references limit.toNat [])
      (ShowsLonger dependencies target references limit.toNat limit)
      (search dependencies limit target references) := by
  refine follow_satisfies (fun c mem walk below => ?_) (below_empty ..)
  exact reaches_satisfies limit.toNat below (linked_single mem) (Nat.zero_add _)

/-- All that the references of a search without the target lead to is within the limit. -/
theorem within_of_search {next : Walk}
    (eq : search dependencies limit target references = (.ok false, next)) (mem : c ∈ references)
    (reach : Relation.ReflTransGen (Leads dependencies) c d) :
    Within dependencies target references limit.toNat d := by
  have below := search_satisfies dependencies limit target references
  rw [eq] at below
  exact below.cleared d ((cleared_of_search eq).2 c mem d reach)

end Chains

end Walk

namespace Sheet

variable {sheet : Sheet} {text : String} {references cells : List Coord} {c : Coord}

/-- The cells of a sheet that hold a formula. An empty one counts as none. -/
def formulaCells (sheet : Sheet) : List Coord :=
  (sheet.toList.filter fun entry => entry.2.formula.any (· ≠ "")).map Prod.fst

theorem mem_formulaCells :
    c ∈ sheet.formulaCells ↔ ∃ formula, (sheet.get c).formula = some formula ∧ formula ≠ "" := by
  simp only [formulaCells, List.mem_map, List.mem_filter, Option.any_eq_true, decide_eq_true_eq]
  constructor
  · rintro ⟨⟨d, cell⟩, ⟨listed, formula, eq, ne⟩, rfl⟩
    have stored : sheet.cells[d]? = some cell :=
      Std.TreeMap.mem_toList_iff_getElem?_eq_some.1 listed
    refine ⟨formula, ?_, ne⟩
    rw [get, stored]
    exact eq
  · rintro ⟨formula, eq, ne⟩
    cases stored : sheet.cells[c]? with
    | none =>
        rw [get, stored] at eq
        cases eq
    | some cell =>
        rw [get, stored] at eq
        have listed : (c, cell) ∈ sheet.toList :=
          Std.TreeMap.mem_toList_iff_getElem?_eq_some.2 stored
        exact ⟨(c, cell), ⟨listed, formula, eq, ne⟩, rfl⟩

/-- A cell that refers to another one holds a formula. -/
theorem DependsOn.mem_formulaCells {d : Coord} (h : sheet.DependsOn c d) :
    c ∈ sheet.formulaCells := by
  obtain ⟨formula, stored, mentions⟩ := h
  refine Sheet.mem_formulaCells.2 ⟨formula, stored, ?_⟩
  rintro rfl
  exact not_mentions_empty _ _ mentions

/-- All cells of a chain but the last one hold formulas. -/
theorem mem_formulaCells_of_mem_dropLast (chain : cells.IsChain sheet.DependsOn)
    (mem : c ∈ cells.dropLast) : c ∈ sheet.formulaCells := by
  induction chain with
  | nil => cases mem
  | singleton d => cases mem
  | @cons_cons d e rest first _ ih =>
      rw [List.dropLast_cons_cons, List.mem_cons] at mem
      rcases mem with rfl | later
      · exact DependsOn.mem_formulaCells first
      · exact ih later

theorem chain_of_linked (scanned : scanReferences text sheet.bounds = .ok references)
    (linked : Walk.Linked sheet.dependencies references cells) :
    sheet.Chain (some sheet.bounds) text cells :=
  ⟨fun c mem => ⟨references, scanned, linked.head c mem⟩,
    linked.leads.imp fun _ _ => leads_iff.1⟩

/-- A chain of references, from a text that is entered at `c`, of one cell more than the limit. -/
structure Overlong (sheet : Sheet) (text : String) (c : Coord) (limit : Int) (cells : List Coord) :
    Prop where
  chain : sheet.Chain (some sheet.bounds) text cells
  nodup : cells.Nodup
  unmet : c ∉ cells
  length : cells.length = limit.toNat + 1
  formulas : ∀ d ∈ cells.dropLast, d ∈ sheet.formulaCells

/-- There are as many cells with formulas as the limit says if a chain is longer. -/
theorem Overlong.le_formulaCells {limit : Int} (h : sheet.Overlong text c limit cells) :
    limit.toNat ≤ sheet.formulaCells.length := by
  have few : cells.dropLast.length ≤ sheet.formulaCells.length :=
    ((h.nodup.sublist cells.dropLast_sublist).subperm h.formulas).length_le
  rw [List.length_dropLast, h.length] at few
  omega

end Sheet

namespace Engine

variable {σ : Type} (engine : Engine σ) {sheet : Sheet} {text : String} {c : Coord}

theorem exists_overlong_of_wouldCycle {failure : Failure}
    (h : engine.wouldCycle sheet text c = .error failure) (depth : failure.category = .depth) :
    ∃ cells last, sheet.Overlong text c engine.limits.dependencyDepth cells ∧
      cells.getLast? = some last ∧
      failure = .longChain engine.limits.dependencyDepth last := by
  unfold wouldCycle dependencyWalk at h
  split at h
  · cases h
    cases depth
  · next references scanned =>
    have ended :=
      Walk.search_satisfies sheet.dependencies engine.limits.dependencyDepth c references
    generalize Walk.search sheet.dependencies _ c references = outcome at h ended
    rcases outcome with ⟨_, walk⟩
    cases h
    obtain ⟨cells, last, trail, ends, length, rfl⟩ := ended failure rfl depth
    have chain := Sheet.chain_of_linked scanned trail.toLinked
    refine ⟨cells, last, ⟨chain, trail.nodup, trail.unmet, length, fun d mem => ?_⟩, ends, rfl⟩
    exact Sheet.mem_formulaCells_of_mem_dropLast chain.refers mem

end Engine

/-- A row of four cells, of which the second one refers to the third one. -/
def Sheet.forwarding : Sheet :=
  Sheet.put ⟨1, 4, Int.one_pos, by decide, ∅, fun _ mem => absurd mem Std.TreeMap.not_mem_emptyc⟩
    ⟨0, 1⟩ { value := "0", formula := some "=C1" } (by decide)

/-- A formula that mentions the third cell itself, and the second one, which refers to the third. -/
theorem Sheet.chain_forwarding :
    Sheet.forwarding.Chain (some Sheet.forwarding.bounds) "=C1+B1" [⟨0, 1⟩, ⟨0, 2⟩] := by
  refine ⟨?_, List.isChain_pair.2 ⟨"=C1", by decide +kernel, [⟨0, 2⟩], ?_, ?_⟩⟩
  · rintro _ ⟨⟩
    exact ⟨[⟨0, 2⟩, ⟨0, 1⟩], by decide +kernel, by decide⟩
  · decide +kernel
  · decide

/-- An engine that allows chains of one cell only. -/
def Engine.shallow : Engine Unit :=
  { Engine.plain with limits := { dependencyDepth := 1 } }

namespace Engine

variable {σ : Type} (engine : Engine σ) {sheet : Sheet} {text : String} {c : Coord}

/-- A failure at the limit comes with a chain of one cell more than the limit allows. The cells are
all different, the target is not among them, and all but the last one hold formulas. So there is no
such failure if the limit is larger than the number of cells with formulas. -/
theorem exists_chain_of_wouldCycle (sheet : Sheet) (text : String) (c : Coord) :
    (∀ failure, engine.wouldCycle sheet text c = .error failure → failure.category = .depth →
      ∃ cells last, sheet.Overlong text c engine.limits.dependencyDepth cells ∧
        cells.getLast? = some last ∧
        failure = .longChain engine.limits.dependencyDepth last) ∧
    ((sheet.formulaCells.length : Int) + 1 ≤ engine.limits.dependencyDepth →
      ∀ failure, engine.wouldCycle sheet text c = .error failure → failure.category ≠ .depth) := by
  refine ⟨fun failure h depth => engine.exists_overlong_of_wouldCycle h depth, ?_⟩
  intro enough failure h depth
  obtain ⟨cells, last, overlong, _⟩ := engine.exists_overlong_of_wouldCycle h depth
  have few := overlong.le_formulaCells
  omega

/-- The chain from the second cell to the third one is longer than one cell, and a sheet with one
formula is searched to its end with any limit from two on. -/
theorem exists_chain_of_wouldCycle_forwarding :
    shallow.wouldCycle Sheet.forwarding "=B1+C1" ⟨0, 0⟩ = .error (.longChain 1 ⟨0, 2⟩) ∧
      (∃ cells last, Sheet.forwarding.Overlong "=B1+C1" ⟨0, 0⟩ 1 cells ∧
        cells.getLast? = some last ∧ Failure.longChain 1 ⟨0, 2⟩ = .longChain 1 last) ∧
      (Sheet.forwarding.formulaCells.length : Int) + 1 ≤ plain.limits.dependencyDepth ∧
      ∀ failure, plain.wouldCycle Sheet.forwarding "=B1+C1" ⟨0, 0⟩ = .error failure →
        failure.category ≠ .depth := by
  have fails : shallow.wouldCycle Sheet.forwarding "=B1+C1" ⟨0, 0⟩ =
      .error (.longChain 1 ⟨0, 2⟩) := by
    decide +kernel
  have enough : (Sheet.forwarding.formulaCells.length : Int) + 1 ≤
      plain.limits.dependencyDepth := by
    decide +kernel
  exact ⟨fails, (shallow.exists_chain_of_wouldCycle Sheet.forwarding _ _).1 _ fails rfl, enough,
    (plain.exists_chain_of_wouldCycle Sheet.forwarding _ _).2 enough⟩

/-- A formula that is found not to lead to its cell has no chain beyond the limit, except for chains to
cells at which a shorter chain ends that is within the limit. -/
theorem length_le_or_shorter_of_wouldCycle (h : engine.wouldCycle sheet text c = .ok false)
    {cells : List Coord} (chain : sheet.Chain (some sheet.bounds) text cells) (ne : cells ≠ []) :
    (cells.length : Int) ≤ engine.limits.dependencyDepth ∨
      ∃ others, sheet.Chain (some sheet.bounds) text others ∧ others.Nodup ∧
        others.getLast? = cells.getLast? ∧ others.length < cells.length ∧
        (others.length : Int) ≤ engine.limits.dependencyDepth := by
  have last := List.getLast?_eq_some_getLast ne
  obtain ⟨first, ⟨references, scanned, mem⟩, reach⟩ :=
    Sheet.exists_chain_iff.1 ⟨cells, chain, last⟩
  have leads := Relation.ReflTransGen.mono (fun _ _ => Sheet.leads_iff.2) _ _ reach
  unfold wouldCycle dependencyWalk at h
  rw [scanned] at h
  obtain ⟨others, trail, ends, le⟩ := Walk.within_of_search (Prod.ext h rfl) mem leads
  have nonempty : others ≠ [] := by
    rintro rfl
    cases ends
  have positive := List.length_pos_iff.2 nonempty
  by_cases short : (cells.length : Int) ≤ engine.limits.dependencyDepth
  · exact Or.inl short
  · exact Or.inr ⟨others, Sheet.chain_of_linked scanned trail.toLinked, trail.nodup,
      ends.trans last.symm, by omega, by omega⟩

/-- The chain through the second cell is beyond the limit, and the one straight to the third cell is
within it. -/
theorem length_le_or_shorter_of_wouldCycle_forwarding :
    shallow.wouldCycle Sheet.forwarding "=C1+B1" ⟨0, 0⟩ = .ok false ∧
      ∃ others, Sheet.forwarding.Chain (some Sheet.forwarding.bounds) "=C1+B1" others ∧
        others.Nodup ∧ others.getLast? = some ⟨0, 2⟩ ∧ others.length < 2 ∧
        (others.length : Int) ≤ 1 := by
  have verdict : shallow.wouldCycle Sheet.forwarding "=C1+B1" ⟨0, 0⟩ = .ok false := by
    decide +kernel
  have either := shallow.length_le_or_shorter_of_wouldCycle verdict Sheet.chain_forwarding
    (by decide)
  exact ⟨verdict, either.resolve_left (by decide)⟩

/-- A chain beyond the limit is not found if the formula mentions the end of the chain first. It is
found if the formula mentions the same cells the other way round. -/
theorem wouldCycle_forwarding :
    (⟨0, 0⟩ : Coord).IsInside Sheet.forwarding.rows Sheet.forwarding.cols ∧
      shallow.wouldCycle Sheet.forwarding "=C1+B1" ⟨0, 0⟩ = .ok false ∧
      ¬ (∀ cells, Sheet.forwarding.Chain (some Sheet.forwarding.bounds) "=C1+B1" cells →
        cells.Nodup → (cells.length : Int) ≤ shallow.limits.dependencyDepth) ∧
      shallow.wouldCycle Sheet.forwarding "=B1+C1" ⟨0, 0⟩ = .error (.longChain 1 ⟨0, 2⟩) := by
  refine ⟨by decide, by decide +kernel, fun bounded => ?_, by decide +kernel⟩
  exact absurd (bounded _ Sheet.chain_forwarding (by decide)) (by decide)

end Engine

end FormulaSheet
