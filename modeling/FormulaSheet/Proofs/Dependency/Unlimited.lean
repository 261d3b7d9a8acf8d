import FormulaSheet.Proofs.Dependency.Record

/-!
# Searches without a limit

`Walk.Explores` is the walk along references without a limit, given by its rules. A walk that does not end
has no outcome by these rules, so it is something to be shown that there is one, whether references lead
in circles or not.

* `Explores.unique`: there is at most one outcome.
* `Walk.search_explores`: a search with a limit has this outcome, unless it is cut short at the limit.
* `Engine.dependencyWalk_searches_of_lt`: a search with a limit larger than the number of formulas is not
  cut short, as it reads each formula at most once.
* `Engine.searches_readsOnce`: so there is always an outcome.
-/

namespace FormulaSheet
namespace Walk

/-- The outcome of following references, each to its end before the next one, for as long as it takes. -/
inductive Explores (dependencies : Dependencies) (target : Coord) :
    List Coord → Walk → Outcome → Prop
  | done {walk : Walk} : Explores dependencies target [] walk (.ok false, walk)
  | met {rest : List Coord} {walk : Walk} :
      Explores dependencies target (target :: rest) walk (.ok true, walk)
  | known {c : Coord} {rest : List Coord} {walk : Walk} {outcome : Outcome} (ne : c ≠ target)
      (known : walk.Known c) (later : Explores dependencies target rest walk outcome) :
      Explores dependencies target (c :: rest) walk outcome
  | blank {c : Coord} {rest : List Coord} {walk : Walk} {outcome : Outcome} (ne : c ≠ target)
      (fresh : ¬ walk.Known c) (absent : dependencies c = none)
      (later : Explores dependencies target rest (walk.clear c) outcome) :
      Explores dependencies target (c :: rest) walk outcome
  | fault {c : Coord} {rest : List Coord} {walk : Walk} {fault : Number.IntegerFault}
      (ne : c ≠ target) (fresh : ¬ walk.Known c) (stored : dependencies c = some (.error fault)) :
      Explores dependencies target (c :: rest) walk (.error (.integer fault), walk.enter c)
  | back {c : Coord} {references rest : List Coord} {walk next : Walk} {outcome : Outcome}
      (ne : c ≠ target) (fresh : ¬ walk.Known c) (stored : dependencies c = some (.ok references))
      (below : Explores dependencies target references (walk.enter c) (.ok false, next))
      (later : Explores dependencies target rest (next.leave c) outcome) :
      Explores dependencies target (c :: rest) walk outcome
  /-- The references that were still to be followed are left out when a walk stops below a cell. -/
  | stopped {c : Coord} {references rest : List Coord} {walk : Walk} {outcome : Outcome}
      (ne : c ≠ target) (fresh : ¬ walk.Known c) (stored : dependencies c = some (.ok references))
      (below : Explores dependencies target references (walk.enter c) outcome)
      (stop : ∀ next, outcome ≠ (.ok false, next)) :
      Explores dependencies target (c :: rest) walk outcome

variable {dependencies : Dependencies} {limit : Int} {target : Coord}

/-- The rules leave no choice. -/
theorem Explores.unique {cs : List Coord} {walk : Walk} {outcome other : Outcome}
    (h : Explores dependencies target cs walk outcome)
    (h' : Explores dependencies target cs walk other) : other = outcome := by
  induction h generalizing other with
  | done =>
      cases h'
      rfl
  | met =>
      cases h' with
      | met => rfl
      | _ => contradiction
  | known _ _ _ ih =>
      cases h' with
      | known _ _ later => exact ih later
      | _ => contradiction
  | blank _ _ absent _ ih =>
      cases h' with
      | blank _ _ _ later => exact ih later
      | _ => simp_all
  | fault _ _ stored =>
      cases h' with
      | fault _ _ stored' =>
          cases stored.symm.trans stored'
          rfl
      | _ => simp_all
  | back _ _ stored _ _ below later =>
      cases h' with
      | back _ _ stored' below' later' =>
          cases stored.symm.trans stored'
          cases below below'
          exact later later'
      | stopped _ _ stored' below' stop =>
          cases stored.symm.trans stored'
          exact absurd (below below') (stop _)
      | _ => simp_all
  | stopped _ _ stored _ stop ih =>
      cases h' with
      | back _ _ stored' below' _ =>
          cases stored.symm.trans stored'
          exact absurd (ih below').symm (stop _)
      | stopped _ _ stored' below' _ =>
          cases stored.symm.trans stored'
          exact ih below'
      | _ => simp_all

/-- An outcome that was cut short at the limit. -/
def IsCut (limit : Int) (outcome : Outcome) : Prop :=
  ∃ failure, outcome.1 = .error failure ∧ Exceeds limit failure

/-- What a visit to `c` may come to: it comes back to where the walk without a limit goes on, or it stops
as that walk does. -/
abbrev VisitsFreely (dependencies : Dependencies) (limit : Int) (target c : Coord) (walk : Walk) :
    Outcome → Prop :=
  Satisfies
    (fun next => ∀ rest outcome, Explores dependencies target rest next outcome →
      Explores dependencies target (c :: rest) walk outcome)
    (fun outcome => IsCut limit outcome ∨
      ∀ rest, Explores dependencies target (c :: rest) walk outcome)

section Visits

variable {visit : Coord → Walk → Outcome}
  (h : ∀ c walk, VisitsFreely dependencies limit target c walk (visit c walk))
include h

theorem follow_explores (cs : List Coord) (walk : Walk) :
    Satisfies (fun next => Explores dependencies target cs walk (.ok false, next))
      (fun outcome => IsCut limit outcome ∨ Explores dependencies target cs walk outcome)
      (follow visit cs walk) := by
  induction cs generalizing walk with
  | nil => exact Explores.done
  | cons c rest ih =>
      have first := (h c walk).imp (fun _ goesOn => goesOn) fun _ ended =>
        ended.imp_right fun every => every rest
      refine follow_cons_satisfies first fun next goesOn => ?_
      exact (ih next).imp (fun _ => goesOn rest _) fun _ ended => ended.imp_right (goesOn rest _)

theorem expand_visitsFreely {c : Coord} {walk : Walk} (ne : c ≠ target) (fresh : ¬ walk.Known c) :
    VisitsFreely dependencies limit target c walk (expand dependencies visit c walk) := by
  refine expand_satisfies (fun absent _ _ => Explores.blank ne fresh absent)
    (fun _ stored => Or.inr fun _ => Explores.fault ne fresh stored) fun references stored => ?_
  refine (follow_explores h references (walk.enter c)).stops.imp ?_ ?_
  · intro next below rest outcome later
    exact Explores.back ne fresh stored below later
  · rintro outcome ⟨stop, ended⟩
    exact ended.imp_right fun below rest => Explores.stopped ne fresh stored below stop

end Visits

theorem arrive_visitsFreely {further : Coord → Walk → Outcome} {c : Coord} {walk : Walk}
    (h : c ≠ target → ¬ walk.Known c →
      VisitsFreely dependencies limit target c walk (further c walk)) :
    VisitsFreely dependencies limit target c walk (arrive target further c walk) := by
  refine arrive_satisfies ?_ (fun ne old _ _ => Explores.known ne old) h
  rintro rfl
  exact Or.inr fun _ => Explores.met

/-- A walk with a number of steps left does what the walk without a limit does, or it is cut short. -/
theorem reaches_visitsFreely (steps : Nat) (c : Coord) (walk : Walk) :
    VisitsFreely dependencies limit target c walk
      (reaches dependencies limit target steps c walk) := by
  induction steps generalizing c walk with
  | zero => exact arrive_visitsFreely fun _ _ => Or.inl ⟨_, rfl, c, rfl⟩
  | succ steps ih => exact arrive_visitsFreely (expand_visitsFreely ih)

/-- A search with a limit is one without, unless it is cut short. -/
theorem search_explores (dependencies : Dependencies) (limit : Int) (target : Coord)
    (references : List Coord) :
    IsCut limit (search dependencies limit target references) ∨
      Explores dependencies target references {} (search dependencies limit target references) := by
  refine Satisfies.elim (fun outcome =>
    IsCut limit outcome ∨ Explores dependencies target references {} outcome) ?_
  refine (follow_explores (reaches_visitsFreely limit.toNat) references {}).imp ?_ ?_
  · exact fun _ => Or.inr
  · exact fun _ either => either

end Walk

/-- The outcome of a search without a limit, from a text that is to be stored in the cell `c`. -/
inductive Sheet.Searches (sheet : Sheet) (text : String) (c : Coord) : Walk.Outcome → Prop
  | fault {fault : Number.IntegerFault}
      (scanned : scanReferences text sheet.bounds = .error fault) :
      Sheet.Searches sheet text c (.error (.integer fault), {})
  | explores {references : List Coord} {outcome : Walk.Outcome}
      (scanned : scanReferences text sheet.bounds = .ok references)
      (explores : Walk.Explores sheet.dependencies c references {} outcome) :
      Sheet.Searches sheet text c outcome

theorem Sheet.Searches.unique {sheet : Sheet} {text : String} {c : Coord}
    {outcome other : Walk.Outcome} (h : sheet.Searches text c outcome)
    (h' : sheet.Searches text c other) : other = outcome := by
  cases h with
  | fault scanned =>
      cases h' with
      | fault scanned' => simp_all
      | explores scanned' => simp_all
  | explores scanned first =>
      cases h' with
      | fault scanned' => simp_all
      | explores scanned' second =>
          cases scanned.symm.trans scanned'
          exact first.unique second

namespace Engine

variable {σ : Type} (engine : Engine σ)

theorem dependencyWalk_searches (sheet : Sheet) (text : String) (c : Coord) :
    Walk.IsCut engine.limits.dependencyDepth (engine.dependencyWalk sheet text c) ∨
      sheet.Searches text c (engine.dependencyWalk sheet text c) := by
  rw [dependencyWalk]
  split
  · next fault scanned => exact Or.inr (Sheet.Searches.fault scanned)
  · next references scanned =>
    exact (Walk.search_explores ..).imp_right fun explores => Sheet.Searches.explores scanned explores

/-- A search is not cut short at a limit that is larger than the number of formulas. -/
theorem dependencyWalk_searches_of_lt {sheet : Sheet}
    (enough : (sheet.formulaCells.length : Int) < engine.limits.dependencyDepth) (text : String)
    (c : Coord) : sheet.Searches text c (engine.dependencyWalk sheet text c) := by
  refine (engine.dependencyWalk_searches sheet text c).resolve_left ?_
  rintro ⟨failure, failed, exceeds⟩
  have few := engine.dependencyDepth_le_of_exceeds failed exceeds
  omega

/-- One search reads the formula of each cell at most once and the one of its own cell never, whether
it gives an answer or fails. A walk that comes back without the target, from wherever it was made, has
left its path as it was and has only added cleared cells. So the search ends without a limit, too: it
has exactly one outcome, which is also the one under a limit that does not cut it short. -/
theorem searches_readsOnce (sheet : Sheet) (text : String) (c : Coord) :
    sheet.ReadsOnce text c (engine.dependencyWalk sheet text c) ∧
      (∀ steps d walk next,
        Walk.reaches sheet.dependencies engine.limits.dependencyDepth c steps d walk =
          (.ok false, next) → Walk.Grows walk next) ∧
      ∃ outcome, (∀ other, sheet.Searches text c other ↔ other = outcome) ∧
        sheet.ReadsOnce text c outcome ∧
        RunAgreesUnless (Walk.Exceeds engine.limits.dependencyDepth)
          (engine.dependencyWalk sheet text c) outcome := by
  let wide := engine.under { engine.limits with dependencyDepth := sheet.formulaCells.length + 1 }
  have ends := wide.dependencyWalk_searches_of_lt (Int.lt_succ _) text c
  refine ⟨engine.readsOnce sheet text c, fun _ _ _ _ => Walk.grows_of_reaches,
    wide.dependencyWalk sheet text c, fun other => ⟨ends.unique, ?_⟩,
    wide.readsOnce sheet text c, ?_⟩
  · rintro rfl
    exact ends
  · exact (engine.dependencyWalk_searches sheet text c).imp_right ends.unique

end Engine

/-- A row of four cells, of which the second one and the third one refer to each other. -/
def Sheet.circling : Sheet :=
  Sheet.forwarding.put ⟨0, 2⟩ { value := "0", formula := some "=B1" } (by decide)

/-- A search that starts in a circle which does not lead to its cell goes around it once. -/
theorem Engine.searches_readsOnce_circling :
    (plain.dependencyWalk Sheet.circling "=B1" ⟨0, 0⟩).2.scanned = [⟨0, 2⟩, ⟨0, 1⟩] ∧
      Sheet.circling.ReadsOnce "=B1" ⟨0, 0⟩ (plain.dependencyWalk Sheet.circling "=B1" ⟨0, 0⟩) ∧
      (∃ next, Walk.reaches Sheet.circling.dependencies plain.limits.dependencyDepth ⟨0, 0⟩ 2 ⟨0, 1⟩
          {} = (.ok false, next) ∧ Walk.Grows {} next) ∧
      ∀ other, Sheet.circling.Searches "=B1" ⟨0, 0⟩ other ↔
        other = plain.dependencyWalk Sheet.circling "=B1" ⟨0, 0⟩ := by
  have scanned : (plain.dependencyWalk Sheet.circling "=B1" ⟨0, 0⟩).2.scanned =
      [⟨0, 2⟩, ⟨0, 1⟩] := by
    decide +kernel
  have answer : plain.wouldCycle Sheet.circling "=B1" ⟨0, 0⟩ = .ok false := by decide +kernel
  have back : (Walk.reaches Sheet.circling.dependencies plain.limits.dependencyDepth ⟨0, 0⟩ 2 ⟨0, 1⟩
      {}).1 = .ok false := by
    decide +kernel
  obtain ⟨reads, grows, outcome, ends, _, agrees⟩ :=
    plain.searches_readsOnce Sheet.circling "=B1" ⟨0, 0⟩
  refine ⟨scanned, reads, ⟨_, Prod.ext back rfl, grows _ _ _ _ (Prod.ext back rfl)⟩, ?_⟩
  rcases agrees with ⟨failure, failed, _⟩ | same
  · cases answer.symm.trans failed
  · rw [same]
    exact ends

end FormulaSheet
