import FormulaSheet.Sheet.Dependency

/-!
# Rules for the steps of a walk

A walk does three things: it comes to a cell (`arrive`), it goes below it (`expand`), and there it
follows references (`follow`). What is to be shown of a walk is one property of the walk if it comes
back, and another one of every outcome with which it stops. There is one rule for each of the three,
and a proof about walks is an induction over them.
-/

namespace FormulaSheet
namespace Walk

/-- The walk does not enter `c` again. -/
def Known (walk : Walk) (c : Coord) : Prop :=
  c ∈ walk.path ∨ c ∈ walk.cleared

theorem isKnown_iff {walk : Walk} {c : Coord} : walk.isKnown c = true ↔ walk.Known c := by
  rw [isKnown, Bool.or_eq_true]
  rfl

section Effects

variable {walk : Walk} {c d : Coord}

theorem insert_eq_iff : Coord.cmp c d = .eq ↔ d = c :=
  Coord.cmp_eq_iff.trans eq_comm

@[simp] theorem mem_path_enter : d ∈ (walk.enter c).path ↔ d = c ∨ d ∈ walk.path := by
  simp only [enter, Std.TreeSet.mem_insert, insert_eq_iff]

@[simp] theorem mem_cleared_enter : d ∈ (walk.enter c).cleared ↔ d ∈ walk.cleared := Iff.rfl

@[simp] theorem mem_path_leave : d ∈ (walk.leave c).path ↔ d ≠ c ∧ d ∈ walk.path := by
  simp only [leave, Std.TreeSet.mem_erase, ne_eq, insert_eq_iff]

@[simp] theorem mem_cleared_leave : d ∈ (walk.leave c).cleared ↔ d = c ∨ d ∈ walk.cleared := by
  simp only [leave, Std.TreeSet.mem_insert, insert_eq_iff]

@[simp] theorem mem_path_clear : d ∈ (walk.clear c).path ↔ d ∈ walk.path := Iff.rfl

@[simp] theorem mem_cleared_clear : d ∈ (walk.clear c).cleared ↔ d = c ∨ d ∈ walk.cleared := by
  simp only [clear, Std.TreeSet.mem_insert, insert_eq_iff]

@[simp] theorem known_enter : (walk.enter c).Known d ↔ d = c ∨ walk.Known d := by
  simp [Known, or_assoc]

@[simp] theorem known_clear : (walk.clear c).Known d ↔ d = c ∨ walk.Known d := by
  simp [Known, or_left_comm]

/-- The cell goes from the path to the cleared ones, so nothing that was known is lost. -/
@[simp] theorem known_leave : (walk.leave c).Known d ↔ d = c ∨ walk.Known d := by
  by_cases eq : d = c
  · simp [Known, eq]
  · simp [Known, eq]

@[simp] theorem scanned_enter : (walk.enter c).scanned = c :: walk.scanned := rfl

@[simp] theorem scanned_clear : (walk.clear c).scanned = walk.scanned := rfl

@[simp] theorem scanned_leave : (walk.leave c).scanned = walk.scanned := rfl

@[simp] theorem not_known_empty : ¬ ({} : Walk).Known d := by
  rintro (onPath | cleared)
  · exact Std.TreeSet.not_mem_emptyc onPath
  · exact Std.TreeSet.not_mem_emptyc cleared

end Effects

/-- What holds of an outcome: one property of the walk if it comes back without the target, and
another one of every outcome with which it stops. -/
def Satisfies (back : Walk → Prop) (stopped : Outcome → Prop) : Outcome → Prop
  | (.ok false, walk) => back walk
  | outcome => stopped outcome

section Rules

variable {back middle wider : Walk → Prop} {stopped ended : Outcome → Prop}
  {visit further : Coord → Walk → Outcome} {walk : Walk} {c : Coord} {outcome : Outcome}

theorem satisfies_of_stopped (h : ∀ walk, outcome ≠ (.ok false, walk)) :
    Satisfies back stopped outcome ↔ stopped outcome := by
  rcases outcome with ⟨result, walk⟩
  cases result with
  | error failure => exact Iff.rfl
  | ok met =>
      cases met with
      | true => exact Iff.rfl
      | false => exact absurd rfl (h walk)

theorem Satisfies.imp (h : Satisfies back stopped outcome) (le : ∀ walk, back walk → wider walk)
    (le' : ∀ outcome, stopped outcome → ended outcome) : Satisfies wider ended outcome := by
  rcases outcome with ⟨result, walk⟩
  cases result with
  | error failure => exact le' _ h
  | ok met =>
      cases met with
      | true => exact le' _ h
      | false => exact le walk h

/-- What holds if the walk comes back and if it stops, holds in any case. -/
theorem Satisfies.elim (holds : Outcome → Prop)
    (h : Satisfies (fun walk => holds (.ok false, walk)) holds outcome) : holds outcome := by
  rcases outcome with ⟨result, walk⟩
  cases result with
  | error failure => exact h
  | ok met =>
      cases met with
      | true => exact h
      | false => exact h

/-- An outcome with which a walk stops is not one with which it comes back. -/
theorem Satisfies.stops (h : Satisfies back stopped outcome) :
    Satisfies back (fun outcome => (∀ walk, outcome ≠ (.ok false, walk)) ∧ stopped outcome)
      outcome := by
  rcases outcome with ⟨result, walk⟩
  cases result with
  | error failure => exact ⟨by simp, h⟩
  | ok met =>
      cases met with
      | true => exact ⟨by simp, h⟩
      | false => exact h

theorem Satisfies.and (h : Satisfies back stopped outcome)
    (h' : Satisfies wider ended outcome) :
    Satisfies (fun walk => back walk ∧ wider walk)
      (fun outcome => stopped outcome ∧ ended outcome) outcome := by
  rcases outcome with ⟨result, walk⟩
  cases result with
  | error failure => exact ⟨h, h'⟩
  | ok met =>
      cases met with
      | true => exact ⟨h, h'⟩
      | false => exact ⟨h, h'⟩

/-- The first reference is followed, and the others from where it comes back. -/
theorem follow_cons_satisfies {rest : List Coord}
    (first : Satisfies middle stopped (visit c walk))
    (others : ∀ next, middle next → Satisfies back stopped (follow visit rest next)) :
    Satisfies back stopped (follow visit (c :: rest) walk) := by
  rw [follow]
  split
  · next passed heq =>
    rw [heq] at first
    exact others _ first
  · next other => exact (satisfies_of_stopped other).2 ((satisfies_of_stopped other).1 first)

/-- A property that every visit keeps is kept while references are followed. -/
theorem follow_satisfies {cs : List Coord}
    (h : ∀ c ∈ cs, ∀ walk, back walk → Satisfies back stopped (visit c walk)) (start : back walk) :
    Satisfies back stopped (follow visit cs walk) := by
  induction cs generalizing walk with
  | nil => exact start
  | cons c rest ih =>
      refine follow_cons_satisfies (h c List.mem_cons_self walk start) fun next kept => ?_
      exact ih (fun d mem => h d (List.mem_cons_of_mem c mem)) kept

/-- A cell without a formula is cleared, and one with a formula is left when its references have been
followed. -/
theorem expand_satisfies {dependencies : Dependencies}
    (blank : dependencies c = none → back (walk.clear c))
    (fault : ∀ fault, dependencies c = some (.error fault) →
      stopped (.error (.integer fault), walk.enter c))
    (below : ∀ references, dependencies c = some (.ok references) →
      Satisfies (fun next => back (next.leave c)) stopped
        (follow visit references (walk.enter c))) :
    Satisfies back stopped (expand dependencies visit c walk) := by
  unfold expand
  split
  · next absent => exact blank absent
  · next cause stored => exact fault cause stored
  · next references stored =>
    have under := below references stored
    split
    · next passed heq =>
      rw [heq] at under
      exact under
    · next other => exact (satisfies_of_stopped other).2 ((satisfies_of_stopped other).1 under)

theorem arrive_satisfies {target : Coord} (met : c = target → stopped (.ok true, walk))
    (known : c ≠ target → walk.Known c → back walk)
    (fresh : c ≠ target → ¬ walk.Known c → Satisfies back stopped (further c walk)) :
    Satisfies back stopped (arrive target further c walk) := by
  unfold arrive
  split
  · next eq => exact met eq
  · next ne =>
    split
    · next old => exact known ne (isKnown_iff.1 old)
    · next new => exact fresh ne fun old => new (isKnown_iff.2 old)

end Rules

end Walk
end FormulaSheet
