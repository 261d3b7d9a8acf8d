import FormulaSheet.Evaluation.Evaluate
import Mathlib.Data.List.Forall2

/-!
# Results read backwards

A computation that may fail is a chain of steps. These lemmas take a chain that has succeeded apart
into its steps, and a list of steps into one statement for each of its members. An action is such a
computation in a world, whose state goes from each step to the next.
-/

namespace FormulaSheet

variable {ε α β : Type}

theorem bind_eq_ok {x : Except ε α} {f : α → Except ε β} {b : β} :
    (x >>= f) = .ok b ↔ ∃ a, x = .ok a ∧ f a = .ok b := by
  cases x with
  | error e =>
      constructor
      · intro h
        cases h
      · rintro ⟨a, h, _⟩
        cases h
  | ok a =>
      constructor
      · intro h
        exact ⟨a, rfl, h⟩
      · rintro ⟨_, same, h⟩
        cases same
        exact h

theorem ok_bind (a : α) (f : α → Except ε β) : (Except.ok a >>= f) = f a := rfl

theorem map_eq_ok {x : Except ε α} {f : α → β} {b : β} :
    x.map f = .ok b ↔ ∃ a, x = .ok a ∧ f a = b := by
  cases x with
  | error e => simp [Except.map]
  | ok a => simp [Except.map]

theorem map_eq_error {x : Except ε α} {f : α → β} {e : ε} : x.map f = .error e ↔ x = .error e := by
  cases x with
  | error other => simp [Except.map]
  | ok a => simp [Except.map]

/-- A list of steps succeeds if each of them does, with their results in the same order. -/
theorem mapM_eq_ok_iff {f : α → Except ε β} {xs : List α} {ys : List β} :
    xs.mapM f = .ok ys ↔ List.Forall₂ (fun x y => f x = .ok y) xs ys := by
  induction xs generalizing ys with
  | nil =>
      rw [List.mapM_nil, List.forall₂_nil_left_iff]
      constructor
      · intro h
        cases h
        rfl
      · rintro rfl
        rfl
  | cons x rest ih =>
      rw [List.mapM_cons, bind_eq_ok, List.forall₂_cons_left_iff]
      constructor
      · rintro ⟨y, first, h⟩
        obtain ⟨others, later, last⟩ := bind_eq_ok.1 h
        cases last
        exact ⟨y, others, first, ih.1 later, rfl⟩
      · rintro ⟨y, others, first, later, rfl⟩
        exact ⟨y, first, bind_eq_ok.2 ⟨others, ih.2 later, rfl⟩⟩

/-- A list of steps succeeds if each of them does. -/
theorem exists_mapM_eq_ok {f : α → Except ε β} {xs : List α} (h : ∀ x ∈ xs, ∃ y, f x = .ok y) :
    ∃ ys, xs.mapM f = .ok ys := by
  induction xs with
  | nil => exact ⟨[], rfl⟩
  | cons x rest ih =>
      obtain ⟨y, first⟩ := h x List.mem_cons_self
      obtain ⟨others, later⟩ := ih fun z hz => h z (List.mem_cons_of_mem x hz)
      refine ⟨y :: others, mapM_eq_ok_iff.2 ?_⟩
      exact List.Forall₂.cons first (mapM_eq_ok_iff.1 later)

/-- If a list of steps succeeds, so does each of them. -/
theorem exists_of_mapM_eq_ok {f : α → Except ε β} {xs : List α} {ys : List β}
    (h : xs.mapM f = .ok ys) {x : α} (mem : x ∈ xs) : ∃ y, f x = .ok y := by
  induction xs generalizing ys with
  | nil => cases mem
  | cons z rest ih =>
      obtain ⟨y, others, first, later, _⟩ := List.forall₂_cons_left_iff.1 (mapM_eq_ok_iff.1 h)
      rcases List.mem_cons.1 mem with rfl | behind
      · exact ⟨y, first⟩
      · exact ih (mapM_eq_ok_iff.2 later) behind

/-- What is among the results of a list of steps is the result of one of them. -/
theorem mem_of_mapM_eq_ok {f : α → Except ε β} {xs : List α} {ys : List β}
    (h : xs.mapM f = .ok ys) (y : β) : y ∈ ys ↔ ∃ x ∈ xs, f x = .ok y := by
  induction xs generalizing ys with
  | nil =>
      cases h
      simp
  | cons x rest ih =>
      obtain ⟨z, others, first, later, rfl⟩ := List.forall₂_cons_left_iff.1 (mapM_eq_ok_iff.1 h)
      rw [List.mem_cons, ih (mapM_eq_ok_iff.2 later)]
      constructor
      · rintro (rfl | ⟨w, mem, result⟩)
        · exact ⟨x, List.mem_cons_self, first⟩
        · exact ⟨w, List.mem_cons_of_mem x mem, result⟩
      · rintro ⟨w, mem, result⟩
        rcases List.mem_cons.1 mem with rfl | behind
        · rw [first] at result
          cases result
          exact Or.inl rfl
        · exact Or.inr ⟨w, behind, result⟩

section Run

variable {σ : Type} {act : ExceptT ε (StateM σ) α} {f : α → ExceptT ε (StateM σ) β}
  {before between : σ}

/-- Behind a first step that succeeds, an action goes on with the others. -/
theorem run_bind_of_ok {a : α} (h : act.run.run before = (.ok a, between)) :
    (act >>= f).run.run before = (f a).run.run between := by
  rw [ExceptT.run_bind, StateT.run_bind, h]
  rfl

/-- An action ends with a first step that fails. -/
theorem run_bind_of_error {failure : ε} (h : act.run.run before = (.error failure, between)) :
    (act >>= f).run.run before = (.error failure, between) := by
  rw [ExceptT.run_bind, StateT.run_bind, h]
  rfl

/-- An action that has succeeded has gone through its first step and then through the others. -/
theorem run_bind_eq_ok {b : β} {after : σ} (h : (act >>= f).run.run before = (.ok b, after)) :
    ∃ a between, act.run.run before = (.ok a, between) ∧
      (f a).run.run between = (.ok b, after) := by
  cases first : act.run.run before with
  | mk result between =>
      cases result with
      | error failure =>
          rw [run_bind_of_error first] at h
          cases h
      | ok a =>
          rw [run_bind_of_ok first] at h
          exact ⟨a, between, rfl, h⟩

end Run

end FormulaSheet
