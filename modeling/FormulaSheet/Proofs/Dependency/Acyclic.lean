import FormulaSheet.Proofs.Dependency.Cycle

/-!
# Sheets without cycles

A sheet that is only written by entering texts never gets a cycle of references. The verdict on a
formula is given on the sheet before the formula is written, with the old formula of its cell still
in place. Writing replaces the references of that one cell, so a new cycle would have to pass through
it, and would lead from the new formula back to the cell along references that were there before.

* `enter_eq_ok` says what an attempt that succeeds has written and what was checked for it.
* `Acyclic.put` says what a write keeps, and `Acyclic.after` what an attempt keeps.
* `acyclic_afterAll` is the statement for every run of attempts, whether they succeed or not.
-/

namespace FormulaSheet

/-- No cell leads to itself by one or more references. -/
def Sheet.Acyclic (sheet : Sheet) : Prop :=
  ∀ c, ¬ Relation.TransGen sheet.DependsOn c c

/-- The formula of a cell, if it has one, does not lead to `c` on the sheet. -/
def Sheet.Admits (sheet : Sheet) (c : Coord) (cell : Cell) : Prop :=
  ∀ text ∈ cell.formula, ¬ ∃ d, Mentions text (some sheet.bounds) d ∧
    Relation.ReflTransGen sheet.DependsOn d c

/-- An attempt to write: what is entered where, by which engine, in which state of its world. -/
inductive Attempt : Type 1
  | enter {σ : Type} (engine : Engine σ) (world : σ) (c : Coord) (text : String)
  | assign {σ : Type} (engine : Engine σ) (world : σ) (ref text : String)

/-- The cell that an attempt writes and the sheet behind it, or why it fails. -/
def Attempt.outcome (sheet : Sheet) : Attempt → Except Failure (Cell × Sheet)
  | .enter engine world c text => ((engine.enter sheet c text).run.run world).1
  | .assign engine world ref text => ((engine.assign sheet ref text).run.run world).1

namespace Sheet

/-- The sheet behind an attempt. One that fails leaves the sheet as it was. -/
def after (sheet : Sheet) (attempt : Attempt) : Sheet :=
  match attempt.outcome sheet with
  | .ok (_, next) => next
  | .error _ => sheet

/-- The sheet behind a run of attempts. -/
def afterAll (sheet : Sheet) (attempts : List Attempt) : Sheet :=
  attempts.foldl after sheet

end Sheet

namespace Engine

variable {σ : Type} {engine : Engine σ} {sheet next : Sheet} {c : Coord} {cell : Cell}
  {text : String} {world : σ}

theorem check_eq_ok (h : engine.check sheet text c = .ok ()) :
    engine.wouldCycle sheet text c = .ok false := by
  unfold check at h
  split at h
  · cases h
  · cases h
  · next verdict => exact verdict

theorem cellFor_of_text (h : formulaBody? text = none) :
    engine.cellFor sheet c text = return { value := text } := by
  unfold cellFor
  rw [h]

theorem cellFor_of_refused {body : String} (h : formulaBody? text = some body) {failure : Failure}
    (refused : engine.check sheet text c = .error failure) :
    engine.cellFor sheet c text = throw failure := by
  unfold cellFor
  rw [h, refused]

theorem cellFor_of_accepted {body : String} (h : formulaBody? text = some body)
    (accepted : engine.check sheet text c = .ok ()) :
    engine.cellFor sheet c text = do
      let value ← engine.display sheet text
      return { value, formula := some text } := by
  unfold cellFor
  rw [h, accepted]

/-- The cell for a text is the text itself; for a formula that is accepted it is what is shown. -/
theorem cellFor_cases {before after : σ}
    (h : (engine.cellFor sheet c text).run.run before = (.ok cell, after)) :
    formulaBody? text = none ∧ cell = { value := text } ∨
      (formulaBody? text).isSome = true ∧ engine.check sheet text c = .ok () ∧
        ∃ value, (engine.display sheet text).run.run before = (.ok value, after) ∧
          cell = { value, formula := some text } := by
  cases mark : formulaBody? text with
  | none =>
      rw [cellFor_of_text mark] at h
      cases h
      exact Or.inl ⟨rfl, rfl⟩
  | some body =>
      cases verdict : engine.check sheet text c with
      | error failure =>
          rw [cellFor_of_refused mark verdict] at h
          cases h
      | ok =>
          rw [cellFor_of_accepted mark verdict] at h
          obtain ⟨value, between, shown, last⟩ := run_bind_eq_ok h
          cases last
          exact Or.inr ⟨rfl, rfl, value, shown, rfl⟩

/-- A text is stored as it is, and a formula after it has been found not to lead to its cell. -/
theorem admits_of_cellFor {before after : σ}
    (h : (engine.cellFor sheet c text).run.run before = (.ok cell, after)) :
    sheet.Admits c cell := by
  rcases cellFor_cases h with ⟨_, rfl⟩ | ⟨_, accepted, value, _, rfl⟩
  · rintro formula ⟨⟩
  · rintro formula ⟨⟩ reach
    cases (engine.wouldCycle_eq_ok_within (check_eq_ok accepted)).2 reach

/-- An attempt that succeeds has written one cell inside the sheet. -/
theorem enter_eq_ok {before after : σ}
    (h : (engine.enter sheet c text).run.run before = (.ok (cell, next), after)) :
    (∃ inside, next = sheet.put c cell inside) ∧ sheet.Admits c cell := by
  unfold enter at h
  split at h
  · next inside =>
    obtain ⟨written, between, first, last⟩ := run_bind_eq_ok h
    cases last
    exact ⟨⟨inside, rfl⟩, admits_of_cellFor first⟩
  · cases h

theorem assign_eq_ok {ref : String} {before after : σ}
    (h : (engine.assign sheet ref text).run.run before = (.ok (cell, next), after)) :
    ∃ c, (engine.enter sheet c text).run.run before = (.ok (cell, next), after) := by
  unfold assign at h
  split at h
  · cases h
  · next c _ => exact ⟨c, h⟩

end Engine

theorem Attempt.outcome_eq_ok {attempt : Attempt} {sheet next : Sheet} {cell : Cell}
    (h : attempt.outcome sheet = .ok (cell, next)) :
    ∃ c, (∃ inside, next = sheet.put c cell inside) ∧ sheet.Admits c cell := by
  cases attempt with
  | enter engine world c text => exact ⟨c, Engine.enter_eq_ok (Prod.ext h rfl)⟩
  | assign engine world ref text =>
      obtain ⟨c, entered⟩ := Engine.assign_eq_ok (Prod.ext h rfl)
      exact ⟨c, Engine.enter_eq_ok entered⟩

namespace Sheet

variable {sheet : Sheet} {c : Coord} {cell : Cell} {inside : c.IsInside sheet.rows sheet.cols}

/-- Writing a cell changes the references of no other cell. -/
theorem dependsOn_put_of_ne {d e : Coord} (ne : d ≠ c) :
    (sheet.put c cell inside).DependsOn d e ↔ sheet.DependsOn d e := by
  unfold DependsOn Refers
  rw [get_put_of_ne sheet cell inside ne]
  rfl

theorem dependsOn_put {e : Coord} :
    (sheet.put c cell inside).DependsOn c e ↔
      ∃ text, cell.formula = some text ∧ Mentions text (some sheet.bounds) e := by
  unfold DependsOn Refers
  rw [get_put]
  rfl

/-- From the cell that was written, its new formula leads to a cell that was there before, and from
there only references are followed that were there before. -/
theorem reachable_of_put (admits : sheet.Admits c cell) {e : Coord}
    (path : Relation.TransGen (sheet.put c cell inside).DependsOn c e) :
    ∃ text ∈ cell.formula, ∃ d, Mentions text (some sheet.bounds) d ∧
      Relation.ReflTransGen sheet.DependsOn d e := by
  induction path with
  | single first =>
      obtain ⟨text, stored, mentions⟩ := dependsOn_put.1 first
      exact ⟨text, stored, _, mentions, Relation.ReflTransGen.refl⟩
  | @tail f g _ last ih =>
      obtain ⟨text, stored, d, mentions, reach⟩ := ih
      -- A step out of the written cell would have to come after a path back to it.
      have ne : f ≠ c := by
        rintro rfl
        exact admits text stored ⟨d, mentions, reach⟩
      exact ⟨text, stored, d, mentions, reach.tail ((dependsOn_put_of_ne ne).1 last)⟩

/-- A path behind the write is a path from before it, or passes through the cell that was written. -/
theorem path_of_put {d e : Coord}
    (path : Relation.TransGen (sheet.put c cell inside).DependsOn d e) :
    Relation.TransGen sheet.DependsOn d e ∨
      Relation.ReflTransGen (sheet.put c cell inside).DependsOn d c ∧
        Relation.TransGen (sheet.put c cell inside).DependsOn c e := by
  induction path with
  | single first =>
      by_cases same : d = c
      · subst same
        exact Or.inr ⟨Relation.ReflTransGen.refl, Relation.TransGen.single first⟩
      · exact Or.inl (Relation.TransGen.single ((dependsOn_put_of_ne same).1 first))
  | @tail f g front last ih =>
      rcases ih with old | ⟨before, behind⟩
      · by_cases same : f = c
        · subst same
          exact Or.inr ⟨front.to_reflTransGen, Relation.TransGen.single last⟩
        · exact Or.inl (old.tail ((dependsOn_put_of_ne same).1 last))
      · exact Or.inr ⟨before, behind.tail last⟩

/-- Writing a cell whose formula does not lead back to it keeps a sheet free of cycles. -/
theorem Acyclic.put (acyclic : sheet.Acyclic) (admits : sheet.Admits c cell) :
    (sheet.put c cell inside).Acyclic := by
  intro d cycle
  rcases path_of_put cycle with old | ⟨before, behind⟩
  · exact acyclic d old
  · have closed : Relation.TransGen (sheet.put c cell inside).DependsOn c c :=
      Relation.TransGen.trans_left behind before
    obtain ⟨text, stored, reach⟩ := reachable_of_put admits closed
    exact admits text stored reach

theorem acyclic_empty {rows cols : Int} {start : Sheet} (h : empty rows cols = .ok start) :
    start.Acyclic := by
  have blank : ∀ c, start.get c = {} := by
    intro c
    unfold empty at h
    split at h
    · cases h
      rfl
    · cases h
  have nowhere : ∀ c d, ¬ start.DependsOn c d := by
    rintro c d ⟨text, stored, _⟩
    rw [blank] at stored
    cases stored
  intro c cycle
  obtain ⟨d, first, _⟩ := Relation.TransGen.head'_iff.1 cycle
  exact nowhere c d first

/-- An attempt keeps a sheet free of cycles, whether it succeeds or not. -/
theorem Acyclic.after (acyclic : sheet.Acyclic) (attempt : Attempt) :
    (sheet.after attempt).Acyclic := by
  unfold Sheet.after
  split
  · next written next h =>
    obtain ⟨c, ⟨inside, rfl⟩, admits⟩ := Attempt.outcome_eq_ok h
    exact acyclic.put admits
  · exact acyclic

/-- A sheet that was empty at first is free of cycles behind every run of attempts. -/
theorem acyclic_afterAll {rows cols : Int} {start : Sheet} (h : empty rows cols = .ok start)
    (attempts : List Attempt) : (start.afterAll attempts).Acyclic := by
  have run : ∀ sheet : Sheet, sheet.Acyclic → (sheet.afterAll attempts).Acyclic := by
    induction attempts with
    | nil => exact fun sheet acyclic => acyclic
    | cons attempt rest ih =>
        exact fun sheet acyclic => ih (sheet.after attempt) (acyclic.after attempt)
  exact run start (acyclic_empty h)

/-- Of two cells that are to refer to each other the second one is refused, and no cycle arises. -/
theorem acyclic_afterAll_mutual : ∃ start, empty 1 2 = .ok start ∧
    let attempts : List Attempt :=
      [.assign Engine.plain () "B1" "=A1", .enter Engine.plain () ⟨0, 0⟩ "=B1"]
    ((start.afterAll attempts).get ⟨0, 1⟩).formula = some "=A1" ∧
      ((start.afterAll attempts).get ⟨0, 0⟩).formula = none ∧
      (start.afterAll attempts).Acyclic := by
  have blank : empty 1 2 = .ok _ := rfl
  refine ⟨_, blank, ?_, ?_, acyclic_afterAll blank _⟩
  · decide +kernel
  · decide +kernel

end Sheet

end FormulaSheet
