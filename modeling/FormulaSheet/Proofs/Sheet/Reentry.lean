import FormulaSheet.Proofs.Dependency.Acyclic
import FormulaSheet.Proofs.Evaluation.Quiet
import FormulaSheet.Proofs.Reading.OwnCell

/-!
# Entering the same text again

Behind a write, the cell of a formula holds another value and another formula than before. Neither
matters to the formula itself. Its evaluation does not read the cell, as it would have been refused
otherwise, and the walk that looks for a cycle ends where it meets the cell, before it could read the
formula there. So both the value and the verdict are the same on the sheet behind the write, and a
second attempt writes what is there already.

* `Walk.reaches_congr`: a walk does not depend on the formula of its target.
* `wouldCycle_put` and `evaluate_put` compare a sheet with the one behind the write.
* `enter_again` is the statement about an attempt that has succeeded.
-/

namespace FormulaSheet

namespace Walk

variable {dependencies others : Dependencies} {limit : Int} {target : Coord}

theorem arrive_congr {further other : Coord → Walk → Outcome}
    (h : ∀ c ≠ target, further c = other c) : arrive target further = arrive target other := by
  funext c walk
  unfold arrive
  by_cases met : c = target
  · rw [if_pos met, if_pos met]
  · rw [if_neg met, if_neg met, h c met]

/-- A walk is the same for dependencies that are the same but for those of its target. -/
theorem reaches_congr (h : ∀ c ≠ target, dependencies c = others c) (steps : Nat) :
    reaches dependencies limit target steps = reaches others limit target steps := by
  induction steps with
  | zero => rfl
  | succ steps ih =>
      rw [reaches, reaches, ih]
      refine arrive_congr fun c ne => ?_
      funext walk
      rw [expand, expand, h c ne]

end Walk

variable {σ : Type}

namespace Sheet

variable {sheet : Sheet} {c : Coord} {cell : Cell} {inside : c.IsInside sheet.rows sheet.cols}

theorem dependencies_put_of_ne {d : Coord} (ne : d ≠ c) :
    (sheet.put c cell inside).dependencies d = sheet.dependencies d := by
  unfold dependencies
  rw [get_put_of_ne sheet cell inside ne]
  rfl

/-- Writing a cell as it is changes no cell. -/
theorem get_put_get (h : sheet.get c = cell) (d : Coord) :
    (sheet.put c cell inside).get d = sheet.get d := by
  by_cases same : d = c
  · rw [same, get_put, h]
  · exact get_put_of_ne sheet cell inside same

end Sheet

namespace Engine

section Write

variable {engine : Engine σ} {sheet : Sheet} {c : Coord} {cell : Cell}
  {inside : c.IsInside sheet.rows sheet.cols} {text : String}

/-- The verdict on a formula does not depend on what is in its cell. -/
theorem wouldCycle_put :
    engine.wouldCycle (sheet.put c cell inside) text c = engine.wouldCycle sheet text c := by
  have others : ∀ d ≠ c, (sheet.put c cell inside).dependencies d = sheet.dependencies d :=
    fun d ne => Sheet.dependencies_put_of_ne ne
  unfold wouldCycle dependencyWalk Walk.search
  rw [Walk.reaches_congr others]
  rfl

theorem check_put : engine.check (sheet.put c cell inside) text c = engine.check sheet text c := by
  unfold check
  rw [wouldCycle_put]

variable (accepted : engine.check sheet text c = .ok ())
include accepted

/-- The value of a formula that is accepted does not depend on what is in its cell. -/
theorem evaluate_put :
    engine.evaluate (sheet.put c cell inside) text = engine.evaluate sheet text := by
  unfold evaluate
  cases parsed : engine.parseFormula text with
  | error error => rfl
  | ok e =>
      obtain ⟨cells, collected, unread⟩ :=
        exists_cells_of_wouldCycle inside (check_eq_ok accepted) parsed
      have agree : (engine.context (sheet.put c cell inside)).Agree (engine.context sheet) cells :=
        { texts := fun d mem => by
            have ne : d ≠ c := fun same => unread (same ▸ mem)
            exact congrArg (pure ∘ Cell.value) (Sheet.get_put_of_ne sheet cell inside ne)
          functions := rfl
          limits := rfl }
      exact agree.descend_eq (e.node_eq_of_agree agree collected (List.Subset.refl _)) 0

theorem display_put : engine.display (sheet.put c cell inside) text = engine.display sheet text := by
  unfold display
  rw [evaluate_put accepted]

end Write

variable {engine : Engine σ} {sheet next : Sheet} {c : Coord} {cell : Cell} {text : String}
  {before after : σ}

theorem cellFor_eq_ok (h : (engine.cellFor sheet c text).run.run before = (.ok cell, after)) :
    (formulaBody? text).isSome = false ∨ engine.check sheet text c = .ok () ∧
      ∃ value, (engine.display sheet text).run.run before = (.ok value, after) ∧
        cell.value = value := by
  rcases cellFor_cases h with ⟨plain, _⟩ | ⟨_, accepted, value, shown, rfl⟩
  · exact Or.inl (by rw [plain]; rfl)
  · exact Or.inr ⟨accepted, value, shown, rfl⟩

/-- Behind a write, the cell for the same text is made in the same way. -/
theorem cellFor_put {inside : c.IsInside sheet.rows sheet.cols} {written : Cell}
    (h : (engine.cellFor sheet c text).run.run before = (.ok cell, after)) :
    engine.cellFor (sheet.put c written inside) c text = engine.cellFor sheet c text := by
  unfold cellFor
  rcases cellFor_eq_ok h with plain | ⟨accepted, _⟩
  · rw [Option.isSome_eq_false_iff, Option.isNone_iff_eq_none] at plain
    rw [plain]
  · rw [check_put, display_put accepted]

/-- An attempt that succeeds has made a cell and has written it. -/
theorem exists_cellFor (h : (engine.enter sheet c text).run.run before = (.ok (cell, next), after)) :
    ∃ inside, next = sheet.put c cell inside ∧
      (engine.cellFor sheet c text).run.run before = (.ok cell, after) := by
  unfold enter at h
  split at h
  · next inside =>
    obtain ⟨written, between, made, last⟩ := run_bind_eq_ok h
    cases last
    exact ⟨inside, rfl, made⟩
  · cases h

/-- Behind an attempt that succeeds, a formula has the value that its cell shows. A second attempt with
the same text succeeds with the same cell, and changes no cell. Both hold in every state of the world,
which is left as it is. -/
theorem enter_again (custom : engine.registry.IsComputed)
    (asks : (formulaBody? text).isSome = true → engine.AsksNothing text)
    (entered : (engine.enter sheet c text).run.run before = (.ok (cell, next), after)) :
    ((formulaBody? text).isSome = true →
      ∀ world, (engine.display next text).run.run world = (.ok (next.get c).value, world)) ∧
    ∀ world, ∃ final, (engine.enter next c text).run.run world = (.ok (cell, final), world) ∧
      ∀ d, final.get d = next.get d := by
  obtain ⟨inside, rfl, made⟩ := exists_cellFor entered
  constructor
  · intro formula world
    rcases cellFor_eq_ok made with plain | ⟨accepted, value, shown, rfl⟩
    · rw [plain] at formula
      cases formula
    · rw [display_put accepted, Sheet.get_put]
      exact (display_isQuiet custom (asks formula) sheet).run_eq shown world
  · intro world
    have remade : (engine.cellFor (sheet.put c cell inside) c text).run.run world =
        (.ok cell, world) := by
      rw [cellFor_put made]
      exact (cellFor_isQuiet custom asks sheet c).run_eq made world
    refine ⟨(sheet.put c cell inside).put c cell inside, ?_, ?_⟩
    · unfold enter
      rw [dif_pos (show c.IsInside (sheet.put c cell inside).rows (sheet.put c cell inside).cols
        from inside), ExceptT.run_bind, StateT.run_bind, remade]
      rfl
    · exact Sheet.get_put_get (Sheet.get_put ..)

/-- A formula with a call that takes the place of a reference to the cell that it reads. -/
theorem enter_again_linked :
    Engine.plain.registry.IsComputed ∧ Engine.plain.AsksNothing "=LEN(A1 & A3)" ∧
      ∃ cell next, (Engine.plain.enter Sheet.linked ⟨0, 1⟩ "=LEN(A1 & A3)").run.run () =
          (.ok (cell, next), ()) ∧
        ((formulaBody? "=LEN(A1 & A3)").isSome = true →
          ∀ world, (Engine.plain.display next "=LEN(A1 & A3)").run.run world =
            (.ok (next.get ⟨0, 1⟩).value, world)) ∧
        ∀ world, ∃ final, (Engine.plain.enter next ⟨0, 1⟩ "=LEN(A1 & A3)").run.run world =
            (.ok (cell, final), world) ∧ ∀ d, final.get d = next.get d := by
  have custom : Engine.plain.registry.IsComputed := fun entry mem => absurd mem List.not_mem_nil
  have asks : Engine.plain.AsksNothing "=LEN(A1 & A3)" := by decide +kernel
  have succeeds : ((Engine.plain.enter Sheet.linked ⟨0, 1⟩ "=LEN(A1 & A3)").run.run ()).1.isOk =
      true := by
    decide +kernel
  refine ⟨custom, asks, ?_⟩
  cases run : (Engine.plain.enter Sheet.linked ⟨0, 1⟩ "=LEN(A1 & A3)").run.run () with
  | mk outcome after =>
      cases outcome with
      | error failure =>
          rw [run] at succeeds
          cases succeeds
      | ok written => exact ⟨written.1, written.2, rfl, enter_again custom (fun _ => asks) run⟩

end Engine

end FormulaSheet
