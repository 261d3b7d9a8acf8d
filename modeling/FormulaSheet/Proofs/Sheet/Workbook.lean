import FormulaSheet.Proofs.Evaluation.Fetching
import FormulaSheet.Proofs.Sheet.Session

/-!
# What a workbook fetches

A workbook is a sheet with the one engine that works on it, in a world. It is told to enter, evaluate, show
and check formulas, and to register functions, which changes the engine for all that follows.

In the order in which a formula is dealt with, nothing is fetched before the formula is known to be accepted:
the check comes before the evaluation, and the whole text is read before any of it is evaluated. A failure
about a position, a cycle or a depth that comes out of entering is therefore one from before the evaluation,
whose own failures of these kinds are shown in the cell.

* `Engine.enter_kept_of_refused` is the step for a formula that is refused.
* `Workbook.obey_fetches` says what one instruction fetches, and `Workbook.fetches_web` what a run does.
-/

namespace FormulaSheet

variable {σ : Type}

namespace Engine

variable {engine : Engine σ} {sheet : Sheet} {c : Coord} {text : String} {before after : σ}
  {failure : Failure}

/-! ### Texts that are no formula -/

section Unreadable

variable {error : SyntaxError} (h : engine.parseFormula text = .error error)
include h

theorem evaluate_isQuiet_of_error (sheet : Sheet) : IsQuiet (engine.evaluate sheet text) := by
  rw [evaluate, h]
  exact .throw _

theorem display_isQuiet_of_error (sheet : Sheet) : IsQuiet (engine.display sheet text) := by
  unfold display
  split
  · exact .pure _
  · exact (evaluate_isQuiet_of_error h sheet).map_run shown

theorem enter_isQuiet_of_error (sheet : Sheet) (c : Coord) : IsQuiet (engine.enter sheet c text) := by
  unfold enter cellFor
  split
  · refine .bind ?_ fun cell => .pure _
    split
    · exact .pure _
    · split
      · exact .throw _
      · exact (display_isQuiet_of_error h sheet).bind fun value => .pure _
  · exact .throw _

end Unreadable

/-! ### Formulas that are refused -/

/-- What is not shown in the cell is a failure of the evaluation that does not belong to the formula. -/
theorem evaluate_of_display_eq_error
    (run : (engine.display sheet text).run.run before = (.error failure, after)) :
    (engine.evaluate sheet text).run.run before = (.error failure, after) ∧ failure.isShown = false := by
  cases mark : formulaBody? text with
  | none =>
      rw [display, mark] at run
      cases run
  | some body =>
      rw [engine.run_display sheet text mark] at run
      cases outcome : (engine.evaluate sheet text).run.run before with
      | mk result last =>
          rw [outcome] at run
          cases result with
          | ok v => cases run
          | error fault =>
              by_cases isShown : fault.isShown = true
              · rw [shown, if_pos isShown] at run
                cases run
              · rw [shown, if_neg isShown] at run
                cases run
                exact ⟨rfl, Bool.eq_false_iff.2 isShown⟩

/-- The failures that are about a position, a cycle or a depth. -/
def IsRefusal (failure : Failure) : Prop :=
  failure.category = .position ∨ failure.category = .cycle ∨ failure.category = .depth

end Engine

namespace Engine

variable {engine : Engine (σ × List String)} {sheet : Sheet} {c : Coord} {text : String}
  {before after : σ × List String} {failure : Failure}

/-- An evaluation fails with no failure about a position, as no registered function does. -/
theorem category_ne_position (recorded : engine.registry.IsRecorded)
    (run : (engine.evaluate sheet text).run.run before = (.error failure, after)) :
    failure.category ≠ .position := by
  intro position
  rcases engine.isContained_or_failureEscapes sheet text run with contained | ⟨e, _, escape⟩
  · rw [position] at contained
    cases contained
  · cases escape with
    | longRow | longSize | largeInteger => cases position
    | raised _ own outcome =>
        exact (recorded.isLocal_of_lookup own).failure _ _ _ _ outcome position

/-- Nothing is asked of the world before a formula is refused. -/
theorem enter_kept_of_refused (recorded : engine.registry.IsRecorded)
    (run : (engine.enter sheet c text).run.run before = (.error failure, after))
    (refusal : IsRefusal failure) : after = before := by
  by_cases inside : c.IsInside sheet.rows sheet.cols
  · rw [enter, dif_pos inside] at run
    cases mark : formulaBody? text with
    | none =>
        rw [cellFor_of_text mark] at run
        cases run
    | some body =>
        cases verdict : engine.check sheet text c with
        | error refused =>
            rw [cellFor_of_refused mark verdict] at run
            cases run
            rfl
        | ok =>
            rw [cellFor_of_accepted mark verdict] at run
            cases shown : (engine.display sheet text).run.run before with
            | mk result between =>
                cases result with
                | ok value =>
                    rw [bind_assoc, run_bind_of_ok shown] at run
                    cases run
                | error other =>
                    rw [run_bind_of_error (run_bind_of_error shown)] at run
                    cases run
                    obtain ⟨failed, hidden⟩ := evaluate_of_display_eq_error shown
                    rcases refusal with position | cycle | depth
                    · exact absurd position (category_ne_position recorded failed)
                    · rw [Failure.isShown, cycle] at hidden
                      cases hidden
                    · rw [Failure.isShown, depth] at hidden
                      cases hidden
  · rw [enter, dif_neg inside] at run
    cases run
    rfl

end Engine

/-! ### Workbooks -/

/-- A sheet with the engine that works on it, in a world. -/
structure Workbook (σ : Type) where
  engine : Engine σ
  sheet : Sheet
  world : σ

/-- What a workbook can be told to do. -/
inductive Instruction (σ : Type) where
  /-- Enters a text into a cell. -/
  | enter (c : Coord) (text : String)
  /-- Evaluates a formula. -/
  | evaluate (formula : String)
  /-- Gives the text that a cell would show. -/
  | display (text : String)
  /-- Fails if a formula would depend on the cell that it is entered into. -/
  | check (formula : String) (c : Coord)
  /-- Registers a function under a name. -/
  | register (name : String) (f : SheetFunction σ)

/-- The text that an instruction is about. -/
def Instruction.text? : Instruction σ → Option String
  | enter _ text | display text => some text
  | evaluate formula | check formula _ => some formula
  | register .. => none

namespace Workbook

/-- Deals with a request to the sheet. -/
def perform (book : Workbook σ) (request : Request σ) : Except Failure Response × Workbook σ :=
  let event := request.event (book.sheet, book.world)
  (event.outcome, { book with sheet := event.after.1, world := event.after.2 })

/-- Registers a function with the engine. -/
def register (book : Workbook σ) (name : String) (f : SheetFunction σ) : Workbook σ :=
  { book with engine := { book.engine with registry := book.engine.registry.register name f } }

/-- Does what an instruction says. -/
def obey (book : Workbook σ) : Instruction σ → Except Failure Response × Workbook σ
  | .enter c text => book.perform (.enter book.engine c text)
  | .evaluate formula => book.perform (.evaluate book.engine formula)
  | .display text => book.perform (.display book.engine text)
  | .check formula c => book.perform (.check book.engine formula c)
  | .register name f => (.ok .done, book.register name f)

end Workbook

/-- An instruction that has been carried out: the workbook before, the answer, and the workbook behind. -/
structure Step (σ : Type) where
  before : Workbook σ
  instruction : Instruction σ
  outcome : Except Failure Response
  after : Workbook σ

namespace Workbook

/-- Carries out an instruction. -/
def step (book : Workbook σ) (instruction : Instruction σ) : Step σ :=
  ⟨book, instruction, (book.obey instruction).1, (book.obey instruction).2⟩

/-- Carries out instructions one after the other. -/
def steps : Workbook σ → List (Instruction σ) → List (Step σ)
  | _, [] => []
  | book, instruction :: rest => book.step instruction :: steps (book.step instruction).after rest

/-- The workbook behind some instructions. -/
def final (book : Workbook σ) (instructions : List (Instruction σ)) : Workbook σ :=
  instructions.foldl (fun book instruction => (book.step instruction).after) book

end Workbook

namespace Step

/-- The text of the step is no formula, or one with too many levels. -/
def IsUnreadable (step : Step σ) : Prop :=
  ∃ text error, step.instruction.text? = some text ∧
    step.before.engine.parseFormula text = .error error

/-- A formula was to be entered, and has been refused. -/
def IsRefused (step : Step σ) : Prop :=
  ∃ c text failure, step.instruction = .enter c text ∧ step.outcome = .error failure ∧
    Engine.IsRefusal failure

end Step

namespace Request

variable (engine : Engine σ) (sheet : Sheet) (world : σ)

theorem event_evaluate (formula : String) :
    ((evaluate engine formula).event (sheet, world)).after =
      (sheet, ((engine.evaluate sheet formula).run.run world).2) := by
  rw [event, perform, run_map, Session.run_consult]

theorem event_display (text : String) :
    ((display engine text).event (sheet, world)).after =
      (sheet, ((engine.display sheet text).run.run world).2) := by
  rw [event, perform, run_map, Session.run_consult]

theorem event_check (formula : String) (c : Coord) :
    ((check engine formula c).event (sheet, world)).after = (sheet, world) := by
  rw [event, perform, run_map, Session.run_consult_ofExcept]

/-- Entering in place asks the world for what entering does, and fails with the same failure. -/
theorem event_enter (c : Coord) (text : String) :
    ((enter engine c text).event (sheet, world)).after.2 =
        ((engine.enter sheet c text).run.run world).2 ∧
      ∀ failure, ((enter engine c text).event (sheet, world)).outcome = .error failure →
        ((engine.enter sheet c text).run.run world).1 = .error failure := by
  rw [event, perform, run_map, Session.run_enter]
  rcases (engine.enter sheet c text).run.run world with ⟨result, after⟩
  cases result with
  | ok written => exact ⟨rfl, fun failure failed => by cases failed⟩
  | error other =>
      refine ⟨rfl, fun failure failed => ?_⟩
      cases failed
      rfl

end Request

/-! ### Runs -/

/-- What a step fetches: addresses of the web, and nothing if its text is no formula or is refused. -/
def Step.FetchesWeb (step : Step (σ × List String)) : Prop :=
  ∃ urls, step.after.world.2 = step.before.world.2 ++ urls ∧ (∀ url ∈ urls, IsWebUrl url) ∧
    (step.IsUnreadable ∨ step.IsRefused → urls = [])

namespace Workbook

variable {book : Workbook (σ × List String)} {instruction : Instruction (σ × List String)}

theorem fetchesWeb_of_kept (kept : (book.step instruction).after.world = book.world) :
    (book.step instruction).FetchesWeb :=
  ⟨[], by rw [kept, List.append_nil]; rfl, by simp, fun _ => rfl⟩

/-- A step fetches what one action does, and nothing if it leaves the world alone in these two cases. -/
theorem fetchesWeb_of_fetches {α : Type} {act : Action (σ × List String) α}
    (world : (book.step instruction).after.world = (act.run.run book.world).2)
    (fetches : Fetches IsWebUrl act)
    (quiet : (book.step instruction).IsUnreadable ∨ (book.step instruction).IsRefused →
      (act.run.run book.world).2 = book.world) : (book.step instruction).FetchesWeb := by
  by_cases nothing : (book.step instruction).IsUnreadable ∨ (book.step instruction).IsRefused
  · exact fetchesWeb_of_kept (world.trans (quiet nothing))
  · obtain ⟨urls, logged, web⟩ := fetches book.world
    exact ⟨urls, world ▸ logged, web, fun h => absurd h nothing⟩

theorem kept_of_isQuiet {ε α : Type} {act : ExceptT ε (StateM σ) α} (h : IsQuiet act) (world : σ) :
    (act.run.run world).2 = world := by
  obtain ⟨result, same⟩ := h
  rw [same]

theorem not_isRefused (h : ∀ c text, instruction ≠ .enter c text) : ¬ (book.step instruction).IsRefused := by
  rintro ⟨c, text, _, same, _⟩
  exact h c text same

/-- What one instruction fetches. -/
theorem step_fetches (recorded : book.engine.registry.IsRecorded)
    (instruction : Instruction (σ × List String)) : (book.step instruction).FetchesWeb := by
  cases instruction with
  | register name f => exact fetchesWeb_of_kept rfl
  | check formula c =>
      exact fetchesWeb_of_kept
        (congrArg Prod.snd (Request.event_check book.engine book.sheet book.world formula c))
  | evaluate formula =>
      refine fetchesWeb_of_fetches
        (congrArg Prod.snd (Request.event_evaluate book.engine book.sheet book.world formula))
        (Engine.evaluate_fetches book.sheet recorded formula) ?_
      rintro (⟨text, error, ⟨⟩, unread⟩ | refused)
      · exact kept_of_isQuiet (Engine.evaluate_isQuiet_of_error unread book.sheet) _
      · exact absurd refused (not_isRefused fun c text => by rintro ⟨⟩)
  | display text =>
      refine fetchesWeb_of_fetches
        (congrArg Prod.snd (Request.event_display book.engine book.sheet book.world text))
        (Engine.display_fetches book.sheet recorded text) ?_
      rintro (⟨text, error, ⟨⟩, unread⟩ | refused)
      · exact kept_of_isQuiet (Engine.display_isQuiet_of_error unread book.sheet) _
      · exact absurd refused (not_isRefused fun c text => by rintro ⟨⟩)
  | enter c text =>
      have entered := Request.event_enter book.engine book.sheet book.world c text
      refine fetchesWeb_of_fetches entered.1 (Engine.enter_fetches book.sheet recorded c text) ?_
      rintro (⟨text, error, ⟨⟩, unread⟩ | ⟨c, text, failure, ⟨⟩, failed, refusal⟩)
      · exact kept_of_isQuiet (Engine.enter_isQuiet_of_error unread book.sheet c) _
      · exact Engine.enter_kept_of_refused recorded (Prod.ext (entered.2 failure failed) rfl) refusal

/-- An instruction keeps the registry as it has to be. -/
theorem step_isRecorded (recorded : book.engine.registry.IsRecorded)
    (h : ∀ name f, instruction = .register name f → f.IsLocal) :
    (book.step instruction).after.engine.registry.IsRecorded := by
  cases instruction with
  | register name f => exact recorded.register name (h name f rfl)
  | enter | evaluate | display | check => exact recorded

/-- Every address that a run fetches is one of the web, and no step fetches anything whose text is no
formula, or whose formula is refused. -/
theorem fetches_web (recorded : book.engine.registry.IsRecorded)
    (instructions : List (Instruction (σ × List String)))
    (registered : ∀ name f, .register name f ∈ instructions → f.IsLocal) :
    (∀ step ∈ book.steps instructions, step.FetchesWeb) ∧
      ∃ urls, (book.final instructions).world.2 = book.world.2 ++ urls ∧ ∀ url ∈ urls, IsWebUrl url := by
  induction instructions generalizing book with
  | nil => exact ⟨by simp [steps], [], by rw [List.append_nil]; rfl, by simp⟩
  | cons instruction rest ih =>
      have first := step_fetches recorded instruction
      have next := step_isRecorded recorded fun name f same =>
        registered name f (same ▸ List.mem_cons_self)
      obtain ⟨others, later, laterLogged, laterWeb⟩ :=
        ih next fun name f mem => registered name f (List.mem_cons_of_mem _ mem)
      refine ⟨fun step mem => ?_, ?_⟩
      · rcases List.mem_cons.1 mem with rfl | behind
        · exact first
        · exact others step behind
      · obtain ⟨urls, logged, web, _⟩ := first
        refine ⟨urls ++ later, ?_, fun url mem => ?_⟩
        · rw [final, List.foldl_cons, ← final, laterLogged, logged, List.append_assoc]
          rfl
        · rcases List.mem_append.1 mem with early | late
          · exact web url early
          · exact laterWeb url late

/-- A workbook that keeps a record of what it fetches, with `B1` a formula about `A1`. -/
def watched : Workbook (Unit × List String) where
  engine := { registry := { world := World.still.recorded } }
  sheet := Sheet.linked
  world := ((), [])

/-- A function that gives always the same, an address put together from it, a formula that breaks off, one
that would close a cycle, and an address of no web. -/
theorem fetches_web_mixed :
    let instructions : List (Instruction (Unit × List String)) :=
      [.register "Page" (Function.computed fun _ => .ok (.text "/page ")),
        .enter ⟨0, 1⟩ "=GET(\" HTTP://a.b\" & page())", .evaluate "=GET(\"http://c.d\"",
        .enter ⟨0, 1⟩ "=GET(\"http://c.d\") & B1", .display "=GET(\"file://c.d\")"]
    watched.engine.registry.IsRecorded ∧
      (∀ name f, .register name f ∈ instructions → f.IsLocal) ∧
      (∀ step ∈ watched.steps instructions, step.FetchesWeb) ∧
      (watched.final instructions).world.2 = ["HTTP://a.b/page"] ∧ IsWebUrl "HTTP://a.b/page" := by
  intro instructions
  have recorded : watched.engine.registry.IsRecorded :=
    ⟨⟨World.still, rfl⟩, fun entry mem => absurd mem List.not_mem_nil⟩
  have registered : ∀ name f, .register name f ∈ instructions → f.IsLocal := by
    intro name f mem
    simp only [instructions, List.mem_cons, reduceCtorEq, List.not_mem_nil, or_false,
      Instruction.register.injEq] at mem
    obtain ⟨_, rfl⟩ := mem
    exact ⟨fun args before => rfl, fun args before fault after failed => by cases failed⟩
  obtain ⟨all, urls, logged, web⟩ := fetches_web recorded instructions registered
  have log : (watched.final instructions).world.2 = ["HTTP://a.b/page"] := by
    decide +kernel
  refine ⟨recorded, registered, all, log, web _ ?_⟩
  have same : urls = ["HTTP://a.b/page"] := by
    rw [← log, logged]
    rfl
  rw [same]
  exact List.mem_singleton_self _

end Workbook

end FormulaSheet
