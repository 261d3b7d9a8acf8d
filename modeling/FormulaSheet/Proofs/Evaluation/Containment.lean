import FormulaSheet.Proofs.Evaluation.Relation
import FormulaSheet.Proofs.Function.Computation

/-!
# Failures that leave a formula

A formula that cannot be read, evaluated or brought to an end within its limits fails with a failure of
its own. There are four ways in which another failure gets out of it (`Engine.Escape`): two are integers
of too many digits, and two come from functions that are registered.

* `Context.callFunction_fails` is the step for calls, which are the only place where failures of
  functions are turned into failures of the formula.
* `Expr.evaluate_fails` carries the steps through the expression.
* `Engine.contains_failures` is the statement about formulas on a sheet, together with the text that the
  sheet shows for them.
-/

namespace FormulaSheet

open Number (digitLimit)

variable {σ : Type}

/-- Failures that belong to the formula: of its text, its evaluation or its depth. -/
def Category.isContained : Category → Bool
  | token | grammar | evaluation | depth => true
  | _ => false

/-- A failure that belongs to the formula is shown in its cell. -/
theorem Category.isFormula_of_isContained {c : Category} (h : c.isContained = true) :
    c.isFormula = true := by
  cases c with
  | token | grammar | evaluation | depth => rfl
  | cycle | fetch | argument | overflow | zeroDivision | arithmetic | position | internal => cases h

/-- A text that is no formula of the grammar fails with a failure that belongs to it. -/
theorem Failure.isContained_formula (error : SyntaxError) :
    (formula error).category.isContained = true := by
  cases error with
  | token | grammar | tooDeep => rfl

/-! ### Integers of too many digits -/

namespace Address

/-- The digits in which a reference names its row. -/
def rowDigits (ref : String) : List Char :=
  ref.toList.dropWhile Char.isAlpha

/-- A reference that cannot be read has a row number beyond the limit. -/
theorem digitLimit_lt_of_reference? {ref : String} {fault : Number.IntegerFault}
    (h : reference? ref.toList = .error fault) :
    digitLimit < (rowDigits ref).length ∧ fault = .tooLongToRead (rowDigits ref).length := by
  unfold reference? at h
  dsimp only at h
  split at h
  · rw [ofLettersAndDigits?, Number.readNatural] at h
    by_cases long : digitLimit < (rowDigits ref).length
    · rw [rowDigits] at long
      rw [if_pos long] at h
      cases h
      exact ⟨long, rfl⟩
    · rw [rowDigits] at long
      rw [if_neg long] at h
      cases value : Text.digitsValue (ref.toList.dropWhile Char.isAlpha) with
      | zero =>
          rw [value] at h
          cases h
      | succ row =>
          rw [value] at h
          cases h
  · cases h

end Address

/-- An integer that cannot be written has digits beyond the limit. -/
theorem Number.digitLimit_lt_of_writeNatural {n : Nat} {fault : IntegerFault}
    (h : writeNatural n = .error fault) :
    digitLimit < (Text.naturalDigits n).length ∧ fault = .tooLongToWrite := by
  unfold writeNatural at h
  dsimp only at h
  split at h
  · next long =>
    cases h
    exact ⟨long, rfl⟩
  · cases h

/-! ### Failures that get out -/

/-- A function that is found is one that was registered, or one that is built in. -/
theorem Registry.registered_or_builtin {registry : Registry σ} {name : String} {f : SheetFunction σ}
    (found : registry.lookup name = some f) :
    registry.registered.lookup (key name) = some f ∨ ∃ b : Builtin, f = b.run registry.world := by
  unfold lookup at found
  cases own : registry.registered.lookup (key name) with
  | some g =>
      rw [own] at found
      exact Or.inl found
  | none =>
      rw [own] at found
      obtain ⟨b, _, rfl⟩ := Option.map_eq_some_iff.1 found
      exact Or.inr ⟨b, rfl⟩

/-- The ways in which a failure that does not belong to the formula gets out of the evaluation of an
expression, which leaves a state of the world behind. -/
inductive Engine.Escape (engine : Engine σ) (e : Expr) : Failure → σ → Prop
  /-- A reference, which is no end of a range, with a row number beyond the limit. -/
  | longRow {ref : String} {after : σ} (mem : ref ∈ e.singles)
      (long : digitLimit < (Address.rowDigits ref).length) :
      Escape engine e (.integer (.tooLongToRead (Address.rowDigits ref).length)) after
  /-- A range among the arguments whose number of cells is beyond the limit of integers. -/
  | longSize {start finish : String} {r : Address.Rect} {after : σ}
      (mem : (start, finish) ∈ e.rangeArguments) (spanned : Address.rect start finish = .ok r)
      (long : digitLimit < (Text.naturalDigits r.size.natAbs).length) :
      Escape engine e (.integer .tooLongToWrite) after
  /-- A registered function that fails neither as a computation nor as a formula does. -/
  | raised {name : String} {f : SheetFunction σ} {args : List Value} {before after : σ}
      {fault : CallFault} (mem : name ∈ e.calls)
      (own : engine.registry.registered.lookup (Registry.key name) = some f)
      (run : (f args).run.run before = (.error fault, after))
      (computation : fault.category.isComputation = false)
      (contained : fault.category.isContained = false) : Escape engine e (.call fault) after
  /-- A registered function that returns an integer beyond the largest number. -/
  | largeInteger {name : String} {f : SheetFunction σ} {args : List Value} {before after : σ} {n : Int}
      (mem : name ∈ e.calls)
      (own : engine.registry.registered.lookup (Registry.key name) = some f)
      (run : (f args).run.run before = (.ok (.integer n), after))
      (large : (Number.ofInteger n).isInf = true) :
      Escape engine e (.call (.number .integerOutOfRange)) after

/-- A failure belongs to the formula, or gets out of its expression in one of the four ways. -/
def Engine.Accounted (engine : Engine σ) (e : Expr) (failure : Failure) (after : σ) : Prop :=
  failure.category.isContained = true ∨ engine.Escape e failure after

theorem FailsOnly.compositional {P : Failure → σ → Prop} (h : ∀ fault after, P (.eval fault) after) :
    Action.Relation.Compositional (fun _ act _ => FailsOnly P act : Action.Relation σ) where
  pure := FailsOnly.pure
  throw fault := FailsOnly.throw (h fault)
  bind first later := first.bind later

namespace Context

variable {engine : Engine σ} {e : Expr}

theorem readCell_fails (ctx : Context σ) (P : Failure → σ → Prop) (c : Coord) :
    FailsOnly P (ctx.readCell c) :=
  .bind (.lift _) fun _ => .pure _

theorem ofEval_fails {α : Type} (result : Except EvalFault α) :
    FailsOnly (engine.Accounted e) (ofEval result : Action σ α) := by
  cases result with
  | error fault => exact .throw fun after => Or.inl rfl
  | ok a => exact .pure a

theorem readReference_fails (ctx : Context σ) {ref : String} (mem : ref ∈ e.singles) :
    FailsOnly (engine.Accounted e) (ctx.readReference ref) := by
  unfold readReference
  split
  · next fault unread =>
    obtain ⟨long, rfl⟩ := Address.digitLimit_lt_of_reference? unread
    exact .throw fun after => Or.inr (.longRow mem long)
  · exact .throw fun after => Or.inl rfl
  · exact ctx.readCell_fails _ _

theorem readRange_fails (ctx : Context σ) {start finish : String}
    (mem : (start, finish) ∈ e.rangeArguments) :
    FailsOnly (engine.Accounted e) (ctx.readRange start finish) := by
  unfold readRange
  split
  · exact .throw fun after => Or.inl rfl
  · next r spanned =>
    split
    · unfold longRange
      split
      · next fault unwritten =>
        obtain ⟨long, rfl⟩ := Number.digitLimit_lt_of_writeNatural unwritten
        exact .throw fun after => Or.inr (.longSize mem spanned long)
      · exact .throw fun after => Or.inl rfl
    · exact .mapM (fun c => ctx.readCell_fails _ c) _

theorem descend_fails (ctx : Context σ) {α : Type} {act : Nat → Action σ α} {depth : Nat}
    (h : FailsOnly (engine.Accounted e) (act (depth + 1))) :
    FailsOnly (engine.Accounted e) (ctx.descend depth act) := by
  unfold descend
  split
  · exact .throw fun after => Or.inl rfl
  · exact h

/-- What becomes of the outcome of a function. -/
theorem run_callFunction (name : String) (f : SheetFunction σ) (args : List Value) (before : σ) :
    (callFunction name f args).run.run before =
      match (f args).run.run before with
      | (.error fault, after) => (.error (callFailure name fault), after)
      | (.ok returned, after) => (valueOf name returned).run.run after := by
  have called : (liftM (f args).run : Action σ _).run.run before =
      (.ok ((f args).run.run before).1, ((f args).run.run before).2) := rfl
  unfold callFunction
  rw [run_bind_of_ok called]
  rcases (f args).run.run before with ⟨result, after⟩
  cases result with
  | error fault => rfl
  | ok returned => rfl

section Call

variable {name : String} {f : SheetFunction σ} (mem : name ∈ e.calls)
  (found : engine.registry.lookup name = some f) {args : List Value} {before after : σ}
include mem found

/-- The failure of a call belongs to the formula unless a registered function brought it about. -/
theorem accounted_callFailure {fault : CallFault}
    (outcome : (f args).run.run before = (.error fault, after)) :
    engine.Accounted e (callFailure name fault) after := by
  unfold callFailure
  split
  · exact Or.inl rfl
  · next other =>
    rcases Registry.registered_or_builtin found with own | ⟨b, rfl⟩
    · by_cases contained : fault.category.isContained = true
      · exact Or.inl contained
      · rw [Bool.not_eq_true] at other contained
        exact Or.inr (.raised mem own outcome other contained)
    · exact absurd (b.failsInComputation_run _ args before fault after outcome) other

/-- What a function returned is a value, or fails in the formula, unless a registered function returned
too large an integer. -/
theorem accounted_valueOf {returned : Returned}
    (outcome : (f args).run.run before = (.ok returned, after)) {failure : Failure} {last : σ}
    (run : (valueOf name returned : Action σ Value).run.run after = (.error failure, last)) :
    engine.Accounted e failure last := by
  cases returned with
  | value v =>
      cases v with
      | text s => cases run
      | number x => exact ofEval_fails _ after failure last run
  | integer n =>
      unfold valueOf at run
      dsimp only at run
      split at run
      · next large =>
        cases run
        rcases Registry.registered_or_builtin found with own | ⟨b, rfl⟩
        · exact Or.inr (.largeInteger mem own outcome large)
        · exact absurd outcome (b.returnsValue_run _ args before n _)
      · exact ofEval_fails _ after failure last run

/-- A failed call fails with a failure of the formula, or with one that gets out of it. -/
theorem callFunction_fails (args : List Value) :
    FailsOnly (engine.Accounted e) (callFunction name f args) := by
  intro before failure after run
  rw [run_callFunction] at run
  cases outcome : (f args).run.run before with
  | mk result between =>
      rw [outcome] at run
      cases result with
      | error fault =>
          cases run
          exact accounted_callFailure mem found outcome
      | ok returned => exact accounted_valueOf mem found outcome run

end Call

end Context

/-- A failed evaluation fails with a failure of the formula, or with one that gets out of it. -/
theorem Expr.evaluate_fails (engine : Engine σ) (sheet : Sheet) (e : Expr) :
    FailsOnly (engine.Accounted e) (e.evaluate (engine.context sheet)) := by
  -- The context is compared with itself, by the relation that the first of two actions fails so.
  have related : (engine.context sheet).Related (fun _ act _ => FailsOnly (engine.Accounted e) act)
      (engine.context sheet) e.singles e.rangeArguments e.calls :=
    { compositional := FailsOnly.compositional fun fault after => Or.inl rfl
      reference := fun ref mem => Context.readReference_fails _ mem
      range := fun start finish mem => Context.readRange_fails _ mem
      functions := rfl
      call := fun name mem f found args => Context.callFunction_fails mem found args
      descend := fun depth h => Context.descend_fails _ h }
  exact e.evaluate_related related (List.Subset.refl _) (List.Subset.refl _) (List.Subset.refl _)

/-! ### Formulas on a sheet -/

namespace Engine

variable (engine : Engine σ) (sheet : Sheet) (text : String)

/-- The evaluation of a formula, started in a state of the world, fails in one of the four ways. -/
def FailureEscapes (before : σ) : Prop :=
  ∃ e failure after, engine.parseFormula text = .ok e ∧
    (engine.evaluate sheet text).run.run before = (.error failure, after) ∧
      engine.Escape e failure after

theorem isContained_or_failureEscapes {before after : σ} {failure : Failure}
    (run : (engine.evaluate sheet text).run.run before = (.error failure, after)) :
    failure.category.isContained = true ∨
      ∃ e, engine.parseFormula text = .ok e ∧ engine.Escape e failure after := by
  have failed := run
  unfold evaluate at failed
  cases parsed : engine.parseFormula text with
  | error error =>
      rw [parsed] at failed
      cases failed
      exact Or.inl (Failure.isContained_formula error)
  | ok e =>
      rw [parsed] at failed
      rcases Expr.evaluate_fails engine sheet e before failure after failed with contained | escape
      · exact Or.inl contained
      · exact Or.inr ⟨e, rfl, escape⟩

/-- The text of a formula is made of the outcome of its evaluation. -/
theorem run_display {body : String} (h : formulaBody? text = some body) (before : σ) :
    (engine.display sheet text).run.run before =
      (shown ((engine.evaluate sheet text).run.run before).1,
        ((engine.evaluate sheet text).run.run before).2) := by
  unfold display
  rw [h]
  rfl

/-- A failed evaluation fails with a failure of the formula, unless it fails in one of the four ways in
which another one gets out. Where it does not, the sheet shows a text for every input: the error text if
the input is a formula without a value, and otherwise only if that text is the value itself. -/
theorem contains_failures (before : σ) :
    (∀ failure after, (engine.evaluate sheet text).run.run before = (.error failure, after) →
        failure.category.isContained = true ∨
          ∃ e, engine.parseFormula text = .ok e ∧ engine.Escape e failure after) ∧
      (engine.FailureEscapes sheet text before ∨
        ∃ shown after, (engine.display sheet text).run.run before = (.ok shown, after) ∧
          (shown = errorText ↔
            (formulaBody? text = none ∧ text = errorText) ∨
              ∃ body, formulaBody? text = some body ∧
                ((∃ failure, ((engine.evaluate sheet text).run.run before).1 = .error failure) ∨
                  ∃ v, ((engine.evaluate sheet text).run.run before).1 = .ok v ∧
                    v.toText = errorText))) := by
  refine ⟨fun failure after run => engine.isContained_or_failureEscapes sheet text run, ?_⟩
  cases mark : formulaBody? text with
  | none =>
      have plain : (engine.display sheet text).run.run before = (.ok text, before) := by
        unfold display
        rw [mark]
        rfl
      exact Or.inr ⟨text, before, plain, by simp⟩
  | some body =>
      have display := engine.run_display sheet text mark before
      cases outcome : (engine.evaluate sheet text).run.run before with
      | mk result after =>
          rw [outcome] at display
          cases result with
          | ok v => exact Or.inr ⟨v.toText, after, display, by simp⟩
          | error failure =>
              rcases engine.isContained_or_failureEscapes sheet text outcome with
                contained | ⟨e, parsed, escape⟩
              · have isShown : failure.isShown = true := Category.isFormula_of_isContained contained
                rw [shown, if_pos isShown] at display
                exact Or.inr ⟨errorText, after, display, by simp⟩
              · exact Or.inl ⟨e, failure, after, parsed, outcome, escape⟩

/-- An engine with a function that always fails, and not as a computation. -/
def failing : Engine Unit where
  registry := plain.registry.register "Record" fun _ => throw (.custom .internal "no record")

/-- A call of a function whose failures get out of a formula, and a division that has no result. -/
theorem contains_failures_failing :
    (∃ e, failing.parseFormula "=1 + record(2)" = .ok e ∧
        failing.Escape e (.call (.custom .internal "no record")) ()) ∧
      ∃ shown after, (failing.display Sheet.linked "=1 / A1").run.run () = (.ok shown, after) ∧
        shown = errorText := by
  have run : (failing.evaluate Sheet.linked "=1 + record(2)").run.run () =
      (.error (.call (.custom .internal "no record")), ()) :=
    Prod.ext (by decide +kernel) rfl
  have divided : (failing.evaluate Sheet.linked "=1 / A1").run.run () =
      (.error (.eval .divisionByZero), ()) :=
    Prod.ext (by decide +kernel) rfl
  refine ⟨?_, ?_⟩
  · rcases (contains_failures failing Sheet.linked "=1 + record(2)" ()).1 _ _ run with contained | escape
    · exact absurd contained (by decide)
    · exact escape
  · rcases (contains_failures failing Sheet.linked "=1 / A1" ()).2 with
      ⟨e, failure, after, parsed, failed, escape⟩ | ⟨shown, after, display, isError⟩
    · rw [divided] at failed
      cases failed
      cases escape
    · refine ⟨shown, after, display, isError.2 (Or.inr ⟨"1 / A1", by decide, Or.inl ?_⟩)⟩
      exact ⟨_, congrArg Prod.fst divided⟩

end Engine

end FormulaSheet
