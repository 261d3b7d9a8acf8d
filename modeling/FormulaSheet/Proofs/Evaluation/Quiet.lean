import FormulaSheet.Proofs.Evaluation.Relation

/-!
# Evaluation that asks nothing of the world

Only `GET`, `RAND` and `RANDBETWEEN` ask the world, and functions that are registered may. A formula that
calls none of them has an outcome that does not depend on the world, and leaves the world as it is
(`IsQuiet`).

* `Registry.isComputed_of_lookup` says which functions do not ask the world.
* `Expr.evaluate_isQuiet` goes from the functions that are called in an expression to its value.
* `Engine.evaluate_isQuiet` and `Engine.cellFor_isQuiet` are the statements about formulas on a sheet.
-/

namespace FormulaSheet

variable {σ ε α β : Type}

/-- The outcome does not depend on the state of the world, which is left as it is. -/
def IsQuiet (act : ExceptT ε (StateM σ) α) : Prop :=
  ∃ result, ∀ world, act.run.run world = (result, world)

namespace IsQuiet

theorem pure (a : α) : IsQuiet (Pure.pure a : ExceptT ε (StateM σ) α) :=
  ⟨.ok a, fun _ => rfl⟩

theorem throw (e : ε) : IsQuiet (throw e : ExceptT ε (StateM σ) α) :=
  ⟨.error e, fun _ => rfl⟩

theorem mk (result : Except ε α) :
    IsQuiet (ExceptT.mk (Pure.pure result) : ExceptT ε (StateM σ) α) :=
  ⟨result, fun _ => rfl⟩

theorem bind {act : ExceptT ε (StateM σ) α} {f : α → ExceptT ε (StateM σ) β} (first : IsQuiet act)
    (later : ∀ a, IsQuiet (f a)) : IsQuiet (act >>= f) := by
  obtain ⟨result, same⟩ := first
  cases result with
  | error e =>
      exact ⟨.error e, fun world => run_bind_of_error (same world)⟩
  | ok a =>
      obtain ⟨final, same'⟩ := later a
      refine ⟨final, fun world => ?_⟩
      rw [run_bind_of_ok (same world)]
      exact same' world

/-- What a quiet action does in one state of the world it does in every one. -/
theorem run_eq {act : ExceptT ε (StateM σ) α} (h : IsQuiet act) {before after : σ}
    {result : Except ε α} (run : act.run.run before = (result, after)) (world : σ) :
    act.run.run world = (result, world) := by
  obtain ⟨known, same⟩ := h
  rw [same] at run
  cases run
  exact same world

/-- Looking at the outcome of a quiet action instead of passing its failure on. -/
theorem lift_run {ε' : Type} {act : ExceptT ε (StateM σ) α} (h : IsQuiet act) :
    IsQuiet (ExceptT.lift act.run : ExceptT ε' (StateM σ) (Except ε α)) := by
  obtain ⟨result, same⟩ := h
  refine ⟨.ok result, fun world => ?_⟩
  rw [ExceptT.run_lift, StateT.run_map, same]
  rfl

theorem map_run {γ : Type} {act : ExceptT ε (StateM σ) α} (h : IsQuiet act)
    (f : Except ε α → Except ε γ) :
    IsQuiet (ExceptT.mk (f <$> act.run) : ExceptT ε (StateM σ) γ) := by
  obtain ⟨result, same⟩ := h
  refine ⟨f result, fun world => ?_⟩
  rw [ExceptT.run_mk, StateT.run_map, same]
  rfl

theorem mapM {f : α → ExceptT ε (StateM σ) β} (h : ∀ a, IsQuiet (f a)) (as : List α) :
    IsQuiet (as.mapM f) := by
  induction as with
  | nil =>
      rw [List.mapM_nil]
      exact pure []
  | cons a rest ih =>
      rw [List.mapM_cons]
      exact (h a).bind fun b => ih.bind fun others => pure (b :: others)

end IsQuiet

/-! ### Functions -/

/-- The names of the functions that ask the world. -/
def Builtin.askingNames : List String :=
  ["GET", "RAND", "RANDBETWEEN"]

/-- A function whose result depends on its arguments only. -/
def SheetFunction.IsComputed (f : SheetFunction σ) : Prop :=
  ∀ args, IsQuiet (f args)

theorem Function.isComputed_computed (f : List Value → Except CallFault Value) :
    SheetFunction.IsComputed (Function.computed f : SheetFunction σ) :=
  fun args => IsQuiet.mk ((f args).map Returned.value)

theorem Builtin.isComputed_run (world : World σ) {b : Builtin} (h : b.name ∉ askingNames) :
    SheetFunction.IsComputed (b.run world) := by
  cases b with
  | random | randomBetween | get => exact absurd (by decide) h
  | _ => exact Function.isComputed_computed _

theorem Builtin.name_of_ofName? {key : String} {b : Builtin} (h : ofName? key = some b) :
    b.name = key := by
  unfold ofName? at h
  simpa using List.find?_some h

/-- The results of all registered functions depend on their arguments only. -/
def Registry.IsComputed (registry : Registry σ) : Prop :=
  ∀ entry ∈ registry.registered, SheetFunction.IsComputed entry.2

theorem Registry.isComputed_of_lookup {registry : Registry σ} (custom : registry.IsComputed)
    {name : String} (h : key name ∉ Builtin.askingNames) {f : SheetFunction σ}
    (found : registry.lookup name = some f) : f.IsComputed := by
  unfold lookup at found
  cases own : registry.registered.lookup (key name) with
  | some g =>
      rw [own] at found
      cases found
      obtain ⟨later, earlier, split, _⟩ := List.lookup_eq_some_iff.1 own
      exact custom (key name, f) (split ▸ List.mem_append_right later List.mem_cons_self)
  | none =>
      rw [own] at found
      obtain ⟨b, named, rfl⟩ := Option.map_eq_some_iff.1 found
      rw [← Builtin.name_of_ofName? named] at h
      exact Builtin.isComputed_run registry.world h

/-! ### Expressions -/

theorem IsQuiet.compositional :
    Action.Relation.Compositional (fun _ act _ => IsQuiet act : Action.Relation σ) where
  pure := IsQuiet.pure
  throw _ := IsQuiet.throw _
  bind first later := first.bind later

namespace Context

variable (ctx : Context σ)

theorem readReference_isQuiet (cells : ∀ c, IsQuiet (ctx.readCell c)) (ref : String) :
    IsQuiet (ctx.readReference ref) := by
  unfold readReference
  split
  · exact IsQuiet.throw _
  · exact IsQuiet.throw _
  · exact cells _

theorem longRange_isQuiet (start finish : String) (size : Int) :
    IsQuiet (ctx.longRange start finish size : Action σ α) := by
  unfold longRange
  split
  · exact IsQuiet.throw _
  · exact IsQuiet.throw _

theorem readRange_isQuiet (cells : ∀ c, IsQuiet (ctx.readCell c)) (start finish : String) :
    IsQuiet (ctx.readRange start finish) := by
  unfold readRange
  split
  · exact IsQuiet.throw _
  · split
    · exact longRange_isQuiet ..
    · exact IsQuiet.mapM cells _

theorem descend_isQuiet {act : Nat → Action σ α} {depth : Nat} (h : IsQuiet (act (depth + 1))) :
    IsQuiet (ctx.descend depth act) := by
  unfold descend
  split
  · exact IsQuiet.throw _
  · exact h

theorem valueOf_isQuiet (name : String) (returned : Returned) :
    IsQuiet (valueOf name returned : Action σ Value) := by
  unfold valueOf
  split
  · exact IsQuiet.pure _
  · exact IsQuiet.mk _
  · dsimp only
    split
    · exact IsQuiet.throw _
    · exact IsQuiet.mk _

theorem callFunction_isQuiet (name : String) {f : SheetFunction σ} (h : f.IsComputed)
    (args : List Value) : IsQuiet (callFunction name f args) := by
  refine (h args).lift_run.bind fun result => ?_
  cases result with
  | error fault => exact IsQuiet.throw _
  | ok returned => exact valueOf_isQuiet name returned

end Context

/-- An expression asks nothing of the world if its cells are read without doing so, and all functions
that are called in it compute their results. -/
theorem Expr.evaluate_isQuiet {ctx : Context σ} (cells : ∀ c, IsQuiet (ctx.readCell c)) {e : Expr}
    (functions : ∀ name ∈ e.calls, ∀ f, ctx.function? name = some f → f.IsComputed) :
    IsQuiet (e.evaluate ctx) := by
  -- The context is compared with itself, by the relation that the first of two actions is quiet.
  have related : ctx.Related (fun _ act _ => IsQuiet act) ctx e.singles e.rangeArguments e.calls :=
    { compositional := IsQuiet.compositional
      reference := fun ref _ => ctx.readReference_isQuiet cells ref
      range := fun start finish _ => ctx.readRange_isQuiet cells start finish
      functions := rfl
      call := fun name mem f found args =>
        Context.callFunction_isQuiet name (functions name mem f found) args
      descend := fun depth h => ctx.descend_isQuiet h }
  exact e.evaluate_related related (List.Subset.refl _) (List.Subset.refl _) (List.Subset.refl _)

/-! ### Formulas on a sheet -/

namespace Engine

variable {engine : Engine σ} {text : String}

/-- A formula calls none of the functions that ask the world. A text that is no formula calls nothing. -/
def AsksNothing (engine : Engine σ) (text : String) : Prop :=
  ∀ e, engine.parseFormula text = .ok e → ∀ name ∈ e.calls,
    Registry.key name ∉ Builtin.askingNames

instance (engine : Engine σ) (text : String) : Decidable (engine.AsksNothing text) :=
  match parsed : engine.parseFormula text with
  | .error _ => isTrue fun e same => by
    rw [parsed] at same
    cases same
  | .ok e => decidable_of_iff (∀ name ∈ e.calls, Registry.key name ∉ Builtin.askingNames)
    ⟨fun all other same => by
      rw [parsed] at same
      cases same
      exact all, fun asks => asks e parsed⟩

variable (custom : engine.registry.IsComputed) (asks : engine.AsksNothing text)
include custom asks

theorem evaluate_isQuiet (sheet : Sheet) : IsQuiet (engine.evaluate sheet text) := by
  unfold evaluate
  cases parsed : engine.parseFormula text with
  | error error => exact IsQuiet.throw _
  | ok e =>
      have cells : ∀ c, IsQuiet ((engine.context sheet).readCell c) := fun c =>
        ⟨.ok (Value.ofCellText (sheet.get c).value), fun _ => rfl⟩
      exact e.evaluate_isQuiet cells fun name mem f found =>
        Registry.isComputed_of_lookup custom (asks e parsed name mem) found

theorem display_isQuiet (sheet : Sheet) : IsQuiet (engine.display sheet text) := by
  unfold display
  split
  · exact IsQuiet.pure _
  · exact (evaluate_isQuiet custom asks sheet).map_run shown

omit asks in
/-- The cell for a formula that asks nothing, or for a text that is no formula, is made quietly. -/
theorem cellFor_isQuiet (asks : (formulaBody? text).isSome = true → engine.AsksNothing text)
    (sheet : Sheet) (c : Coord) : IsQuiet (engine.cellFor sheet c text) := by
  unfold cellFor
  split
  · exact IsQuiet.pure _
  · next marked =>
    have quiet := display_isQuiet custom (asks (by rw [marked, Option.isSome_some])) sheet
    split
    · exact IsQuiet.throw _
    · exact quiet.bind fun value => IsQuiet.pure _

end Engine

end FormulaSheet
