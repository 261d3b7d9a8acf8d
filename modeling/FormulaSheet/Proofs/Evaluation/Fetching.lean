import FormulaSheet.Proofs.Evaluation.Containment
import FormulaSheet.Proofs.Evaluation.Quiet
import FormulaSheet.Proofs.Web.Address

/-!
# What an evaluation fetches

A world that keeps a record of the addresses that it is asked for shows what an evaluation fetches. `GET` is
the only function that is built in and asks for an address, and it asks for the one that has passed its test.
With registered functions that fetch nothing by themselves, every address in the record is therefore one of
the web, whatever expressions and cells it was put together from.

* `Fetches` says of an action which addresses it adds to the record; it is kept when actions follow each
  other.
* `Builtin.fetches_run` is the step for the functions that are built in, with `GET` as the only case.
* `Expr.evaluate_fetches` and `Engine.enter_fetches` carry it through expressions and formulas.
-/

namespace FormulaSheet

variable {σ τ ε α β : Type}

/-! ### Worlds with a record -/

/-- The world, with the addresses that it was asked for beside its own state, the latest one last. -/
def World.recorded (world : World σ) : World (σ × List String) where
  fetch url := fun state => Prod.map id (·, state.2 ++ [url]) ((world.fetch url).run state.1)
  random := fun state => Prod.map id (·, state.2) (world.random.run state.1)
  between low high := fun state => Prod.map id (·, state.2) ((world.between low high).run state.1)

/-- All addresses that an action adds to the record have a property. -/
def Fetches (P : String → Prop) (act : ExceptT ε (StateM (σ × List String)) α) : Prop :=
  ∀ before, ∃ urls, (act.run.run before).2.2 = before.2 ++ urls ∧ ∀ url ∈ urls, P url

namespace Fetches

variable {P : String → Prop}

theorem of_kept {act : ExceptT ε (StateM (σ × List String)) α}
    (h : ∀ before, (act.run.run before).2.2 = before.2) : Fetches P act := by
  intro before
  exact ⟨[], by rw [h, List.append_nil], by simp⟩

theorem of_isQuiet {act : ExceptT ε (StateM (σ × List String)) α} (h : IsQuiet act) : Fetches P act := by
  obtain ⟨result, same⟩ := h
  exact of_kept fun before => by rw [same]

theorem bind {act : ExceptT ε (StateM (σ × List String)) α}
    {f : α → ExceptT ε (StateM (σ × List String)) β} (first : Fetches P act)
    (later : ∀ a, Fetches P (f a)) : Fetches P (act >>= f) := by
  intro before
  obtain ⟨urls, logged, all⟩ := first before
  cases run : act.run.run before with
  | mk result between =>
      rw [run] at logged
      cases result with
      | error failure =>
          rw [run_bind_of_error run]
          exact ⟨urls, logged, all⟩
      | ok a =>
          obtain ⟨more, logged', all'⟩ := later a between
          rw [run_bind_of_ok run]
          refine ⟨urls ++ more, by rw [logged', logged, List.append_assoc], fun url mem => ?_⟩
          rcases List.mem_append.1 mem with early | late
          · exact all url early
          · exact all' url late

theorem lift {act : StateM (σ × List String) α}
    (h : ∀ before, ∃ urls, (act.run before).2.2 = before.2 ++ urls ∧ ∀ url ∈ urls, P url) :
    Fetches P (ExceptT.lift act : ExceptT ε (StateM (σ × List String)) α) :=
  h

/-- Looking at the outcome of an action instead of passing its failure on. -/
theorem lift_run {ε' : Type} {act : ExceptT ε (StateM (σ × List String)) α} (h : Fetches P act) :
    Fetches P (ExceptT.lift act.run : ExceptT ε' (StateM (σ × List String)) (Except ε α)) :=
  h

theorem map_run {γ : Type} {act : ExceptT ε (StateM (σ × List String)) α} (h : Fetches P act)
    (f : Except ε α → Except ε γ) :
    Fetches P (ExceptT.mk (f <$> act.run) : ExceptT ε (StateM (σ × List String)) γ) :=
  h

end Fetches

/-! ### Functions -/

/-- A function that fetches nothing by itself, and whose failures are not about a position. -/
structure SheetFunction.IsLocal (f : SheetFunction (σ × List String)) : Prop where
  record : ∀ args before, ((f args).run.run before).2.2 = before.2
  failure : ∀ args, FailsOnly (fun fault _ => fault.category ≠ .position) (f args)

/-- A registry whose world keeps a record, and whose registered functions fetch nothing by themselves. -/
structure Registry.IsRecorded (registry : Registry (σ × List String)) : Prop where
  world : ∃ world : World σ, registry.world = world.recorded
  registered : ∀ entry ∈ registry.registered, SheetFunction.IsLocal entry.2

namespace Function

theorem compute_ok_bind {a : α} {f : α → Call σ β} : (compute (.ok a) >>= f) = f a := rfl

theorem random_fetches (world : World σ) (args : List Value) :
    Fetches IsWebUrl (random world.recorded args) := by
  fun_cases random world.recorded args
  · exact .bind (.lift fun before => ⟨[], by rw [List.append_nil]; rfl, by simp⟩) fun x =>
      .of_isQuiet (.pure _)
  · exact .of_isQuiet (.throw _)

theorem randomBetween_fetches (world : World σ) (args : List Value) :
    Fetches IsWebUrl (randomBetween world.recorded args) := by
  fun_cases randomBetween world.recorded args
  · refine .bind (.of_isQuiet (.mk _)) fun low => .bind (.of_isQuiet (.mk _)) fun high => ?_
    have draw : Fetches IsWebUrl (do
        let n ← (world.recorded.between low high : StateM (σ × List String) Int)
        return .value (.number (Number.ofInteger n)) : Call (σ × List String) Returned) :=
      .bind (.lift fun before => ⟨[], by rw [List.append_nil]; rfl, by simp⟩) fun n =>
        .of_isQuiet (.pure _)
    dsimp only
    split
    · exact .bind (.of_isQuiet (.throw _)) fun _ => draw
    · exact draw
  · exact .of_isQuiet (.throw _)

/-- `GET` asks for the address that has passed its test, and for nothing if there is none. -/
theorem get_fetches (world : World σ) (args : List Value) :
    Fetches IsWebUrl (get world.recorded args) := by
  fun_cases get world.recorded args
  · next arg =>
    cases address : webAddress arg with
    | error fault => exact .of_isQuiet ⟨.error fault, fun before => rfl⟩
    | ok url =>
        have asked : Fetches IsWebUrl (ExceptT.lift (world.recorded.fetch url) :
            Call (σ × List String) (Except String String)) :=
          .lift fun before => ⟨[url], rfl, fun other mem =>
            List.mem_singleton.1 mem ▸ isWebUrl_of_webAddress address⟩
        rw [compute_ok_bind]
        refine asked.bind fun answer => ?_
        cases answer with
        | ok body => exact .of_isQuiet (.pure _)
        | error message => exact .of_isQuiet (.throw _)
  · exact .of_isQuiet (.throw _)

end Function

/-- A function that is built in fetches addresses of the web only. -/
theorem Builtin.fetches_run (world : World σ) (b : Builtin) (args : List Value) :
    Fetches IsWebUrl (b.run world.recorded args) := by
  cases b with
  | random => exact Function.random_fetches world args
  | randomBetween => exact Function.randomBetween_fetches world args
  | get => exact Function.get_fetches world args
  | _ => exact .of_isQuiet (Function.isComputed_computed _ args)

namespace Registry

variable {registry : Registry (σ × List String)} {name : String}
  {f : SheetFunction (σ × List String)}

theorem IsRecorded.isLocal_of_lookup (recorded : registry.IsRecorded)
    (own : registry.registered.lookup (key name) = some f) : f.IsLocal := by
  obtain ⟨later, earlier, split, _⟩ := List.lookup_eq_some_iff.1 own
  exact recorded.registered (key name, f) (split ▸ List.mem_append_right later List.mem_cons_self)

theorem IsRecorded.fetches_of_lookup (recorded : registry.IsRecorded)
    (found : registry.lookup name = some f) (args : List Value) : Fetches IsWebUrl (f args) := by
  rcases registered_or_builtin found with own | ⟨b, rfl⟩
  · exact .of_kept fun before => (recorded.isLocal_of_lookup own).record args before
  · obtain ⟨world, same⟩ := recorded.world
    rw [same]
    exact b.fetches_run world args

/-- Registering such a function keeps the registry as it has to be. -/
theorem IsRecorded.register (recorded : registry.IsRecorded) (name : String) (h : f.IsLocal) :
    (registry.register name f).IsRecorded where
  world := recorded.world
  registered entry mem := by
    rcases List.mem_cons.1 mem with rfl | mem
    · exact h
    · exact recorded.registered entry mem

end Registry

/-! ### Expressions and formulas -/

theorem Fetches.compositional (P : String → Prop) :
    Action.Relation.Compositional
      (fun _ act _ => Fetches P act : Action.Relation (σ × List String)) where
  pure a := .of_isQuiet (.pure a)
  throw _ := .of_isQuiet (.throw _)
  bind first later := first.bind later

namespace Context

theorem callFunction_fetches {P : String → Prop} (name : String) {f : SheetFunction (σ × List String)}
    {args : List Value} (h : Fetches P (f args)) : Fetches P (callFunction name f args) := by
  refine h.lift_run.bind fun result => ?_
  cases result with
  | error fault => exact .of_isQuiet (.throw _)
  | ok returned => exact .of_isQuiet (valueOf_isQuiet name returned)

theorem descend_fetches {P : String → Prop} (ctx : Context (σ × List String)) (depth : Nat)
    {act : Nat → Action (σ × List String) α} (h : Fetches P (act (depth + 1))) :
    Fetches P (ctx.descend depth act) := by
  unfold descend
  split
  · exact .of_isQuiet (.throw _)
  · exact h

end Context

variable {engine : Engine (σ × List String)}

/-- What an expression fetches are addresses of the web. -/
theorem Expr.evaluate_fetches (recorded : engine.registry.IsRecorded) (sheet : Sheet) (e : Expr) :
    Fetches IsWebUrl (e.evaluate (engine.context sheet)) := by
  have cells : ∀ c, IsQuiet ((engine.context sheet).readCell c) := fun c =>
    ⟨.ok (Value.ofCellText (sheet.get c).value), fun _ => rfl⟩
  -- The context is compared with itself, by the relation that the first of two actions fetches so.
  have related : (engine.context sheet).Related (fun _ act _ => Fetches IsWebUrl act)
      (engine.context sheet) e.singles e.rangeArguments e.calls :=
    { compositional := Fetches.compositional IsWebUrl
      reference := fun ref _ => .of_isQuiet (Context.readReference_isQuiet _ cells ref)
      range := fun start finish _ => .of_isQuiet (Context.readRange_isQuiet _ cells start finish)
      functions := rfl
      call := fun name _ f found args =>
        Context.callFunction_fetches name (recorded.fetches_of_lookup found args)
      descend := fun depth h => Context.descend_fetches _ depth h }
  exact e.evaluate_related related (List.Subset.refl _) (List.Subset.refl _) (List.Subset.refl _)

namespace Engine

variable (sheet : Sheet) {text : String}

theorem evaluate_fetches (recorded : engine.registry.IsRecorded) (text : String) :
    Fetches IsWebUrl (engine.evaluate sheet text) := by
  unfold evaluate
  cases engine.parseFormula text with
  | error error => exact .of_isQuiet (.throw _)
  | ok e => exact e.evaluate_fetches recorded sheet

theorem display_fetches (recorded : engine.registry.IsRecorded) (text : String) :
    Fetches IsWebUrl (engine.display sheet text) := by
  unfold display
  split
  · exact .of_isQuiet (.pure _)
  · exact (evaluate_fetches sheet recorded text).map_run shown

theorem cellFor_fetches (recorded : engine.registry.IsRecorded) (c : Coord) (text : String) :
    Fetches IsWebUrl (engine.cellFor sheet c text) := by
  unfold cellFor
  split
  · exact .of_isQuiet (.pure _)
  · split
    · exact .of_isQuiet (.throw _)
    · exact (display_fetches sheet recorded text).bind fun value => .of_isQuiet (.pure _)

theorem enter_fetches (recorded : engine.registry.IsRecorded) (c : Coord) (text : String) :
    Fetches IsWebUrl (engine.enter sheet c text) := by
  unfold enter
  split
  · exact (cellFor_fetches sheet recorded c text).bind fun cell => .of_isQuiet (.pure _)
  · exact .of_isQuiet (.throw _)

end Engine

end FormulaSheet
