import FormulaSheet.Function.Registry
import FormulaSheet.Proofs.Result

/-!
# Failed calls of the functions that are built in

A function that is built in fails as a computation: with a wrong number of arguments, an argument outside
of its domain, or a calculation without a result. No other failure can come out of it, so it is always
turned into a failure of the formula that calls it.

* `FailsInComputation` is kept by the steps of a computation, and `FailsOnly` by those of an action in a
  world.
* `Builtin.failsInComputation_run` is the statement about every function that is built in, those that ask
  the world included.
* `Builtin.returnsValue_run` says that none of them leaves it to the formula to make a number of an integer.
-/

namespace FormulaSheet

variable {α β σ : Type}

/-- Every failure is one of a computation. -/
def FailsInComputation (result : Except CallFault α) : Prop :=
  ∀ fault, result = .error fault → fault.category.isComputation = true

namespace FailsInComputation

theorem ok (a : α) : FailsInComputation (.ok a) := by
  rintro fault ⟨⟩

theorem error {fault : CallFault} (h : fault.category.isComputation = true) :
    FailsInComputation (.error fault : Except CallFault α) := by
  rintro _ ⟨⟩
  exact h

theorem calculated (result : Except Number.Fault α) : FailsInComputation (calculate result) := by
  cases result with
  | error fault => exact .error fault.isComputation_category
  | ok a => exact .ok a

theorem map {result : Except CallFault α} (h : FailsInComputation result) (f : α → β) :
    FailsInComputation (result.map f) := by
  cases result with
  | error fault => exact .error (h fault rfl)
  | ok a => exact .ok (f a)

theorem bind {result : Except CallFault α} {f : α → Except CallFault β}
    (first : FailsInComputation result) (later : ∀ a, FailsInComputation (f a)) :
    FailsInComputation (result >>= f) := by
  cases result with
  | error fault => exact .error (first fault rfl)
  | ok a => exact later a

theorem mapM {f : α → Except CallFault β} (h : ∀ a, FailsInComputation (f a)) (as : List α) :
    FailsInComputation (as.mapM f) := by
  induction as with
  | nil =>
      rw [List.mapM_nil]
      exact .ok []
  | cons a rest ih =>
      rw [List.mapM_cons]
      exact (h a).bind fun b => ih.bind fun others => .ok (b :: others)

end FailsInComputation

/-! ### Functions that compute their results -/

namespace Function

theorem average_fails (args : List Value) : FailsInComputation (average args) := by
  fun_cases average args
  · exact .error rfl
  · exact .ok _

theorem minimum_fails (args : List Value) : FailsInComputation (minimum args) := by
  fun_cases minimum args
  · exact .error rfl
  · exact .ok _

theorem maximum_fails (args : List Value) : FailsInComputation (maximum args) := by
  fun_cases maximum args
  · exact .error rfl
  · exact .ok _

theorem choose_fails (args : List Value) : FailsInComputation (choose args) := by
  fun_cases choose args
  · exact .ok _
  · exact .error rfl

theorem negate_fails (args : List Value) : FailsInComputation (negate args) := by
  fun_cases negate args
  · exact .ok _
  · exact .error rfl

theorem kind_fails (args : List Value) : FailsInComputation (kind args) := by
  fun_cases kind args
  · exact .ok _
  · exact .error rfl

theorem ofText_fails (name : String) (f : List Char → List Char) (args : List Value) :
    FailsInComputation (ofText name f args) := by
  fun_cases ofText name f args
  · exact .ok _
  · exact .error rfl

theorem test_fails (name : String) (holds : Value → Bool) (args : List Value) :
    FailsInComputation (test name holds args) := by
  fun_cases test name holds args
  · exact .ok _
  · exact .error rfl

theorem unary_fails (name : String) {f : Float → Except CallFault Float}
    (h : ∀ x, FailsInComputation (f x)) (args : List Value) :
    FailsInComputation (unary name f args) := by
  fun_cases unary name f args
  · exact (h _).map _
  · exact .error rfl

theorem wholeArgument_fails (arg : Value) : FailsInComputation (wholeArgument arg) :=
  .calculated _

theorem countArgument_fails (arg : Value) : FailsInComputation (countArgument arg) :=
  (wholeArgument_fails arg).map _

theorem squareRoot_fails (args : List Value) : FailsInComputation (squareRoot args) := by
  refine unary_fails _ (fun x => ?_) args
  split
  · exact .error rfl
  · exact .ok _

theorem naturalLogarithm_fails (args : List Value) : FailsInComputation (naturalLogarithm args) := by
  refine unary_fails _ (fun x => ?_) args
  split
  · exact .error rfl
  · exact .ok _

theorem logarithm_fails (args : List Value) : FailsInComputation (logarithm args) := by
  fun_cases logarithm args
  · exact .error rfl
  · exact .ok _
  · exact .error rfl
  · exact .error rfl
  · exact .ok _
  · exact .error rfl

theorem round_fails (args : List Value) : FailsInComputation (round args) := by
  fun_cases round args
  · exact (FailsInComputation.calculated _).map _
  · exact .bind (.calculated _) fun n => .bind (.calculated _) fun rounded => .ok _
  · exact .error rfl

theorem modulo_fails (args : List Value) : FailsInComputation (modulo args) := by
  fun_cases modulo args
  · exact .error rfl
  · exact (FailsInComputation.calculated _).map _
  · exact .error rfl

theorem power_fails (args : List Value) : FailsInComputation (power args) := by
  fun_cases power args
  · exact (FailsInComputation.calculated _).map _
  · exact .error rfl

theorem position_fails (needle hay : String) (start : Int) :
    FailsInComputation (position needle hay start) := by
  fun_cases position needle hay start
  · exact .error rfl
  · exact .ok _
  · exact .error rfl

theorem find_fails (args : List Value) : FailsInComputation (find args) := by
  fun_cases find args
  · exact position_fails _ _ _
  · exact (wholeArgument_fails _).bind fun i => position_fails _ _ i
  · exact .error rfl

theorem length_fails (args : List Value) : FailsInComputation (length args) := by
  fun_cases length args
  · exact .ok _
  · exact .error rfl

theorem left_fails (args : List Value) : FailsInComputation (left args) := by
  fun_cases left args
  · exact (countArgument_fails _).bind fun n => .ok _
  · exact .error rfl

theorem right_fails (args : List Value) : FailsInComputation (right args) := by
  fun_cases right args
  · exact (countArgument_fails _).bind fun n => .ok _
  · exact .error rfl

theorem middle_fails (args : List Value) : FailsInComputation (middle args) := by
  fun_cases middle args
  · exact (countArgument_fails _).bind fun i => (countArgument_fails _).bind fun n => .ok _
  · exact .error rfl

theorem substitute_fails (args : List Value) : FailsInComputation (substitute args) := by
  fun_cases substitute args
  · exact .ok _
  · exact .error rfl

theorem replace_fails (args : List Value) : FailsInComputation (replace args) := by
  fun_cases replace args
  · refine (wholeArgument_fails _).bind fun i => (wholeArgument_fails _).bind fun n => ?_
    dsimp only
    split
    · exact .error rfl
    · split
      · exact .error rfl
      · exact .ok _
  · exact .error rfl

theorem repeated_fails (args : List Value) : FailsInComputation (repeated args) := by
  fun_cases repeated args
  · refine (wholeArgument_fails _).bind fun n => ?_
    dsimp only
    split
    · exact .error rfl
    · split
      · exact .error rfl
      · split
        · exact .error rfl
        · split
          · exact .ok _
          · exact .ok _
  · exact .error rfl

theorem exact_fails (args : List Value) : FailsInComputation (exact args) := by
  fun_cases exact args
  · exact .ok _
  · exact .error rfl

theorem code_fails (args : List Value) : FailsInComputation (code args) := by
  fun_cases code args
  · exact .error rfl
  · exact .ok _
  · exact .error rfl

theorem character_fails (args : List Value) : FailsInComputation (character args) := by
  fun_cases character args
  · exact .ok _
  · exact .error rfl
  · exact .error rfl

theorem text_fails (args : List Value) : FailsInComputation (text args) := by
  fun_cases text args
  · exact .ok _
  · exact .ok _
  · exact .error rfl

theorem value_fails (args : List Value) : FailsInComputation (value args) := by
  fun_cases value args
  · exact .ok _
  · exact .ok _
  · exact .error rfl
  · exact .error rfl

theorem sparkline_fails (args : List Value) : FailsInComputation (sparkline args) := by
  fun_cases sparkline args
  · exact .error rfl
  · exact .ok _
  · exact .bind (.mapM (fun x => (FailsInComputation.calculated _).map _) _) fun drawn => .ok _

theorem webAddress_fails (arg : Value) : FailsInComputation (webAddress arg) := by
  fun_cases webAddress arg
  · exact .error rfl
  · exact .ok _
  · exact .error rfl

end Function

/-! ### Functions in a world -/

/-- Every run that fails does so with a failure, and in a state of the world, that have a property. -/
def FailsOnly {ε : Type} (P : ε → σ → Prop) (act : ExceptT ε (StateM σ) α) : Prop :=
  ∀ before failure after, act.run.run before = (.error failure, after) → P failure after

namespace FailsOnly

variable {ε : Type} {P : ε → σ → Prop}

theorem pure (a : α) : FailsOnly P (Pure.pure a : ExceptT ε (StateM σ) α) := by
  rintro before failure after ⟨⟩

theorem throw {failure : ε} (h : ∀ after, P failure after) :
    FailsOnly P (throw failure : ExceptT ε (StateM σ) α) := by
  rintro before _ after ⟨⟩
  exact h _

theorem mk {result : Except ε α} (h : ∀ failure, result = .error failure → ∀ after, P failure after) :
    FailsOnly P (ExceptT.mk (Pure.pure result) : ExceptT ε (StateM σ) α) := by
  rintro before failure after ⟨⟩
  exact h failure rfl _

theorem lift (act : StateM σ α) : FailsOnly P (ExceptT.lift act : ExceptT ε (StateM σ) α) := by
  rintro before failure after ⟨⟩

theorem bind {act : ExceptT ε (StateM σ) α} {f : α → ExceptT ε (StateM σ) β}
    (first : FailsOnly P act) (later : ∀ a, FailsOnly P (f a)) : FailsOnly P (act >>= f) := by
  intro before failure after run
  cases own : act.run.run before with
  | mk result between =>
      cases result with
      | error early =>
          rw [run_bind_of_error own] at run
          cases run
          exact first before _ _ own
      | ok a =>
          rw [run_bind_of_ok own] at run
          exact later a between failure after run

theorem mapM {f : α → ExceptT ε (StateM σ) β} (h : ∀ a, FailsOnly P (f a)) (as : List α) :
    FailsOnly P (as.mapM f) := by
  induction as with
  | nil =>
      rw [List.mapM_nil]
      exact pure []
  | cons a rest ih =>
      rw [List.mapM_cons]
      exact (h a).bind fun b => ih.bind fun others => pure (b :: others)

end FailsOnly

/-- Every failure of a call of the function is one of a computation. -/
def SheetFunction.FailsInComputation (f : SheetFunction σ) : Prop :=
  ∀ args, FailsOnly (fun fault _ => fault.category.isComputation = true) (f args)

namespace Function

theorem computed_fails {f : List Value → Except CallFault Value}
    (h : ∀ args, FailsInComputation (f args)) :
    SheetFunction.FailsInComputation (computed f : SheetFunction σ) :=
  fun args => .mk fun fault failed _ => (h args).map _ fault failed

theorem compute_fails {result : Except CallFault α} (h : FailsInComputation result) :
    FailsOnly (fun fault _ => fault.category.isComputation = true) (compute result : Call σ α) :=
  .mk fun fault failed _ => h fault failed

theorem random_fails (world : World σ) : SheetFunction.FailsInComputation (random world) := by
  intro args
  fun_cases random world args
  · exact .bind (.lift _) fun x => .pure _
  · exact .throw fun _ => rfl

theorem randomBetween_fails (world : World σ) :
    SheetFunction.FailsInComputation (randomBetween world) := by
  intro args
  fun_cases randomBetween world args
  · refine .bind (compute_fails (.calculated _)) fun low =>
      .bind (compute_fails (.calculated _)) fun high => ?_
    dsimp only
    split
    · exact .bind (.throw fun _ => rfl) fun _ => .bind (.lift _) fun n => .pure _
    · exact .bind (.lift _) fun n => .pure _
  · exact .throw fun _ => rfl

theorem get_fails (world : World σ) : SheetFunction.FailsInComputation (get world) := by
  intro args
  fun_cases get world args
  · refine .bind (compute_fails (webAddress_fails _)) fun url => .bind (.lift _) fun answer => ?_
    cases answer with
    | ok body => exact .pure _
    | error message => exact .throw fun _ => rfl
  · exact .throw fun _ => rfl

end Function

/-- Every failure of a function that is built in is one of a computation, whatever the world answers. -/
theorem Builtin.failsInComputation_run (world : World σ) (b : Builtin) :
    SheetFunction.FailsInComputation (b.run world) := by
  cases b with
  | sum | count | countFilled | all | any | concat => exact Function.computed_fails fun args => .ok _
  | upper | lower | trim | proper | clean =>
      exact Function.computed_fails (Function.ofText_fails _ _)
  | isBlank | isNumber | isText => exact Function.computed_fails (Function.test_fails _ _)
  | absolute | sign => exact Function.computed_fails (Function.unary_fails _ fun x => .ok _)
  | ceiling | floor | integer | exponential =>
      exact Function.computed_fails (Function.unary_fails _ fun x => .calculated _)
  | squareRoot => exact Function.computed_fails Function.squareRoot_fails
  | naturalLogarithm => exact Function.computed_fails Function.naturalLogarithm_fails
  | logarithm => exact Function.computed_fails Function.logarithm_fails
  | round => exact Function.computed_fails Function.round_fails
  | modulo => exact Function.computed_fails Function.modulo_fails
  | power => exact Function.computed_fails Function.power_fails
  | find => exact Function.computed_fails Function.find_fails
  | left => exact Function.computed_fails Function.left_fails
  | right => exact Function.computed_fails Function.right_fails
  | middle => exact Function.computed_fails Function.middle_fails
  | replace => exact Function.computed_fails Function.replace_fails
  | repeated => exact Function.computed_fails Function.repeated_fails
  | code => exact Function.computed_fails Function.code_fails
  | character => exact Function.computed_fails Function.character_fails
  | value | numberValue => exact Function.computed_fails Function.value_fails
  | sparkline => exact Function.computed_fails Function.sparkline_fails
  | random => exact Function.random_fails world
  | randomBetween => exact Function.randomBetween_fails world
  | get => exact Function.get_fails world
  | average => exact Function.computed_fails Function.average_fails
  | minimum => exact Function.computed_fails Function.minimum_fails
  | maximum => exact Function.computed_fails Function.maximum_fails
  | choose => exact Function.computed_fails Function.choose_fails
  | negate => exact Function.computed_fails Function.negate_fails
  | kind => exact Function.computed_fails Function.kind_fails
  | length => exact Function.computed_fails Function.length_fails
  | substitute => exact Function.computed_fails Function.substitute_fails
  | exact => exact Function.computed_fails Function.exact_fails
  | text => exact Function.computed_fails Function.text_fails

/-! ### Returned values -/

/-- The function never returns an integer that would still have to fit into a number. -/
def SheetFunction.ReturnsValue (f : SheetFunction σ) : Prop :=
  ∀ args before n after, (f args).run.run before ≠ (.ok (.integer n), after)

namespace Function

theorem computed_returnsValue (f : List Value → Except CallFault Value) :
    SheetFunction.ReturnsValue (computed f : SheetFunction σ) := by
  intro args before n after run
  rw [computed] at run
  cases result : f args with
  | error fault =>
      rw [result] at run
      cases run
  | ok v =>
      rw [result] at run
      cases run

theorem random_returnsValue (world : World σ) : SheetFunction.ReturnsValue (random world) := by
  intro args before n after run
  unfold random at run
  split at run
  · obtain ⟨x, between, _, last⟩ := run_bind_eq_ok run
    cases last
  · cases run

theorem randomBetween_returnsValue (world : World σ) :
    SheetFunction.ReturnsValue (randomBetween world) := by
  intro args before n after run
  unfold randomBetween at run
  split at run
  · obtain ⟨low, _, _, run⟩ := run_bind_eq_ok run
    obtain ⟨high, _, _, run⟩ := run_bind_eq_ok run
    dsimp only at run
    split at run
    · cases run
    · obtain ⟨drawn, _, _, last⟩ := run_bind_eq_ok run
      cases last
  · cases run

theorem get_returnsValue (world : World σ) : SheetFunction.ReturnsValue (get world) := by
  intro args before n after run
  unfold get at run
  split at run
  · obtain ⟨url, _, _, run⟩ := run_bind_eq_ok run
    obtain ⟨answer, _, _, last⟩ := run_bind_eq_ok run
    cases answer with
    | ok body => cases last
    | error message => cases last
  · cases run

end Function

/-- A function that is built in makes numbers of its integers itself. -/
theorem Builtin.returnsValue_run (world : World σ) (b : Builtin) :
    SheetFunction.ReturnsValue (b.run world) := by
  cases b with
  | random => exact Function.random_returnsValue world
  | randomBetween => exact Function.randomBetween_returnsValue world
  | get => exact Function.get_returnsValue world
  | _ => exact Function.computed_returnsValue _

end FormulaSheet
