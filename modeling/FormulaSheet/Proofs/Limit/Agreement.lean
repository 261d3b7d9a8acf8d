import FormulaSheet.Proofs.Result

/-!
# Runs that agree unless one of them stops

A limit is a guard that stops a computation with a failure of its own. Where it does not stop it, the
computation is the one without the guard. `AgreesUnless stop` is this relation between two results, and
`Action.AgreesUnless stop` between two actions: unless the first one ends with a failure for which
`stop` holds, both have the same outcome and leave the same state of the world behind.

The relation is kept by every step that goes on after a success, as nothing catches a failure on the
way (`AgreesUnless.bind`, `Action.AgreesUnless.bind`).
-/

namespace FormulaSheet

variable {ε α β τ σ : Type}

/-- A result is another one, unless it is a failure that stops. -/
def AgreesUnless (stop : ε → Prop) (x y : Except ε α) : Prop :=
  (∃ e, x = .error e ∧ stop e) ∨ x = y

/-- The result and the state behind a run are those of another run, unless the result is a failure that
stops. -/
def RunAgreesUnless (stop : ε → Prop) (x y : Except ε α × τ) : Prop :=
  (∃ e, x.1 = .error e ∧ stop e) ∨ x = y

theorem RunAgreesUnless.result {stop : ε → Prop} {x y : Except ε α × τ}
    (h : RunAgreesUnless stop x y) : AgreesUnless stop x.1 y.1 := by
  rcases h with stopped | rfl
  · exact Or.inl stopped
  · exact Or.inr rfl

/-- An action does the same as another one in every state of the world, unless it stops there. -/
def Action.AgreesUnless (stop : Failure → Prop) (act other : Action σ α) : Prop :=
  ∀ world, RunAgreesUnless stop (act.run.run world) (other.run.run world)

namespace AgreesUnless

variable {stop : ε → Prop} {x y : Except ε α} {f g : α → Except ε β}

theorem refl (x : Except ε α) : AgreesUnless stop x x :=
  Or.inr rfl

theorem of_stop {e : ε} (h : stop e) (y : Except ε α) : AgreesUnless stop (.error e) y :=
  Or.inl ⟨e, rfl, h⟩

theorem bind (first : AgreesUnless stop x y) (later : ∀ a, AgreesUnless stop (f a) (g a)) :
    AgreesUnless stop (x >>= f) (y >>= g) := by
  rcases first with ⟨e, rfl, stopped⟩ | rfl
  · exact of_stop stopped _
  · cases x with
    | error e => exact refl _
    | ok a => exact later a

/-- After a first step that both have in common. -/
theorem bind_left (x : Except ε α) (later : ∀ a, AgreesUnless stop (f a) (g a)) :
    AgreesUnless stop (x >>= f) (x >>= g) :=
  bind (refl x) later

end AgreesUnless

namespace Action.AgreesUnless

variable {stop : Failure → Prop} {act other : Action σ α} {f g : α → Action σ β}

theorem refl (act : Action σ α) : act.AgreesUnless stop act :=
  fun _ => Or.inr rfl

theorem mono {wider : Failure → Prop} (h : act.AgreesUnless stop other)
    (sub : ∀ failure, stop failure → wider failure) : act.AgreesUnless wider other := by
  intro world
  rcases h world with ⟨failure, failed, stopped⟩ | same
  · exact Or.inl ⟨failure, failed, sub failure stopped⟩
  · exact Or.inr same

theorem of_stop {failure : Failure} (h : stop failure) (other : Action σ α) :
    Action.AgreesUnless stop (throw failure) other :=
  fun _ => Or.inl ⟨failure, rfl, h⟩

theorem bind (first : act.AgreesUnless stop other)
    (later : ∀ a, (f a).AgreesUnless stop (g a)) :
    Action.AgreesUnless stop (act >>= f) (other >>= g) := by
  intro world
  rw [ExceptT.run_bind, ExceptT.run_bind, StateT.run_bind, StateT.run_bind]
  rcases first world with ⟨failure, failed, stopped⟩ | same
  · cases result : act.run.run world with
    | mk outcome between =>
        rw [result] at failed
        cases failed
        exact Or.inl ⟨failure, rfl, stopped⟩
  · rw [same]
    cases other.run.run world with
    | mk outcome between =>
        cases outcome with
        | error failure => exact Or.inr rfl
        | ok a => exact later a between

/-- Going one level deeper keeps the relation if the first action meets its limit where the second one
does. -/
theorem descend {ctx wider : Context σ} (stops : stop (.deepExpression ctx.limits.evalDepth))
    {depth depth' : Nat}
    (earlier : wider.limits.evalDepth ≤ depth' → ctx.limits.evalDepth ≤ depth)
    {act other : Nat → Action σ α}
    (deeper : (act (depth + 1)).AgreesUnless stop (other (depth' + 1))) :
    Action.AgreesUnless stop (ctx.descend depth act) (wider.descend depth' other) := by
  unfold Context.descend
  by_cases full : ctx.limits.evalDepth ≤ depth
  · rw [if_pos full]
    exact of_stop stops _
  · rw [if_neg full, if_neg (mt earlier full)]
    exact deeper

/-- Going one level deeper keeps the relation to an action that stays where it is. -/
theorem descend_left {ctx : Context σ} (stops : stop (.deepExpression ctx.limits.evalDepth))
    {depth : Nat} {act : Nat → Action σ α} (deeper : (act (depth + 1)).AgreesUnless stop other) :
    Action.AgreesUnless stop (ctx.descend depth act) other := by
  unfold Context.descend
  split
  · exact of_stop stops other
  · exact deeper

end Action.AgreesUnless

end FormulaSheet
