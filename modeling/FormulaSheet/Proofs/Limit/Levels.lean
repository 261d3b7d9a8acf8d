import FormulaSheet.Proofs.Evaluation.Containment
import FormulaSheet.Proofs.Grammar.Soundness

/-!
# Levels of evaluation

How many levels an expression goes down while it is evaluated is a property of its tree (`Expr.levels`).
The grammar bounds it by the nesting of the text: a chain of operators stays on its level however long it
is, so between two things nested in each other there are at most seven levels. These are one for each of
the five levels of operators, one for the power, and one for what is nested.

* `Derives.levels_le` is the bound for every phrase.
* `Expr.node_keeps` says that evaluation comes to the limit of levels only where the levels of the tree do.
* `Engine.evaluate_keeps_of_parse` has both together for formulas that are read.
-/

namespace FormulaSheet

variable {σ : Type}

mutual

/-- How many levels evaluation goes down from the level of a node. -/
def Expr.levels : Expr → Nat
  | .unary _ operand => operand.levels + 1
  | .binary op left right =>
    max (if op != .power && left.isChained then left.levels else left.levels + 1)
      (right.levels + 1)
  | .call _ args => Expr.levelsAmong args
  | _ => 0

/-- How many levels evaluation goes down from the level of a call to its arguments. -/
def Expr.levelsAmong : List Expr → Nat
  | [] => 0
  | arg :: rest => max (arg.levels + 1) (Expr.levelsAmong rest)

end

/-! ### Levels and nesting -/

theorem Expr.levelsAmong_le {args : List Expr} {bound : Nat}
    (h : ∀ arg ∈ args, arg.levels + 1 ≤ bound) : Expr.levelsAmong args ≤ bound := by
  induction args with
  | nil => exact Nat.zero_le _
  | cons arg rest ih =>
      rw [Expr.levelsAmong]
      have first := h arg List.mem_cons_self
      have others := ih fun other mem => h other (List.mem_cons_of_mem arg mem)
      exact Nat.max_le.2 ⟨first, others⟩

/-- The bound on the levels of a phrase with at most `n` levels of nesting. An operand of a chain that is
no chain itself does not take up a level for any of the levels of operators. -/
def Phrase.Bounds (n : Nat) (e : Expr) : Phrase → Prop
  | levels ls => e.levels ≤ 7 * n + ls.length ∧ (e.isChained = false → e.levels ≤ 7 * n)
  | signed => e.levels ≤ 7 * n - 1
  | primary => e.levels ≤ 7 * n - 1

/-- A chain is one level above its operands, but not above a chain that it goes on with. -/
theorem Expr.levels_chain {op : BinaryOp} (h : op ≠ .power) {left right : Expr} {bound : Nat}
    (first : left.levels ≤ bound + 1) (operand : left.isChained = false → left.levels ≤ bound)
    (second : right.levels ≤ bound) : (Expr.binary op left right).levels ≤ bound + 1 := by
  have other : (op != .power) = true := by simpa using h
  rw [levels, other, Bool.true_and]
  cases chained : left.isChained with
  | true => exact Nat.max_le.2 ⟨first, Nat.succ_le_succ second⟩
  | false => exact Nat.max_le.2 ⟨Nat.succ_le_succ (operand chained), Nat.succ_le_succ second⟩

theorem Expr.levels_power (left right : Expr) :
    (Expr.binary .power left right).levels = max (left.levels + 1) (right.levels + 1) := by
  rw [levels]
  rfl

/-- The levels of an expression are bounded by the nesting of its tokens, however many there are. -/
theorem Derives.levels_le {n : Nat} {phrase : Phrase} {ts : List Token} {e : Expr}
    (h : Derives n phrase ts e) : phrase.Bounds n e := by
  induction h with
  | tighter h ih => exact ⟨Nat.le_succ_of_le ih.1, ih.2⟩
  | @chained n l ls ts us s op e f left symbol right ihLeft ihRight =>
      have other := Level.operator?_ne_power symbol
      refine ⟨Expr.levels_chain other ihLeft.1 (fun operand => ?_) ihRight.1, fun unchained => ?_⟩
      · exact (ihLeft.2 operand).trans (Nat.le_add_right _ _)
      · simp [Expr.isChained, other] at unchained
  | base h ih =>
      have bound := ih.trans (Nat.sub_le _ 1)
      exact ⟨bound, fun _ => bound⟩
  | @power n ts us e f left right ihLeft ihRight =>
      have first : e.levels ≤ 7 * (n + 1) - 1 := ihLeft
      have second : f.levels ≤ 7 * n := ihRight.1
      have bound : (Expr.binary .power e f).levels ≤ 7 * (n + 1) := by
        rw [Expr.levels_power]
        omega
      exact ⟨bound, fun _ => bound⟩
  | operand h ih => exact ih
  | @sign n s sign ts e symbol h ih =>
      have inner : e.levels ≤ 7 * n - 1 := ih
      change e.levels + 1 ≤ 7 * (n + 1) - 1
      omega
  | number x => exact Nat.zero_le _
  | text s => exact Nat.zero_le _
  | cell ref => exact Nat.zero_le _
  | range start finish => exact Nat.zero_le _
  | @parens n ts e h ih =>
      have inner : e.levels ≤ 7 * n + 5 := ih.1
      change e.levels ≤ 7 * (n + 1) - 1
      omega
  | @call n ident args h ih =>
      refine Expr.levelsAmong_le fun arg mem => ?_
      obtain ⟨pair, part, rfl⟩ := List.mem_map.1 mem
      have inner : pair.2.levels ≤ 7 * n + 5 := (ih pair part).1
      omega

/-! ### Levels and evaluation -/

/-- An action does not fail at a limit of depth. -/
abbrev KeepsDepth {α : Type} (act : Action σ α) : Prop :=
  FailsOnly (fun failure _ => failure.category ≠ .depth) act

/-- No registered function fails as if a limit of depth had been reached. -/
def Registry.KeepsDepth (registry : Registry σ) : Prop :=
  ∀ entry ∈ registry.registered, ∀ args,
    FailsOnly (fun fault _ => fault.category ≠ .depth) (entry.2 args)

theorem Registry.keepsDepth_of_lookup {registry : Registry σ} (custom : registry.KeepsDepth)
    {name : String} {f : SheetFunction σ} (found : registry.lookup name = some f)
    (args : List Value) : FailsOnly (fun fault _ => fault.category ≠ .depth) (f args) := by
  rcases registered_or_builtin found with own | ⟨b, rfl⟩
  · obtain ⟨later, earlier, split, _⟩ := List.lookup_eq_some_iff.1 own
    exact custom (key name, f) (split ▸ List.mem_append_right later List.mem_cons_self) args
  · intro before fault after run deep
    have computation : fault.category.isComputation = true :=
      b.failsInComputation_run registry.world args before fault after run
    rw [deep] at computation
    cases computation

namespace Context

variable (ctx : Context σ)

theorem ofEval_keeps {α : Type} (result : Except EvalFault α) :
    KeepsDepth (ofEval result : Action σ α) := by
  cases result with
  | error fault => exact .throw fun after => by rintro ⟨⟩
  | ok a => exact .pure a

theorem readReference_keeps (ref : String) : KeepsDepth (ctx.readReference ref) := by
  unfold readReference
  split
  · exact .throw fun after => by rintro ⟨⟩
  · exact .throw fun after => by rintro ⟨⟩
  · exact ctx.readCell_fails _ _

theorem readRange_keeps (start finish : String) : KeepsDepth (ctx.readRange start finish) := by
  unfold readRange
  split
  · exact .throw fun after => by rintro ⟨⟩
  · split
    · unfold longRange
      split
      · exact .throw fun after => by rintro ⟨⟩
      · exact .throw fun after => by rintro ⟨⟩
    · exact .mapM (fun c => ctx.readCell_fails _ c) _

/-- There is room for one more level. -/
theorem descend_keeps {α : Type} {act : Nat → Action σ α} (depth : Nat)
    (room : ((depth + 1 : Nat) : Int) ≤ ctx.limits.evalDepth) (h : KeepsDepth (act (depth + 1))) :
    KeepsDepth (ctx.descend depth act) := by
  rw [descend, if_neg (by omega)]
  exact h

theorem callFailure_keeps (name : String) {fault : CallFault} (h : fault.category ≠ .depth) :
    (callFailure name fault).category ≠ .depth := by
  unfold callFailure
  split
  · rintro ⟨⟩
  · exact h

theorem valueOf_keeps (name : String) (returned : Returned) :
    KeepsDepth (valueOf name returned : Action σ Value) := by
  unfold valueOf
  split
  · exact .pure _
  · exact ofEval_keeps _
  · dsimp only
    split
    · exact .throw fun after => by rintro ⟨⟩
    · exact ofEval_keeps _

theorem callFunction_keeps (name : String) {f : SheetFunction σ} {args : List Value}
    (h : FailsOnly (fun fault _ => fault.category ≠ .depth) (f args)) :
    KeepsDepth (callFunction name f args) := by
  intro before failure after run
  rw [run_callFunction] at run
  cases outcome : (f args).run.run before with
  | mk result between =>
      rw [outcome] at run
      cases result with
      | error fault =>
          cases run
          exact callFailure_keeps name (h before fault _ outcome)
      | ok returned => exact valueOf_keeps name returned between failure after run

end Context

mutual

/-- A node whose levels are within the limit is evaluated without coming to it. -/
theorem Expr.node_keeps {engine : Engine σ} (custom : engine.registry.KeepsDepth) (sheet : Sheet)
    (e : Expr) (depth : Nat) (room : ((depth + e.levels : Nat) : Int) ≤ engine.limits.evalDepth) :
    KeepsDepth (e.node (engine.context sheet) depth) := by
  cases e with
  | number x => exact .pure _
  | text s => exact .pure _
  | cell ref => exact Context.readReference_keeps _ ref
  | range start finish => exact .throw fun after => by rintro ⟨⟩
  | unary sign operand =>
      rw [Expr.levels] at room
      have inner := operand.node_keeps custom sheet (depth + 1) (by omega)
      exact ((engine.context sheet).descend_keeps depth (Int.le_trans (by omega) room) inner).bind
        fun v => Context.ofEval_keeps _
  | binary op left right =>
      rw [Expr.levels] at room
      have second := (engine.context sheet).descend_keeps depth
        (Int.le_trans (by omega) room) (right.node_keeps custom sheet (depth + 1) (by omega))
      rw [Expr.node]
      split
      · next stays =>
        rw [if_pos stays] at room
        have first := left.node_keeps custom sheet depth (by omega)
        exact first.bind fun v => second.bind fun w => Context.ofEval_keeps _
      · next deeper =>
        rw [if_neg deeper] at room
        have first := (engine.context sheet).descend_keeps depth
          (Int.le_trans (by omega) room) (left.node_keeps custom sheet (depth + 1) (by omega))
        exact first.bind fun v => second.bind fun w => Context.ofEval_keeps _
  | call name args =>
      rw [Expr.levels] at room
      rw [Expr.node]
      split
      · exact .throw fun after => by rintro ⟨⟩
      · next f found =>
        exact (Expr.argumentValues_keeps custom sheet args depth room).bind fun values =>
          Context.callFunction_keeps name (Registry.keepsDepth_of_lookup custom found values)

/-- Arguments whose levels are within the limit are evaluated without coming to it. -/
theorem Expr.argumentValues_keeps {engine : Engine σ} (custom : engine.registry.KeepsDepth)
    (sheet : Sheet) (args : List Expr) (depth : Nat)
    (room : ((depth + Expr.levelsAmong args : Nat) : Int) ≤ engine.limits.evalDepth) :
    KeepsDepth (Expr.argumentValues (engine.context sheet) args depth) := by
  cases args with
  | nil => exact .pure _
  | cons arg rest =>
      rw [Expr.levelsAmong] at room
      have others := Expr.argumentValues_keeps custom sheet rest depth (by omega)
      rcases arg.isRange_or with ⟨start, finish, rfl⟩ | single
      · rw [Expr.argumentValues]
        exact (Context.readRange_keeps _ start finish).bind fun values =>
          others.bind fun others => .pure _
      · have value := (engine.context sheet).descend_keeps depth
          (Int.le_trans (by omega) room) (arg.node_keeps custom sheet (depth + 1) (by omega))
        rw [Expr.argumentValues_cons _ single]
        exact value.bind fun v => others.bind fun others => .pure _

end

namespace Engine

/-- A text of any length with at most `n` levels of nesting is evaluated without coming to the limit of
levels if that is at least `7 * n + 6`, unless a registered function fails as if it had. -/
theorem evaluate_keeps_of_parse (engine : Engine σ) (sheet : Sheet) {n : Nat} {text : String} {e : Expr}
    (parsed : parse n text = .ok e) (room : 7 * (n : Int) + 6 ≤ engine.limits.evalDepth)
    (custom : engine.registry.KeepsDepth) : KeepsDepth (e.evaluate (engine.context sheet)) := by
  have derived : Derives n .expression _ e := derives_of_parse parsed
  have bound : e.levels ≤ 7 * n + 5 := derived.levels_le.1
  exact (engine.context sheet).descend_keeps 0 (Int.le_trans (by omega) room)
    (e.node_keeps custom sheet 1 (Int.le_trans (by omega) room))

/-- All levels of operators on both sides of a call, for which one level less is not enough. -/
theorem evaluate_keeps_of_parse_tight :
    let text := "1 = 1 < 1 + 1 & 1 * SUM(1 = 1 < 1 + 1 & 1 * 1) ^ 2"
    let within (levels : Int) : Engine Unit := { plain with limits := { evalDepth := levels } }
    (∃ e, parse (1 : Nat) text = .ok e ∧
        KeepsDepth (e.evaluate ((within 13).context Sheet.linked))) ∧
      (((within 12).evaluate Sheet.linked text).run.run ()).1 = .error (.deepExpression 12) := by
  intro text within
  refine ⟨?_, by decide +kernel⟩
  have isOk : (parse (1 : Nat) text).isOk = true := by decide +kernel
  cases parsed : parse (1 : Nat) text with
  | error error =>
      rw [parsed] at isOk
      cases isOk
  | ok e =>
      refine ⟨e, rfl, (within 13).evaluate_keeps_of_parse Sheet.linked parsed (by decide) ?_⟩
      intro entry mem
      cases mem

end Engine

end FormulaSheet
