import FormulaSheet.Proofs.Address.Range
import FormulaSheet.Proofs.Evaluation.Containment
import FormulaSheet.Proofs.Evaluation.Splice
import FormulaSheet.Proofs.Grammar.Completeness
import FormulaSheet.Proofs.Lexeme.Coverage
import FormulaSheet.Proofs.Limit.Engine

/-!
# The guard of a range

Before a range among the arguments of a call is read, its number of cells is compared with the limit. The
number comes from the corners alone, so that a range of any size is refused without a look at its cells.
But the failure has the number in its message, and an integer of too many digits cannot be written. Such a
range is refused, too, but with a failure of integers, which gets out of the formula.

* `Context.readRange_of_long` and `Context.exists_mapM_readCell` are about the two outcomes of the guard.
* `Context.Guards` is the guard as the calls of an expression see it, and `Engine.ShowsRefusal` as the
  sheet shows it.
* `Context.guards_references` is the statement for two references.
* `Expr.node_sumToFar`: a sum to a column with a label of 3100 letters.
-/

namespace FormulaSheet

open Address (reference? rangeCells rangeSize)
open Number (digitLimit)

variable {σ : Type}

/-- The failure of a range with too many cells is one of the evaluation if their number can be written. -/
theorem Limits.longRange_eq (limits : Limits) (start finish : String) (size : Nat) :
    limits.longRange start finish size =
      if size < 10 ^ digitLimit then .eval (.longRange start finish size limits.rangeCells)
      else .integer .tooLongToWrite := by
  have digits : (Text.naturalDigits size).length ≤ digitLimit ↔ size < 10 ^ digitLimit :=
    Text.length_naturalDigits_le_iff (by decide)
  unfold longRange Number.writeNatural
  rw [Int.natAbs_natCast]
  by_cases short : size < 10 ^ digitLimit
  · have few := digits.2 short
    simp [short, Nat.not_lt.2 few]
  · have many := Nat.lt_of_not_le fun few => short (digits.1 few)
    simp [short, many]

namespace Context

variable (ctx : Context σ)

/-- A range with more cells than the limit is not read. -/
theorem readRange_of_long {start finish : String} {r : Address.Rect}
    (spanned : Address.rect start finish = .ok r) (long : ctx.limits.rangeCells < r.size) :
    ctx.readRange start finish = throw (ctx.limits.longRange start finish r.size) := by
  rw [readRange, spanned, ← longRange_eq_throw]
  exact if_pos long

/-- Cells can always be read, and each of them gives one value. -/
theorem exists_mapM_readCell (cells : List Coord) (before : σ) :
    ∃ values after, (cells.mapM ctx.readCell).run.run before = (.ok values, after) ∧
      values.length = cells.length := by
  induction cells generalizing before with
  | nil => exact ⟨[], before, rfl, rfl⟩
  | cons c rest ih =>
      have first : (ctx.readCell c).run.run before =
          (.ok (Value.ofCellText ((ctx.cellText c).run before).1), ((ctx.cellText c).run before).2) :=
        rfl
      obtain ⟨values, after, later, length⟩ := ih ((ctx.cellText c).run before).2
      refine ⟨Value.ofCellText ((ctx.cellText c).run before).1 :: values, after, ?_,
        congrArg Nat.succ length⟩
      rw [List.mapM_cons, run_bind_of_ok first, run_bind_of_ok later]
      rfl

/-- The guard of a range of some cells, which is an argument behind others that have values. -/
structure Guards (start finish : String) (cells : List Coord) : Prop where
  /-- With more cells than the limit the call fails, in the state that the arguments in front of the range
  have left: no cell of the range is read, no argument behind it evaluated, and no function called. -/
  refuses : ctx.limits.rangeCells < cells.length → ∀ name f front back depth values before between,
    ctx.function? name = some f →
    (Expr.argumentValues ctx front depth).run.run before = (.ok values, between) →
      ((Expr.call name (front ++ .range start finish :: back)).node ctx depth).run.run before =
        (.error (if cells.length < 10 ^ digitLimit then
            .eval (.longRange start finish cells.length ctx.limits.rangeCells)
          else .integer .tooLongToWrite), between)
  /-- Otherwise the range stands for as many values as it has cells. -/
  contributes : cells.length ≤ ctx.limits.rangeCells → ∀ front depth values before between,
    (Expr.argumentValues ctx front depth).run.run before = (.ok values, between) →
      ∃ contributed after, (cells.mapM ctx.readCell).run.run between = (.ok contributed, after) ∧
        contributed.length = cells.length ∧ ∀ back,
          (Expr.argumentValues ctx (front ++ .range start finish :: back) depth).run.run before =
            ((fun others => values ++ contributed ++ others) <$>
              Expr.argumentValues ctx back depth).run.run after

/-- Arguments behind others that have values are evaluated in the state that these leave. -/
theorem run_argumentValues_append {front : List Expr} {depth : Nat} {values : List Value}
    {before between : σ}
    (done : (Expr.argumentValues ctx front depth).run.run before = (.ok values, between))
    (args : List Expr) :
    (Expr.argumentValues ctx (front ++ args) depth).run.run before =
      ((values ++ ·) <$> Expr.argumentValues ctx args depth).run.run between := by
  rw [Expr.argumentValues_append, run_bind_of_ok done, map_eq_pure_bind]

/-- The guard of a range works on the number of its cells, without these. -/
theorem guards_of_rect {start finish : String} {r : Address.Rect}
    (spanned : Address.rect start finish = .ok r) (size : (r.cells.length : Int) = r.size) :
    ctx.Guards start finish r.cells where
  refuses := by
    intro long name f front back depth values before between found done
    have refused : (Expr.argumentValues ctx (front ++ .range start finish :: back) depth).run.run before =
        (.error (ctx.limits.longRange start finish r.size), between) := by
      rw [ctx.run_argumentValues_append done, Expr.argumentValues,
        ctx.readRange_of_long spanned (size ▸ long)]
      rfl
    rw [Expr.node, found, ← Limits.longRange_eq, size]
    exact run_bind_of_error refused
  contributes := by
    intro short front depth values before between done
    obtain ⟨contributed, after, read, length⟩ := ctx.exists_mapM_readCell r.cells between
    refine ⟨contributed, after, read, length, fun back => ?_⟩
    rw [ctx.run_argumentValues_append done, Expr.argumentValues,
      ctx.readRange_eq_mapM spanned (size ▸ short)]
    simp only [map_eq_pure_bind, bind_assoc, pure_bind, List.append_assoc]
    exact run_bind_of_ok read

end Context

namespace Engine

variable (engine : Engine σ) (sheet : Sheet)

/-- What the sheet shows for a formula that is a call with too large a range behind arguments that have
values: the error text, unless the limit of levels admits the call and the number of cells cannot be
written. -/
def ShowsRefusal (start finish : String) (cells : List Coord) : Prop :=
  engine.limits.rangeCells < cells.length → ∀ text body name f front back values before between,
    formulaBody? text = some body →
    engine.parseFormula text = .ok (.call name (front ++ .range start finish :: back)) →
    engine.registry.lookup name = some f →
    (Expr.argumentValues (engine.context sheet) front 1).run.run before = (.ok values, between) →
      ((engine.display sheet text).run.run before).1 =
        if cells.length < 10 ^ digitLimit ∨ engine.limits.evalDepth ≤ 0 then .ok errorText
        else .error (.integer .tooLongToWrite)

variable {engine sheet} {start finish : String} {cells : List Coord}

theorem showsRefusal_of_guards (guards : (engine.context sheet).Guards start finish cells) :
    engine.ShowsRefusal sheet start finish cells := by
  intro long text body name f front back values before between marked parsed found done
  have value : engine.evaluate sheet text =
      (Expr.call name (front ++ .range start finish :: back)).evaluate (engine.context sheet) := by
    rw [evaluate, parsed]
  rw [engine.run_display sheet text marked, value, Expr.evaluate, Context.descend]
  by_cases levels : engine.limits.evalDepth ≤ 0
  · have closed : (engine.context sheet).limits.evalDepth ≤ (0 : Nat) := levels
    rw [if_pos closed, if_pos (Or.inr levels)]
    rfl
  · have admits : ¬ (engine.context sheet).limits.evalDepth ≤ (0 : Nat) := levels
    rw [if_neg admits, guards.refuses long name f front back 1 values before between found done]
    by_cases short : cells.length < 10 ^ digitLimit
    · rw [if_pos short, if_pos (Or.inl short)]
      rfl
    · rw [if_neg short, if_neg (not_or.2 ⟨short, levels⟩)]
      rfl

end Engine

/-! ### Formulas that are a call with one range -/

/-- The text of a call of a function with one range. -/
def callText (word start finish : List Char) : String :=
  String.ofList (word ++ '(' :: (start ++ ':' :: (finish ++ [')'])))

/-- A call of a function with one range is read as such. -/
theorem parse_callText {limit : Int} (positive : 0 < limit) {word start finish : List Char}
    {ident first last : String}
    (call : IsWord word) (named : Token.ofWord (word.map Char.toUpper) = .name ident)
    (front : IsWord start) (corner : Token.ofWord (start.map Char.toUpper) = .cell first)
    (back : IsWord finish) (other : Token.ofWord (finish.map Char.toUpper) = .cell last) :
    parse limit (callText word start finish) = .ok (.call ident [.range first last]) := by
  obtain ⟨n, rfl⟩ : ∃ n : Nat, limit = (n + 1 : Nat) := ⟨limit.toNat - 1, by omega⟩
  have symbol : ∀ position c s behind, Text.isBlank c = false →
      readToken c behind = .ok (.symbol s, 1) → lexemesFrom position (c :: behind) =
        (⟨.symbol s, position⟩ :: (lexemesFrom (position + 1) behind).1,
          (lexemesFrom (position + 1) behind).2) :=
    fun position c s behind printed read => lexemesFrom_cons printed read position
  have stop : ∀ c behind, isWordChar c = false → ∀ d ∈ (c :: behind).head?, isWordChar d = false := by
    rintro c behind other d ⟨⟩
    exact other
  have nothing : ∀ position, lexemesFrom position [] = ([], .complete position) := by
    intro position
    rw [lexemesFrom]
    rfl
  have read : (∃ position, (lexemes (callText word start finish)).2 = .complete position) ∧
      (lexemes (callText word start finish)).1.map Lexeme.token =
        .name ident :: .symbol .openParen ::
          separated [([.cell first, .symbol .colon, .cell last], .range first last)] ++
          [.symbol .closeParen] := by
    rw [lexemes, callText, String.toList_ofList, lexemesFrom_word call (stop _ _ (by decide)),
      symbol _ '(' .openParen _ (by decide) rfl, lexemesFrom_word front (stop _ _ (by decide)),
      symbol _ ':' .colon _ (by decide) rfl, lexemesFrom_word back (stop _ _ (by decide)),
      symbol _ ')' .closeParen _ (by decide) rfl, nothing, named, corner, other]
    exact ⟨⟨_, rfl⟩, rfl⟩
  refine parse_eq_ok_iff.2 ⟨read.1, ?_⟩
  rw [read.2, Int.toNat_natCast]
  refine Derives.primary_expression (.call ident _ fun arg mem => ?_)
  obtain rfl := List.mem_singleton.1 mem
  exact Derives.primary_expression (.range first last)

/-- A formula that is a call of a function with one range is read as such. -/
theorem Engine.parseFormula_callText (engine : Engine σ) (positive : 0 < engine.limits.parseDepth)
    {formula : String} {word start finish : List Char} {ident first last : String}
    (body : formulaBody? formula = some (callText word start finish))
    (call : IsWord word) (named : Token.ofWord (word.map Char.toUpper) = .name ident)
    (front : IsWord start) (corner : Token.ofWord (start.map Char.toUpper) = .cell first)
    (back : IsWord finish) (other : Token.ofWord (finish.map Char.toUpper) = .cell last) :
    engine.parseFormula formula = .ok (.call ident [.range first last]) := by
  rw [parseFormula, body]
  exact parse_callText positive call named front corner back other

/-! ### Two references -/

/-- A range between two references has a number of cells, which is also its size. As an argument behind
others that have values it contributes so many values if these are within the limit. Otherwise the call
fails before anything else is read, and with a failure of the evaluation if and only if the number of cells
has no more digits than an integer may. -/
theorem Context.guards_references {start finish : String} {a b : Coord}
    (first : reference? start.toList = .ok (some a)) (last : reference? finish.toList = .ok (some b)) :
    ∃ cells, rangeCells start finish none = .ok cells ∧ rangeSize start finish = .ok cells.length ∧
      (∀ ctx : Context σ, ctx.Guards start finish cells) ∧
        ∀ (engine : Engine σ) (sheet : Sheet), engine.ShowsRefusal sheet start finish cells := by
  have spanned := Address.rect_eq_ok first last
  have size : ((Address.Rect.ofCorners a b).cells.length : Int) = (Address.Rect.ofCorners a b).size :=
    Address.Rect.length_cells (Int.le_trans (Int.min_le_left ..) (Int.le_max_left ..))
      (Int.le_trans (Int.min_le_left ..) (Int.le_max_left ..))
  have guards : ∀ ctx : Context σ, ctx.Guards start finish (Address.Rect.ofCorners a b).cells :=
    fun ctx => ctx.guards_of_rect spanned size
  exact ⟨_, map_eq_ok.2 ⟨_, spanned, rfl⟩, map_eq_ok.2 ⟨_, spanned, size.symm⟩, guards,
    fun engine sheet => Engine.showsRefusal_of_guards (guards _)⟩

/-- A range of two cells between a text and a reference, under a limit of one cell and under one of two. -/
theorem Context.guards_references_reversed :
    let engine (limit : Int) : Engine Unit := { Engine.plain with limits := { rangeCells := limit } }
    let args : List Expr := [.text "x"] ++ .range "B1" "A1" :: [.cell "A1"]
    reference? "B1".toList = .ok (some ⟨0, 1⟩) ∧ reference? "A1".toList = .ok (some ⟨0, 0⟩) ∧
      ((Expr.call "CONCAT" args).node ((engine 1).context Sheet.linked) 3).run.run () =
        (.error (.eval (.longRange "B1" "A1" 2 1)), ()) ∧
      (∃ contributed : List Value, contributed.length = 2 ∧
        (Expr.argumentValues ((engine 2).context Sheet.linked) args 3).run.run () =
          ((fun others => [.text "x"] ++ contributed ++ others) <$>
            Expr.argumentValues ((engine 2).context Sheet.linked) [.cell "A1"] 3).run.run ()) ∧
      (((engine 1).display Sheet.linked "=sum(B1:A1)").run.run ()).1 = .ok errorText := by
  intro engine args
  have first : reference? "B1".toList = .ok (some ⟨0, 1⟩) := by decide +kernel
  have last : reference? "A1".toList = .ok (some ⟨0, 0⟩) := by decide +kernel
  have found : rangeCells "B1" "A1" none = .ok [⟨0, 0⟩, ⟨0, 1⟩] := by decide +kernel
  have short : ([⟨0, 0⟩, ⟨0, 1⟩] : List Coord).length < 10 ^ digitLimit :=
    Nat.lt_of_lt_of_le (by decide) (Nat.le_self_pow (by decide) 10)
  obtain ⟨cells, listed, _, guards, shows⟩ := Context.guards_references (σ := Unit) first last
  obtain rfl : cells = [⟨0, 0⟩, ⟨0, 1⟩] := Except.ok.inj (listed.symm.trans found)
  obtain ⟨concat, registered⟩ : ∃ f, (engine 1).registry.lookup "CONCAT" = some f :=
    Option.isSome_iff_exists.1 (by decide +kernel)
  obtain ⟨sum, built⟩ : ∃ f, (engine 1).registry.lookup "SUM" = some f :=
    Option.isSome_iff_exists.1 (by decide +kernel)
  have body : formulaBody? "=sum(B1:A1)" =
      some (callText ['s', 'u', 'm'] ['B', '1'] ['A', '1']) := by
    decide +kernel
  have parsed : (engine 1).parseFormula "=sum(B1:A1)" = .ok (.call "SUM" [.range "B1" "A1"]) :=
    (engine 1).parseFormula_callText (by decide) body
      (isWord_cons (by decide) (by decide)) (by decide +kernel)
      (isWord_cons (by decide) (by decide)) (by decide +kernel)
      (isWord_cons (by decide) (by decide)) (by decide +kernel)
  refine ⟨first, last, ?_, ?_, ?_⟩
  · have refused := (guards ((engine 1).context Sheet.linked)).refuses (by decide) "CONCAT" concat
      [.text "x"] [.cell "A1"] 3 [.text "x"] () () registered rfl
    rwa [if_pos short] at refused
  · obtain ⟨contributed, after, _, length, values⟩ :=
      (guards ((engine 2).context Sheet.linked)).contributes (by decide) [.text "x"] 3 [.text "x"] () () rfl
    exact ⟨contributed, length, values [.cell "A1"]⟩
  · have shown := shows (engine 1) Sheet.linked (by decide) "=sum(B1:A1)" _ "SUM" sum [] []
      [] () () body parsed built rfl
    rwa [if_pos (Or.inl short)] at shown

/-! ### A range that is too large for the message -/

namespace Address

/-- A label of 3100 letters. -/
def farLabel : List Char :=
  List.replicate 3100 'Z'

theorem isUpper_of_mem_farLabel {c : Char} (mem : c ∈ farLabel) : c.isUpper = true := by
  rw [List.eq_of_mem_replicate mem]
  decide

theorem farLabel_ne_nil : farLabel ≠ [] := by
  rw [farLabel, ne_eq, List.replicate_eq_nil_iff]
  exact Nat.succ_ne_zero 3099

/-- The column of this label is so far out that its number cannot be written. -/
theorem pow_digitLimit_le_labelValue_farLabel : 10 ^ digitLimit ≤ labelValue farLabel := by
  have far := pow_length_le_labelValue fun c mem => isUpper_of_mem_farLabel mem
  have enough : 25 * 10 ^ digitLimit + 1 ≤ 26 ^ farLabel.length := by
    have length : farLabel.length = 3100 := List.length_replicate
    rw [length]
    decide +kernel
  exact Nat.le_of_mul_le_mul_left (Nat.le_of_add_le_add_right (enough.trans far)) (by decide)

/-- The reference in the first row to the column of this label. -/
def farReference : String :=
  String.ofList (farLabel ++ ['1'])

end Address

open Address (farLabel farReference labelValue)

/-- The formula of the sum over the first row up to this reference. -/
def sumToFar : String :=
  String.ofList ('=' :: (callText ['S', 'U', 'M'] ['A', '1'] (farLabel ++ ['1'])).toList)

theorem formulaBody?_sumToFar :
    formulaBody? sumToFar = some (callText ['S', 'U', 'M'] ['A', '1'] (farLabel ++ ['1'])) := by
  rw [formulaBody?, sumToFar, String.toList_ofList]
  exact congrArg some String.ofList_toList

theorem Engine.parseFormula_sumToFar :
    plain.parseFormula sumToFar = .ok (.call "SUM" [.range "A1" farReference]) := by
  have form : IsLettersThenDigits (farLabel ++ ['1']) :=
    ⟨farLabel, ['1'], rfl, Address.farLabel_ne_nil, List.cons_ne_nil _ _,
      fun c mem => Text.isAlpha_of_isUpper (Address.isUpper_of_mem_farLabel mem), fun d mem => by
        rw [List.mem_singleton.1 mem]
        decide⟩
  have corner : Token.ofWord ((farLabel ++ ['1']).map Char.toUpper) = .cell farReference := by
    rw [Token.ofWord, if_pos (isReferenceWord_map_toUpper.2 form), List.map_append,
      Text.map_toUpper_of_isUpper fun c mem => Address.isUpper_of_mem_farLabel mem]
    rfl
  exact plain.parseFormula_callText (by decide) formulaBody?_sumToFar
    (isWord_cons (by decide) (by decide)) (by decide +kernel)
    (isWord_cons (by decide) (by decide)) (by decide +kernel) form.isWord corner

/-- The sum over a range to this reference fails, but not with a failure of the evaluation, and the sheet
shows no error text for it. -/
theorem Expr.node_sumToFar :
    ∃ size, rangeSize "A1" farReference = .ok size ∧ Engine.plain.limits.rangeCells < size ∧
      ((Expr.call "SUM" [.range "A1" farReference]).node (Engine.plain.context Sheet.linked)
        1).run.run () = (.error (.integer .tooLongToWrite), ()) ∧
      (Failure.integer .tooLongToWrite).category ≠ .evaluation ∧
      ((Engine.plain.display Sheet.linked sumToFar).run.run ()).1 ≠ .ok errorText := by
  have spanned := Address.rect_firstRow Address.farLabel_ne_nil fun c mem =>
    Address.isUpper_of_mem_farLabel mem
  have size := Address.Rect.length_cells (r := ⟨0, 0, 0, (labelValue farLabel - 1 : Nat)⟩)
    (Int.le_refl 0) (Int.natCast_nonneg _)
  have guards := (Engine.plain.context Sheet.linked).guards_of_rect spanned size
  generalize Address.Rect.cells ⟨0, 0, 0, (labelValue farLabel - 1 : Nat)⟩ = cells at size guards
  have many : 10 ^ digitLimit ≤ cells.length := by
    have far := Address.pow_digitLimit_le_labelValue_farLabel
    simp only [Address.Rect.size, Int.sub_self, Int.sub_zero, Int.zero_add, Int.one_mul] at size
    generalize 10 ^ digitLimit = bound at far ⊢
    omega
  have long : Engine.plain.limits.rangeCells < cells.length := by
    have limit : 10 ^ 7 ≤ 10 ^ digitLimit := Nat.pow_le_pow_right (by decide) (by decide)
    have above := limit.trans many
    have default : Engine.plain.limits.rangeCells = 1000000 := rfl
    omega
  obtain ⟨sum, found⟩ : ∃ f, Engine.plain.registry.lookup "SUM" = some f :=
    Option.isSome_iff_exists.1 (by decide +kernel)
  have tooMany : ¬ cells.length < 10 ^ digitLimit := Nat.not_lt.2 many
  have admits : ¬ Engine.plain.limits.evalDepth ≤ 0 := by decide
  refine ⟨cells.length, map_eq_ok.2 ⟨_, spanned, size.symm⟩, long, ?_, by decide, ?_⟩
  · have refused := guards.refuses long "SUM" sum [] [] 1 [] () () found rfl
    rwa [if_neg tooMany] at refused
  · have shown := Engine.showsRefusal_of_guards guards long sumToFar _ "SUM" sum [] [] [] () ()
      formulaBody?_sumToFar Engine.parseFormula_sumToFar found rfl
    rw [shown, if_neg (not_or.2 ⟨tooMany, admits⟩)]
    rintro ⟨⟩

end FormulaSheet
