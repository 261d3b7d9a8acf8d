import FormulaSheet.Formula.References
import FormulaSheet.Proofs.Lexeme.Recasing
import FormulaSheet.Proofs.Scan.Runs

/-!
# Formulas in either case

The scan of a text looks for references without regard to literals, and reads every reference in either
case. So it finds in a text what it finds in its capitals (`scanReferences_congr`), whichever letters are
in which case. The lexemes of a text, on the other hand, keep the letters of literals; outside of these
they do not depend on the case (`lexemes_congr`). `IsRecasing.sameOutcome` collects what follows for the
syntax, the references, the values and the cycles of formulas.
-/

namespace FormulaSheet

open Address (reference? reference?_map_toUpper)
open Text (toUpper_of_isAlpha_false)

/-! ### Scanning in capitals -/

/-- A run in capitals; its gap has no letters. -/
def Run.capital (run : Run) : Run :=
  { run with word := run.word.map Char.toUpper }

@[simp] theorem Run.capital_word (run : Run) : run.capital.word = run.word.map Char.toUpper := rfl

@[simp] theorem Run.capital_gap (run : Run) : run.capital.gap = run.gap := rfl

/-- What stands between runs is its own upper case. -/
theorem map_toUpper_of_gap {gap : List Char} (h : ∀ c ∈ gap, c.isAlphanum = false) :
    gap.map Char.toUpper = gap := by
  have same : gap.map Char.toUpper = gap.map id := by
    refine List.map_congr_left fun c mem => toUpper_of_isAlpha_false ?_
    have other := h c mem
    rw [Char.isAlphanum, Bool.or_eq_false_iff] at other
    exact other.1
  rw [same, List.map_id]

theorem runs_map_toUpper (cs : List Char) :
    runs (cs.map Char.toUpper) = (runs cs).map Run.capital := by
  have inside : Char.isAlphanum ∘ Char.toUpper = Char.isAlphanum := funext isAlphanum_toUpper
  have outside : (!Char.isAlphanum ·) ∘ Char.toUpper = (!Char.isAlphanum ·) :=
    funext fun c => congrArg not (isAlphanum_toUpper c)
  fun_induction runs cs with
  | case1 cs ended =>
      have ended' : (cs.map Char.toUpper).dropWhile (!Char.isAlphanum ·) = [] := by
        rw [List.dropWhile_map, outside, ended]
        rfl
      refine runs_of_front fun c mem => ?_
      simpa using List.dropWhile_eq_nil_iff.1 ended' c mem
  | case2 cs c rest found behind ih =>
      have front : (cs.map Char.toUpper).dropWhile (!Char.isAlphanum ·) =
          c.toUpper :: rest.map Char.toUpper := by
        rw [List.dropWhile_map, outside, found]
        rfl
      have gap : (behind.takeWhile (!Char.isAlphanum ·)).map Char.toUpper =
          behind.takeWhile (!Char.isAlphanum ·) :=
        map_toUpper_of_gap fun d mem => by simpa using List.mem_takeWhile_imp mem
      rw [runs_of_dropWhile front, List.dropWhile_map, List.takeWhile_map, inside, List.takeWhile_map,
        outside, ih, gap]
      rfl

theorem rangePairs_map_capital (rs : List Run) :
    rangePairs (rs.map Run.capital) =
      (rangePairs rs).map fun pair => (pair.1.map Char.toUpper, pair.2.map Char.toUpper) := by
  fun_induction rangePairs rs with
  | case1 first second rest gap ih =>
      rw [List.map_cons, List.map_cons, rangePairs, Run.capital_gap, if_pos gap, ih]
      rfl
  | case2 first second rest gap ih =>
      rw [List.map_cons, List.map_cons, rangePairs, Run.capital_gap, if_neg gap,
        ← List.map_cons, ih]
  | case3 short noPair =>
      cases short with
      | nil => rfl
      | cons first rest =>
          cases rest with
          | nil => rfl
          | cons second others => exact (noPair first second others rfl).elim

theorem pairRect?_map_toUpper (pair : List Char × List Char) :
    pairRect? (pair.1.map Char.toUpper, pair.2.map Char.toUpper) = pairRect? pair := by
  rw [pairRect?, reference?_map_toUpper, reference?_map_toUpper]
  rfl

/-- Texts that are the same in capitals refer to the same cells. -/
theorem scanReferences_congr {s t : String}
    (h : s.toList.map Char.toUpper = t.toList.map Char.toUpper) (bounds : Option Bounds) :
    scanReferences s bounds = scanReferences t bounds := by
  have capital : ∀ u : String, scanReferences u bounds =
      scanReferences (String.ofList (u.toList.map Char.toUpper)) bounds := fun u => by
    unfold scanReferences
    dsimp only
    rw [String.toList_ofList, runs_map_toUpper, rangePairs_map_capital, List.mapM_map, List.mapM_map]
    simp only [Function.comp_def, Run.capital_word, reference?_map_toUpper, pairRect?_map_toUpper]
  rw [capital s, capital t, h]

/-! ### Formulas -/

theorem IsRecasing.map_toUpper {cs ds : List Char} (h : IsRecasing cs ds) :
    cs.map Char.toUpper = ds.map Char.toUpper := by
  refine List.ext_getElem (by simpa using h.length_eq) fun i first second => ?_
  rw [List.length_map] at first second
  rw [List.getElem_map, List.getElem_map]
  rcases h.same_or i first second with same | ⟨letters, _⟩
  · rw [same]
  · exact letters.2.2

/-- Texts that are the same in capitals outside of literals have the same lexemes. -/
theorem lexemes_congr {s t : String} (h : upperOutside false s.toList = upperOutside false t.toList) :
    lexemes s = lexemes t := by
  rw [lexemes, lexemes, ← lexemesFrom_upperOutside, h, lexemesFrom_upperOutside]

theorem parse_congr {s t : String} (h : upperOutside false s.toList = upperOutside false t.toList)
    (limit : Int) : parse limit s = parse limit t := by
  rw [parse, parse, lexemes_congr h]

/-- A text without the mark of a formula, if it starts with one. -/
def withoutMark : List Char → List Char
  | '=' :: rest => rest
  | cs => cs

theorem toList_formulaBody?_getD (s : String) :
    ((formulaBody? s).getD s).toList = withoutMark s.toList := by
  unfold formulaBody?
  split
  · next rest front =>
    rw [front]
    exact String.toList_ofList
  · next other => exact (withoutMark.eq_2 _ other).symm

/-- The mark of a formula is no letter, so it stays. -/
theorem withoutMark_upperOutside (cs : List Char) :
    withoutMark (upperOutside false cs) = upperOutside false (withoutMark cs) := by
  cases cs with
  | nil => rfl
  | cons c rest =>
      by_cases mark : c = '='
      · subst mark
        rfl
      · have other : c.toUpper ≠ '=' := fun same => mark ((toUpper_eq_iff (by decide)).1 same)
        rw [upperOutside_false_cons, withoutMark, withoutMark, upperOutside_false_cons]
        · exact fun _ same => mark (List.cons.inj same).1
        · exact fun _ same => other (List.cons.inj same).1

namespace Engine

variable {σ : Type} (engine : Engine σ)

/-- The value of a formula is that of its expression. -/
theorem evaluate_congr {s t : String} (h : upperOutside false s.toList = upperOutside false t.toList)
    (sheet : Sheet) : engine.evaluate sheet s = engine.evaluate sheet t := by
  have bodies : upperOutside false ((formulaBody? s).getD s).toList =
      upperOutside false ((formulaBody? t).getD t).toList := by
    rw [toList_formulaBody?_getD, toList_formulaBody?_getD, ← withoutMark_upperOutside, h,
      withoutMark_upperOutside]
  rw [evaluate, evaluate, parseFormula, parseFormula, parse_congr bodies]

/-- The walk starts at the scanned references of a formula. -/
theorem wouldCycle_congr {s t : String} (h : s.toList.map Char.toUpper = t.toList.map Char.toUpper)
    (sheet : Sheet) (c : Coord) : engine.wouldCycle sheet s c = engine.wouldCycle sheet t c := by
  rw [wouldCycle, dependencyWalk, scanReferences_congr h]
  rfl

end Engine

/-- Letters outside of text literals may be in either case: neither the lexemes of a text, with their
positions and what stands behind them, nor its expression, its references, its value and the cycles that
it would close depend on that. -/
theorem IsRecasing.sameOutcome {s t : String} (h : IsRecasing s.toList t.toList) :
    lexemes s = lexemes t ∧
      (∀ limit, parse limit s = parse limit t) ∧
      (∀ limit bounds, (parse limit s).map (·.references bounds) =
        (parse limit t).map (·.references bounds)) ∧
      (∀ bounds, scanReferences s bounds = scanReferences t bounds) ∧
      ∀ {σ : Type} (engine : Engine σ) (sheet : Sheet),
        engine.evaluate sheet s = engine.evaluate sheet t ∧
          ∀ c, engine.wouldCycle sheet s c = engine.wouldCycle sheet t c := by
  have outside := upperOutside_eq_of_isRecasing h
  have capitals := h.map_toUpper
  refine ⟨lexemes_congr outside, parse_congr outside, fun limit bounds => ?_,
    scanReferences_congr capitals, fun engine sheet => ⟨?_, fun c => ?_⟩⟩
  · rw [parse_congr outside]
  · exact engine.evaluate_congr outside sheet
  · exact engine.wouldCycle_congr capitals sheet c

/-- A call with a range and a literal; the letters behind its doubled mark are inside of it too. -/
theorem IsRecasing.sameOutcome_call :
    IsRecasing "=sum(a1:B2)&\"x\"\"yZ\"&c3".toList "=SUM(A1:b2)&\"x\"\"yZ\"&C3".toList ∧
      ∀ {σ : Type} (engine : Engine σ) (sheet : Sheet) (c : Coord),
        engine.evaluate sheet "=sum(a1:B2)&\"x\"\"yZ\"&c3" =
            engine.evaluate sheet "=SUM(A1:b2)&\"x\"\"yZ\"&C3" ∧
          engine.wouldCycle sheet "=sum(a1:B2)&\"x\"\"yZ\"&c3" c =
            engine.wouldCycle sheet "=SUM(A1:b2)&\"x\"\"yZ\"&C3" c := by
  have recased : IsRecasing "=sum(a1:B2)&\"x\"\"yZ\"&c3".toList
      "=SUM(A1:b2)&\"x\"\"yZ\"&C3".toList := by
    decide +kernel
  obtain ⟨_, _, _, _, formulas⟩ := IsRecasing.sameOutcome recased
  exact ⟨recased, fun engine sheet c => ⟨(formulas engine sheet).1, (formulas engine sheet).2 c⟩⟩

end FormulaSheet
