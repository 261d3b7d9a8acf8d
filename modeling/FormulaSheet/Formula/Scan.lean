import FormulaSheet.Address.Range
import FormulaSheet.Text.Class

/-!
# References in the text of a formula

What a formula may depend on is found in its text, without reading it as an expression: every maximal
run of letters and digits that is a reference counts, also within a text literal or as the name of a
function. Two runs with a colon between them span a range if both are references; a run belongs to
one such pair at most, the pairs being formed from left to right. Single references come first, then
the cells of the ranges.
-/

namespace FormulaSheet

open Address (reference? Rect)

/-- A run of letters and digits, and what stands between it and the next run. -/
structure Run where
  word : List Char
  gap : List Char
  deriving DecidableEq, Repr

/-- The runs of a text, from the first character that is a letter or a digit. -/
def runs (cs : List Char) : List Run :=
  match _h : cs.dropWhile (!Char.isAlphanum ·) with
  | [] => []
  | c :: rest =>
    let behind := rest.dropWhile Char.isAlphanum
    ⟨c :: rest.takeWhile Char.isAlphanum, behind.takeWhile (!Char.isAlphanum ·)⟩ :: runs behind
termination_by cs.length
decreasing_by
  have shorter : (c :: rest).length ≤ cs.length :=
    _h ▸ (List.dropWhile_sublist _).length_le
  have behind : (rest.dropWhile Char.isAlphanum).length ≤ rest.length :=
    (List.dropWhile_sublist _).length_le
  simp only [List.length_cons] at shorter
  omega

/-- A colon with nothing but blanks around it. -/
def isRangeGap (gap : List Char) : Bool :=
  Text.strip gap == [':']

/-- The pairs of runs that span a range, if they are references. -/
def rangePairs : List Run → List (List Char × List Char)
  | first :: second :: rest =>
    if isRangeGap first.gap then (first.word, second.word) :: rangePairs rest
    else rangePairs (second :: rest)
  | _ => []

/-- The rectangle that two runs span, if both are references. -/
def pairRect? (pair : List Char × List Char) : Except Number.IntegerFault (Option Rect) := do
  match ← reference? pair.1 with
  | none => return none
  | some a =>
    match ← reference? pair.2 with
    | none => return none
    | some b => return some (Rect.ofCorners a b)

/-- The cells that the text of a formula refers to, with ranges cut down to the bounds. -/
def scanReferences (text : String) (bounds : Option Bounds) :
    Except Number.IntegerFault (List Coord) := do
  let found := runs text.toList
  let singles ← found.mapM fun run => reference? run.word
  let rects ← (rangePairs found).mapM pairRect?
  return Coord.distinct <|
    singles.filterMap id ++ (rects.filterMap id).flatMap (·.cellsWithin bounds)

end FormulaSheet
