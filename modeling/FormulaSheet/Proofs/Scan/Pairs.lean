import FormulaSheet.Proofs.Address.Range
import FormulaSheet.Proofs.Scan.Contents
import Mathlib.Data.List.Chain

/-!
# The pairs of a scan

Two references in a row with a colon between them are a range. The scan forms its pairs from left to
right, and a run that is the second one of a pair is not the first one of another. In a row of runs with
colons between them every other pair is therefore left out: of `A1:A3:A5` the scan sees the range from
`A1` to `A3` only.

* `HasRuns` says what the runs of a text are, without the algorithm.
* `mem_rangePairs_iff`: a pair is formed if the number of colons in a row in front of it is even.
* `scanReferences_listsPairs` says which cells are listed, and that all pairs are seen in a text in which
  no run stands between two colons.
* `not_listsAllPairs_three` is a text in which one does.
-/

namespace FormulaSheet

open Address (reference? rangeCells Rect)

/-- A text has some runs of letters and digits, behind a front without any. -/
def HasRuns (cs : List Char) (rs : List Run) : Prop :=
  ∃ front tail, cs = front ++ tail ∧ (∀ c ∈ front, c.isAlphanum = false) ∧ SplitsInto tail rs

theorem hasRuns_iff {cs : List Char} {rs : List Run} : HasRuns cs rs ↔ runs cs = rs := by
  constructor
  · rintro ⟨front, tail, rfl, outside, split⟩
    exact runs_append_of_splitsInto split outside
  · rintro rfl
    exact splitsInto_runs cs

/-- A colon with nothing but blanks around it. -/
def IsColon (gap : List Char) : Prop :=
  ∃ before behind, gap = before ++ ':' :: behind ∧ (∀ b ∈ before, Text.isBlank b = true) ∧
    ∀ b ∈ behind, Text.isBlank b = true

theorem isRangeGap_iff {gap : List Char} : isRangeGap gap = true ↔ IsColon gap := by
  constructor
  · intro colon
    obtain ⟨before, behind, split, front, back⟩ := Text.exists_around_strip gap
    rw [beq_iff_eq.1 colon, List.append_assoc, List.singleton_append] at split
    exact ⟨before, behind, split, front, back⟩
  · rintro ⟨before, behind, rfl, front, back⟩
    exact isRangeGap_of_blanks front back

/-! ### Which pairs are formed -/

/-- How many runs in a row at the end of some runs have a colon behind them. -/
def colonsAtEnd (front : List Run) : Nat :=
  (front.reverse.takeWhile fun run => isRangeGap run.gap).length

theorem colonsAtEnd_le (front : List Run) : colonsAtEnd front ≤ front.length := by
  rw [colonsAtEnd, ← front.length_reverse]
  exact (List.takeWhile_sublist _).length_le

/-- One more run in front counts if it has a colon behind it and all the others count. -/
theorem colonsAtEnd_cons (run : Run) (front : List Run) :
    colonsAtEnd (run :: front) =
      if colonsAtEnd front = front.length ∧ isRangeGap run.gap = true then front.length + 1
      else colonsAtEnd front := by
  rw [colonsAtEnd, List.reverse_cons, List.takeWhile_append, List.length_reverse, ← colonsAtEnd]
  by_cases all : colonsAtEnd front = front.length
  · rw [if_pos all]
    cases gap : isRangeGap run.gap with
    | false => simp [gap, all]
    | true => simp [gap, all]
  · rw [if_neg all, if_neg fun both => all both.1]
    rfl

/-- A run without a colon behind it changes nothing. -/
theorem colonsAtEnd_cons_of_not {run : Run} (h : isRangeGap run.gap = false) (front : List Run) :
    colonsAtEnd (run :: front) = colonsAtEnd front := by
  rw [colonsAtEnd_cons, h]
  exact if_neg fun both => Bool.false_ne_true both.2

/-- Two runs with a colon between them change nothing in the parity. -/
theorem colonsAtEnd_cons_cons {first : Run} (h : isRangeGap first.gap = true) (second : Run)
    (front : List Run) : colonsAtEnd (first :: second :: front) % 2 = colonsAtEnd front % 2 := by
  have bound := colonsAtEnd_le front
  rw [colonsAtEnd_cons first, colonsAtEnd_cons second, List.length_cons]
  by_cases all : colonsAtEnd front = front.length ∧ isRangeGap second.gap = true
  · rw [if_pos all, if_pos ⟨rfl, h⟩, all.1]
    omega
  · rw [if_neg all, if_neg]
    omega

/-- A pair of runs is formed if there is a colon between them and the number of colons in a row in front
of them is even. -/
theorem mem_rangePairs_iff {rs : List Run} {pair : List Char × List Char} :
    pair ∈ rangePairs rs ↔
      ∃ front x y back, rs = front ++ x :: y :: back ∧ isRangeGap x.gap = true ∧
        colonsAtEnd front % 2 = 0 ∧ pair = (x.word, y.word) := by
  fun_induction rangePairs rs with
  | case1 first second rest gap ih =>
      rw [List.mem_cons, ih]
      constructor
      · rintro (rfl | ⟨front, x, y, back, rfl, colon, even, rfl⟩)
        · exact ⟨[], first, second, rest, rfl, gap, rfl, rfl⟩
        · refine ⟨first :: second :: front, x, y, back, rfl, colon, ?_, rfl⟩
          rw [colonsAtEnd_cons_cons gap, even]
      · rintro ⟨front, x, y, back, split, colon, even, rfl⟩
        cases front with
        | nil =>
            cases split
            exact Or.inl rfl
        | cons run front =>
            cases front with
            | nil =>
                -- The second run of the pair that is formed here is not the first one of another.
                cases split
                simp [colonsAtEnd, gap] at even
            | cons other front =>
                cases split
                rw [colonsAtEnd_cons_cons gap] at even
                exact Or.inr ⟨front, x, y, back, rfl, colon, even, rfl⟩
  | case2 first second rest gap ih =>
      rw [Bool.not_eq_true] at gap
      rw [ih]
      constructor
      · rintro ⟨front, x, y, back, split, colon, even, rfl⟩
        refine ⟨first :: front, x, y, back, congrArg (first :: ·) split, colon, ?_, rfl⟩
        rw [colonsAtEnd_cons_of_not gap, even]
      · rintro ⟨front, x, y, back, split, colon, even, rfl⟩
        cases front with
        | nil =>
            cases split
            rw [gap] at colon
            cases colon
        | cons run front =>
            rw [List.cons_append] at split
            obtain ⟨rfl, behind⟩ := List.cons.inj split
            rw [colonsAtEnd_cons_of_not gap] at even
            exact ⟨front, x, y, back, behind, colon, even, rfl⟩
  | case3 short noPair =>
      constructor
      · intro mem
        cases mem
      · rintro ⟨front, x, y, back, rfl, _⟩
        cases front with
        | nil => exact (noPair x y back rfl).elim
        | cons run front =>
            cases front with
            | nil => exact (noPair run x (y :: back) rfl).elim
            | cons other front => exact (noPair run other (front ++ x :: y :: back) rfl).elim

/-! ### Which cells are listed -/

/-- One of some runs is the reference of a cell. -/
def Names (rs : List Run) (c : Coord) : Prop :=
  ∃ run ∈ rs, reference? run.word = .ok (some c)

/-- Two runs are references, and a cell is between them and inside the bounds. -/
def Spans (bounds : Option Bounds) (x y : Run) (c : Coord) : Prop :=
  ∃ cells, rangeCells (String.ofList x.word) (String.ofList y.word) bounds = .ok cells ∧ c ∈ cells

/-- Cells without repetition that are named by a run or spanned by any two runs in a row with a colon
between them. -/
structure ListsAllPairs (rs : List Run) (bounds : Option Bounds) (cells : List Coord) : Prop where
  nodup : cells.Nodup
  mem_iff : ∀ c, c ∈ cells ↔
    Names rs c ∨ ∃ x y, [x, y] <:+: rs ∧ IsColon x.gap ∧ Spans bounds x y c

theorem spans_iff {bounds : Option Bounds} {x y : Run} {c : Coord} :
    Spans bounds x y c ↔ ∃ r, pairRect? (x.word, y.word) = .ok (some r) ∧ c ∈ r.cellsWithin bounds := by
  constructor
  · rintro ⟨cells, listed, mem⟩
    obtain ⟨r, spanned, rfl⟩ := map_eq_ok.1 listed
    obtain ⟨a, b, first, last, rfl⟩ := Address.exists_corners_of_rect spanned
    rw [String.toList_ofList] at first last
    exact ⟨_, pairRect?_eq_some_iff.2 ⟨a, b, first, last, rfl⟩, mem⟩
  · rintro ⟨r, spanned, mem⟩
    obtain ⟨a, b, first, last, rfl⟩ := pairRect?_eq_some_iff.1 spanned
    rw [← String.toList_ofList (l := x.word)] at first
    rw [← String.toList_ofList (l := y.word)] at last
    exact ⟨_, map_eq_ok.2 ⟨_, Address.rect_eq_ok first last, rfl⟩, mem⟩

/-- A scan lists the cells of the runs and of the pairs that are formed. -/
theorem mem_scanReferences_iff {text : String} {bounds : Option Bounds} {cells : List Coord}
    (scanned : scanReferences text bounds = .ok cells) (c : Coord) :
    c ∈ cells ↔ Names (runs text.toList) c ∨
      ∃ front x y back, runs text.toList = front ++ x :: y :: back ∧ isRangeGap x.gap = true ∧
        colonsAtEnd front % 2 = 0 ∧ Spans bounds x y c := by
  rw [scanReferences_eq_map] at scanned
  obtain ⟨parts, found, rfl⟩ := map_eq_ok.1 scanned
  rw [mem_listParts, mem_fst_scanParts found]
  refine or_congr_right ⟨?_, ?_⟩
  · rintro ⟨r, listed, inside⟩
    obtain ⟨pair, mem, spanned⟩ := (mem_snd_scanParts found).1 listed
    obtain ⟨front, x, y, back, split, colon, even, rfl⟩ := mem_rangePairs_iff.1 mem
    exact ⟨front, x, y, back, split, colon, even, spans_iff.2 ⟨r, spanned, inside⟩⟩
  · rintro ⟨front, x, y, back, split, colon, even, spans⟩
    obtain ⟨r, spanned, inside⟩ := spans_iff.1 spans
    have mem := mem_rangePairs_iff.2 ⟨front, x, y, back, split, colon, even, rfl⟩
    exact ⟨r, (mem_snd_scanParts found).2 ⟨_, mem, spanned⟩, inside⟩

theorem nodup_of_scanReferences {text : String} {bounds : Option Bounds} {cells : List Coord}
    (scanned : scanReferences text bounds = .ok cells) : cells.Nodup := by
  rw [scanReferences_eq_map] at scanned
  obtain ⟨parts, _, rfl⟩ := map_eq_ok.1 scanned
  exact Coord.nodup_distinct _

/-- None of some runs stands between two colons. -/
def NoneBetweenColons (rs : List Run) : Prop :=
  rs.IsChain fun x y => isRangeGap x.gap = true → isRangeGap y.gap = false

instance (rs : List Run) : Decidable (NoneBetweenColons rs) :=
  inferInstanceAs (Decidable (rs.IsChain _))

/-- Where no run stands between two colons, there is no colon in front of a pair. -/
theorem NoneBetweenColons.colonsAtEnd_eq_zero {front back : List Run} {x y : Run}
    (h : NoneBetweenColons (front ++ x :: y :: back)) (colon : isRangeGap x.gap = true) :
    colonsAtEnd front = 0 := by
  rcases List.eq_nil_or_concat front with rfl | ⟨others, last, rfl⟩
  · rfl
  · rw [List.concat_eq_append, List.append_assoc, List.singleton_append] at h
    have beside := List.isChain_iff_forall_rel_of_append_cons_cons.1 h rfl
    have other : isRangeGap last.gap = false := by
      rw [← Bool.not_eq_true]
      intro first
      rw [beside first] at colon
      cases colon
    rw [List.concat_eq_append]
    simp [colonsAtEnd, other]

/-- The scan of a text without overlong runs of digits lists, each once, the cells that its runs name and
the cells of its ranges. Two references in a row with a colon between them are a range of the scan if the
number of colons in a row in front of them is even. They all are if no run stands between two colons. -/
theorem scanReferences_listsPairs {text : String} (short : ShortDigits text.toList) {rs : List Run}
    (split : HasRuns text.toList rs) (bounds : Option Bounds) :
    ∃ cells, scanReferences text bounds = .ok cells ∧ cells.Nodup ∧
      (∀ c, c ∈ cells ↔ Names rs c ∨
        ∃ front x y back, rs = front ++ x :: y :: back ∧ IsColon x.gap ∧
          colonsAtEnd front % 2 = 0 ∧ Spans bounds x y c) ∧
      (NoneBetweenColons rs → ListsAllPairs rs bounds cells) := by
  obtain ⟨cells, scanned⟩ := short.exists_scan bounds
  obtain rfl := hasRuns_iff.1 split
  have nodup := nodup_of_scanReferences scanned
  have mem_iff := mem_scanReferences_iff scanned
  simp only [isRangeGap_iff] at mem_iff
  refine ⟨cells, scanned, nodup, mem_iff, fun apart => ⟨nodup, fun c => (mem_iff c).trans ?_⟩⟩
  refine or_congr_right ⟨?_, ?_⟩
  · rintro ⟨front, x, y, back, found, colon, _, spans⟩
    exact ⟨x, y, ⟨front, back, by simp [found]⟩, colon, spans⟩
  · rintro ⟨x, y, ⟨front, back, found⟩, colon, spans⟩
    have found : runs text.toList = front ++ x :: y :: back := by simp [← found]
    rw [found] at apart
    have zero := apart.colonsAtEnd_eq_zero (isRangeGap_iff.2 colon)
    exact ⟨front, x, y, back, found, colon, by rw [zero], spans⟩

/-- Ranges in a formula and in a text literal, cut down to two rows. -/
theorem scanReferences_listsPairs_apart :
    let text := "=SUM(A1 : B2, c2:A2) & \"D1:d4\""
    ShortDigits text.toList ∧ HasRuns text.toList (runs text.toList) ∧
      NoneBetweenColons (runs text.toList) ∧
      ∃ cells, scanReferences text (some ⟨2, 26⟩) = .ok cells ∧
        ListsAllPairs (runs text.toList) (some ⟨2, 26⟩) cells := by
  intro text
  have short : ShortDigits text.toList := fun ds inside _ => inside.length_le.trans (by decide)
  have split : HasRuns text.toList (runs text.toList) := hasRuns_iff.2 rfl
  have apart : NoneBetweenColons (runs text.toList) := by decide +kernel
  obtain ⟨cells, scanned, _, _, all⟩ := scanReferences_listsPairs short split (some ⟨2, 26⟩)
  exact ⟨short, split, apart, cells, scanned, all apart⟩

/-- Three references in a row: `A4` is in the range of the last two, and the scan does not list it. -/
theorem not_listsAllPairs_three :
    ShortDigits "A1:A3:A5".toList ∧
      HasRuns "A1:A3:A5".toList
        [⟨['A', '1'], [':']⟩, ⟨['A', '3'], [':']⟩, ⟨['A', '5'], []⟩] ∧
      ∃ cells, scanReferences "A1:A3:A5" none = .ok cells ∧
        ¬ ListsAllPairs [⟨['A', '1'], [':']⟩, ⟨['A', '3'], [':']⟩, ⟨['A', '5'], []⟩] none cells := by
  have short : ShortDigits "A1:A3:A5".toList := fun ds inside _ =>
    inside.length_le.trans (by decide)
  have scanned : scanReferences "A1:A3:A5" none =
      .ok [⟨0, 0⟩, ⟨2, 0⟩, ⟨4, 0⟩, ⟨1, 0⟩] := by
    decide +kernel
  refine ⟨short, hasRuns_iff.2 (by decide +kernel), _, scanned, fun lists => ?_⟩
  have spanned : rangeCells "A3" "A5" none = .ok [⟨2, 0⟩, ⟨3, 0⟩, ⟨4, 0⟩] := by decide +kernel
  have listed := (lists.mem_iff ⟨3, 0⟩).2 (Or.inr ⟨⟨['A', '3'], [':']⟩, ⟨['A', '5'], []⟩,
    ⟨[⟨['A', '1'], [':']⟩], [], rfl⟩, isRangeGap_iff.1 (by decide), _, spanned, by decide⟩)
  exact absurd listed (by decide)

end FormulaSheet
