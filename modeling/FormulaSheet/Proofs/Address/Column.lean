import FormulaSheet.Address.Reference
import FormulaSheet.Proofs.Text.Capital
import Mathlib.Algebra.Group.Nat.Defs
import Mathlib.Data.List.Induction

/-!
# Which texts label a column

Every non-empty run of capital letters is the label of one column, as there is no digit for zero. A label
is read after it has been put into upper case, and only then are its characters compared with the letters
from `A` to `Z`. So a text is also read as a label if it merely becomes one in upper case.

* `columnLabel_labelValue`: a run of capital letters is the label of the column that it spells.
* `pow_length_le_labelValue`: how far out the column of a long label is.
* `columnIndex?_eq_some_iff`: a text is read as the column whose label it is in upper case.
* `readsLetters_iff`: what is read are runs of letters, except for the texts that have a foreign letter
  beside letters and foreign letters.
* `readColumn_sharp_s` is a text without a letter from `A` to `Z` that is read as the column `SS`.
-/

namespace FormulaSheet
namespace Address

theorem letterValue_bounds {c : Char} (h : c.isUpper = true) :
    1 ≤ letterValue c ∧ letterValue c ≤ 26 := by
  have bounds := Text.isUpper_iff.1 h
  unfold letterValue
  omega

/-- A capital letter is the one at its place in the alphabet. -/
theorem letter_letterValue {c : Char} (h : c.isUpper = true) : letter (letterValue c - 1) = c := by
  have code : 65 + (letterValue c - 1) = c.toNat := by
    have bounds := Text.isUpper_iff.1 h
    unfold letterValue
    omega
  rw [letter, code, Char.ofNat_toNat]

theorem labelValue_pos {letters : List Char} (ne : letters ≠ [])
    (upper : ∀ c ∈ letters, c.isUpper = true) : 1 ≤ labelValue letters := by
  rw [← List.dropLast_concat_getLast ne, labelValue_concat]
  have bounds := letterValue_bounds (upper _ (List.getLast_mem ne))
  omega

/-- A run of capital letters spells no less than as many letters `A` do, whose value is the sum of the first
powers of 26. -/
theorem pow_length_le_labelValue {letters : List Char} (upper : ∀ c ∈ letters, c.isUpper = true) :
    26 ^ letters.length ≤ 25 * labelValue letters + 1 := by
  induction letters using List.reverseRecOn with
  | nil => exact Nat.le_refl 1
  | append_singleton front c ih =>
      have before := ih fun d mem => upper d (by simp [mem])
      have bounds := letterValue_bounds (upper c (by simp))
      rw [labelValue_concat, List.length_append, List.length_singleton, Nat.pow_succ]
      omega

/-- A run of capital letters is the label of the column that it spells. -/
theorem columnLabel_labelValue {letters : List Char} (ne : letters ≠ [])
    (upper : ∀ c ∈ letters, c.isUpper = true) : columnLabel (labelValue letters - 1) = letters := by
  induction letters using List.reverseRecOn with
  | nil => exact absurd rfl ne
  | append_singleton front c ih =>
      have last : c.isUpper = true := upper c (by simp)
      have bounds := letterValue_bounds last
      rw [labelValue_concat]
      by_cases single : front = []
      · subst single
        rw [labelValue_nil, columnLabel_of_lt (by omega), Nat.zero_mul, Nat.zero_add,
          letter_letterValue last]
        rfl
      · have letters : ∀ d ∈ front, d.isUpper = true := fun d mem => upper d (by simp [mem])
        have positive := labelValue_pos single letters
        have quotient : (labelValue front * 26 + letterValue c - 1) / 26 - 1 =
            labelValue front - 1 := by
          omega
        have remainder : (labelValue front * 26 + letterValue c - 1) % 26 = letterValue c - 1 := by
          omega
        rw [columnLabel_of_ge (by omega), quotient, remainder, ih single letters,
          letter_letterValue last]

/-- A text is the label of a column if it is a run of capital letters, which spells the column. -/
theorem columnLabel_eq_iff {col : Nat} {letters : List Char} :
    columnLabel col = letters ↔
      letters ≠ [] ∧ (∀ c ∈ letters, c.isUpper = true) ∧ labelValue letters - 1 = col := by
  constructor
  · rintro rfl
    refine ⟨columnLabel_ne_nil col, fun c mem => isUpper_of_mem_columnLabel mem, ?_⟩
    rw [labelValue_columnLabel, Nat.add_sub_cancel]
  · rintro ⟨ne, upper, rfl⟩
    exact columnLabel_labelValue ne upper

theorem writeColumn_eq_ok_iff {col : Int} {label : List Char} :
    writeColumn col = .ok label ↔ 0 ≤ col ∧ columnLabel col.toNat = label := by
  by_cases nonneg : 0 ≤ col
  · simp [writeColumn_of_nonneg nonneg, nonneg]
  · simp [writeColumn, nonneg, Int.not_le.1 nonneg]

/-- The column that a text is read as is the one whose label it becomes in upper case. -/
theorem columnIndex?_eq_some_iff {label : List Char} {col : Nat} :
    columnIndex? label = some col ↔ columnLabel col = Text.upper label := by
  unfold columnIndex?
  dsimp only
  rw [columnLabel_eq_iff]
  split
  · next form =>
    rw [List.all_eq_true] at form
    rw [Option.some.injEq]
    exact ⟨fun eq => ⟨form.1, form.2, eq⟩, fun h => h.2.2⟩
  · next form =>
    rw [List.all_eq_true] at form
    exact iff_of_false (by simp) fun h => form ⟨h.1, h.2.1⟩

/-- A non-empty run of letters in either case. -/
def IsLetterRun (label : List Char) : Prop :=
  label ≠ [] ∧ ∀ c ∈ label, c.isAlpha = true

/-- The column that a text is read as, among all integers. -/
def readColumn (label : List Char) : Option Int :=
  (columnIndex? label).map Int.ofNat

/-- A text is read as the column whose label it is in upper case if it is a run of letters, and is not
read otherwise. -/
structure ReadsLetters (label : List Char) : Prop where
  column : ∀ col, readColumn label = some col ↔
    IsLetterRun label ∧ writeColumn col = .ok (Text.upper label)
  otherwise : ¬ IsLetterRun label → readColumn label = none

/-- Letters and foreign letters are what texts that are read consist of. -/
theorem readColumn_eq_some_iff {label : List Char} {col : Int} :
    readColumn label = some col ↔
      label ≠ [] ∧ (∀ c ∈ label, c.isAlpha = true ∨ c.toNat ∈ Text.foreignLetters) ∧
        writeColumn col = .ok (Text.upper label) := by
  rw [writeColumn_eq_ok_iff, ← columnIndex?_eq_some_iff, readColumn, Option.map_eq_some_iff]
  constructor
  · rintro ⟨n, read, rfl⟩
    have upper := columnIndex?_eq_some_iff.1 read
    refine ⟨?_, Text.all_isUpper_upper_iff.1 ?_, Int.natCast_nonneg n, read⟩
    · rintro rfl
      exact columnLabel_ne_nil n upper
    · rw [← upper, List.all_eq_true]
      exact fun c mem => isUpper_of_mem_columnLabel mem
  · rintro ⟨_, _, nonneg, read⟩
    exact ⟨col.toNat, read, Int.toNat_of_nonneg nonneg⟩

/-- Every text that becomes a run of capital letters is read. -/
theorem exists_readColumn {label : List Char} (ne : label ≠ [])
    (letters : ∀ c ∈ label, c.isAlpha = true ∨ c.toNat ∈ Text.foreignLetters) :
    ∃ col, readColumn label = some col := by
  have upper := Text.all_isUpper_upper_iff.2 letters
  rw [List.all_eq_true] at upper
  have nonempty : Text.upper label ≠ [] := fun empty => ne (Text.upper_eq_nil_iff.1 empty)
  have read := columnIndex?_eq_some_iff.2 (columnLabel_labelValue nonempty upper)
  exact ⟨_, Option.map_eq_some_iff.2 ⟨_, read, rfl⟩⟩

/-- Labels are read by their letters, except for texts that consist of letters and foreign letters and
have a foreign letter. These are read, too, as the column whose label they are in upper case. -/
theorem readsLetters_iff (label : List Char) :
    (ReadsLetters label ↔
      ((∀ c ∈ label, c.isAlpha = true ∨ c.toNat ∈ Text.foreignLetters) →
        ∀ c ∈ label, c.isAlpha = true)) ∧
    ∀ col, readColumn label = some col ↔
      label ≠ [] ∧ (∀ c ∈ label, c.isAlpha = true ∨ c.toNat ∈ Text.foreignLetters) ∧
        writeColumn col = .ok (Text.upper label) := by
  refine ⟨⟨fun reads letters => ?_, fun pure => ?_⟩, fun col => readColumn_eq_some_iff⟩
  · by_cases empty : label = []
    · simp [empty]
    · obtain ⟨col, read⟩ := exists_readColumn empty letters
      exact ((reads.column col).1 read).1.2
  · have same : ∀ col, readColumn label = some col ↔
        IsLetterRun label ∧ writeColumn col = .ok (Text.upper label) := by
      intro col
      rw [readColumn_eq_some_iff, IsLetterRun, and_assoc]
      refine and_congr_right fun _ => and_congr_left fun _ => ⟨pure, fun letters c mem => ?_⟩
      exact Or.inl (letters c mem)
    refine ⟨same, fun other => ?_⟩
    cases read : readColumn label with
    | none => rfl
    | some col => exact absurd ((same col).1 read).1 other

/-- The sharp s is no letter from `A` to `Z`, but is read as the column `SS`. -/
theorem readColumn_sharp_s :
    readColumn ['ß'] = some 512 ∧ writeColumn 512 = .ok ['S', 'S'] ∧ ¬ IsLetterRun ['ß'] ∧
      ¬ ReadsLetters ['ß'] := by
  have read : readColumn ['ß'] = some 512 := by decide +kernel
  have other : ¬ IsLetterRun ['ß'] := by
    rintro ⟨_, letters⟩
    exact absurd (letters 'ß' List.mem_cons_self) (by decide)
  refine ⟨read, by decide +kernel, other, fun reads => ?_⟩
  rw [reads.otherwise other] at read
  cases read

end Address
end FormulaSheet
