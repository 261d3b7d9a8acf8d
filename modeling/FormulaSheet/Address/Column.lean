import FormulaSheet.Text.Case

/-!
# Column labels

Columns are labelled `A` to `Z`, then `AA`, `AB` and so on: numbers to the base 26 whose digits run
from 1 to 26, so that every non-empty run of letters labels one column.

* `columnLabel` writes the label of a column, counted from zero.
* `columnIndex?` reads a label in upper or lower case.
* `labelValue_columnLabel` says that a label is read as the column it was written for.
-/

namespace FormulaSheet
namespace Address

/-- The capital letter of a digit, counted from zero. -/
def letter (n : Nat) : Char :=
  Char.ofNat (65 + n)

/-- The place of a capital letter in the alphabet, counted from one. -/
def letterValue (c : Char) : Nat :=
  c.toNat - 64

/-- Puts the label of a column in front of `tail`. -/
def labelOnto (col : Nat) (tail : List Char) : List Char :=
  if col < 26 then letter col :: tail
  else labelOnto (col / 26 - 1) (letter (col % 26) :: tail)

/-- The label of a column. -/
def columnLabel (col : Nat) : List Char :=
  labelOnto col []

/-- The number that a run of capital letters spells, counted from one. -/
def labelValue (letters : List Char) : Nat :=
  letters.foldl (fun n c => n * 26 + letterValue c) 0

/-- The column that a label stands for. -/
def columnIndex? (label : List Char) : Option Nat :=
  let letters := Text.upper label
  if letters ≠ [] ∧ letters.all Char.isUpper then some (labelValue letters - 1) else none

theorem labelOnto_of_lt {col : Nat} (h : col < 26) (tail : List Char) :
    labelOnto col tail = letter col :: tail := by
  rw [labelOnto, if_pos h]

theorem labelOnto_of_ge {col : Nat} (h : ¬ col < 26) (tail : List Char) :
    labelOnto col tail = labelOnto (col / 26 - 1) (letter (col % 26) :: tail) := by
  rw [labelOnto, if_neg h]

theorem labelOnto_eq_append (col : Nat) (tail : List Char) :
    labelOnto col tail = columnLabel col ++ tail := by
  induction col using Nat.strongRecOn generalizing tail with
  | ind col ih =>
    by_cases h : col < 26
    · rw [columnLabel, labelOnto_of_lt h, labelOnto_of_lt h]
      rfl
    · rw [columnLabel, labelOnto_of_ge h, labelOnto_of_ge h, ih _ (by omega),
        ih _ (by omega) [letter (col % 26)], List.append_assoc]
      rfl

theorem columnLabel_of_lt {col : Nat} (h : col < 26) : columnLabel col = [letter col] := by
  rw [columnLabel, labelOnto_of_lt h]

theorem columnLabel_of_ge {col : Nat} (h : ¬ col < 26) :
    columnLabel col = columnLabel (col / 26 - 1) ++ [letter (col % 26)] := by
  rw [columnLabel, labelOnto_of_ge h, labelOnto_eq_append]

@[simp] theorem labelValue_nil : labelValue [] = 0 := rfl

@[simp] theorem labelValue_concat (letters : List Char) (c : Char) :
    labelValue (letters ++ [c]) = labelValue letters * 26 + letterValue c := by
  simp [labelValue]

theorem letterValue_letter {n : Nat} (h : n < 26) : letterValue (letter n) = n + 1 := by
  have all : ∀ n < 26, letterValue (letter n) = n + 1 := by decide
  exact all n h

theorem isUpper_letter {n : Nat} (h : n < 26) : (letter n).isUpper = true := by
  have all : ∀ n < 26, (letter n).isUpper = true := by decide
  exact all n h

/-- The label of a column spells the column, counted from one. -/
theorem labelValue_columnLabel (col : Nat) : labelValue (columnLabel col) = col + 1 := by
  induction col using Nat.strongRecOn with
  | ind col ih =>
    by_cases h : col < 26
    · simp [columnLabel_of_lt h, labelValue, letterValue_letter h]
    · rw [columnLabel_of_ge h, labelValue_concat, ih _ (by omega),
        letterValue_letter (Nat.mod_lt _ (by decide))]
      omega

theorem isUpper_of_mem_columnLabel {col : Nat} {c : Char} (h : c ∈ columnLabel col) :
    c.isUpper = true := by
  induction col using Nat.strongRecOn with
  | ind col ih =>
    by_cases small : col < 26
    · rw [columnLabel_of_lt small, List.mem_singleton] at h
      exact h ▸ isUpper_letter small
    · rw [columnLabel_of_ge small, List.mem_append, List.mem_singleton] at h
      rcases h with front | rfl
      · exact ih _ (by omega) front
      · exact isUpper_letter (Nat.mod_lt _ (by decide))

theorem columnLabel_ne_nil (col : Nat) : columnLabel col ≠ [] := by
  by_cases h : col < 26
  · simp [columnLabel_of_lt h]
  · simp [columnLabel_of_ge h]

end Address
end FormulaSheet
