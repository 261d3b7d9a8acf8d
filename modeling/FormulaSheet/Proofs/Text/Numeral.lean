import FormulaSheet.Text.Class
import Mathlib.Algebra.Group.Nat.Defs
import Mathlib.Data.List.Induction

/-!
# Leading zeros

A run of digits spells a number, and the digits of this number are those of the run from the first one on
that is not zero.

* `digitsValue_eq_zero_iff`: a run spells zero if it consists of zeros.
* `naturalDigits_digitsValue`: the digits of any other number that a run spells.
* `length_naturalDigits_mono`: a smaller number has no more digits.
* `length_naturalDigits_le_iff`: how many digits a number has, by the powers of ten.
-/

namespace FormulaSheet
namespace Text

/-- A run of digits without its leading zeros. -/
def dropZeros (cs : List Char) : List Char :=
  cs.dropWhile (· == '0')

theorem isDigit_iff {c : Char} : c.isDigit = true ↔ 48 ≤ c.toNat ∧ c.toNat ≤ 57 := by
  simp [Char.isDigit, UInt32.le_iff_toNat_le, ← Char.toNat_val]

theorem digitValue_lt {c : Char} (h : c.isDigit = true) : digitValue c < 10 := by
  have bounds := isDigit_iff.1 h
  unfold digitValue
  omega

/-- A digit is the one that its value is written with. -/
theorem digitChar_digitValue {c : Char} (h : c.isDigit = true) : digitChar (digitValue c) = c := by
  have code : 48 + digitValue c = c.toNat := by
    have bounds := isDigit_iff.1 h
    unfold digitValue
    omega
  rw [digitChar, code, Char.ofNat_toNat]

theorem digitValue_eq_zero_iff {c : Char} (h : c.isDigit = true) : digitValue c = 0 ↔ c = '0' := by
  constructor
  · intro zero
    rw [← digitChar_digitValue h, zero]
    rfl
  · rintro rfl
    rfl

theorem length_dropZeros_le (cs : List Char) : (dropZeros cs).length ≤ cs.length :=
  (List.dropWhile_sublist _).length_le

/-- Behind zeros only, a digit is the first one that may be kept. -/
theorem dropZeros_concat_of_nil {cs : List Char} (h : dropZeros cs = []) (c : Char) :
    dropZeros (cs ++ [c]) = if c = '0' then [] else [c] := by
  unfold dropZeros at h ⊢
  simp [List.dropWhile_append, h, List.dropWhile_cons]

theorem dropZeros_concat_of_ne_nil {cs : List Char} (h : dropZeros cs ≠ []) (c : Char) :
    dropZeros (cs ++ [c]) = dropZeros cs ++ [c] := by
  unfold dropZeros at h ⊢
  simp [List.dropWhile_append, h]

/-- A run of digits spells zero if it consists of zeros. -/
theorem digitsValue_eq_zero_iff {cs : List Char} (digits : ∀ c ∈ cs, c.isDigit = true) :
    digitsValue cs = 0 ↔ dropZeros cs = [] := by
  induction cs using List.reverseRecOn with
  | nil => exact iff_of_true rfl rfl
  | append_singleton front c ih =>
      have last := digitValue_eq_zero_iff (digits c (by simp))
      have before := ih fun d mem => digits d (by simp [mem])
      rw [digitsValue_concat]
      by_cases zeros : dropZeros front = []
      · rw [dropZeros_concat_of_nil zeros, before.2 zeros, Nat.mul_zero, Nat.zero_add, last]
        simp
      · rw [dropZeros_concat_of_ne_nil zeros]
        have positive : digitsValue front ≠ 0 := fun zero => zeros (before.1 zero)
        exact iff_of_false (by omega) (by simp)

/-- The digits of a number that a run spells are the run without its leading zeros. -/
theorem naturalDigits_digitsValue {cs : List Char} (digits : ∀ c ∈ cs, c.isDigit = true)
    (ne : digitsValue cs ≠ 0) : naturalDigits (digitsValue cs) = dropZeros cs := by
  induction cs using List.reverseRecOn with
  | nil => exact absurd rfl ne
  | append_singleton front c ih =>
      have last : c.isDigit = true := digits c (by simp)
      have before : ∀ d ∈ front, d.isDigit = true := fun d mem => digits d (by simp [mem])
      have small := digitValue_lt last
      rw [digitsValue_concat] at ne ⊢
      by_cases zero : digitsValue front = 0
      · rw [zero, Nat.mul_zero, Nat.zero_add] at ne ⊢
        have other : c ≠ '0' := fun eq => ne ((digitValue_eq_zero_iff last).2 eq)
        rw [dropZeros_concat_of_nil ((digitsValue_eq_zero_iff before).1 zero), if_neg other,
          naturalDigits_of_lt small, digitChar_digitValue last]
      · have quotient : (10 * digitsValue front + digitValue c) / 10 = digitsValue front := by
          omega
        have remainder : (10 * digitsValue front + digitValue c) % 10 = digitValue c := by
          omega
        have kept : dropZeros front ≠ [] := fun zeros =>
          zero ((digitsValue_eq_zero_iff before).2 zeros)
        rw [naturalDigits_of_ge (by omega), quotient, remainder, ih before zero,
          digitChar_digitValue last, dropZeros_concat_of_ne_nil kept]

/-- A number has at least as many digits as a smaller one. -/
theorem length_naturalDigits_mono {m n : Nat} (h : m ≤ n) :
    (naturalDigits m).length ≤ (naturalDigits n).length := by
  induction n using Nat.strongRecOn generalizing m with
  | ind n ih =>
      by_cases small : m < 10
      · rw [naturalDigits_of_lt small]
        exact List.length_pos_iff.2 (naturalDigits_ne_nil n)
      · have tenth := ih (n / 10) (by omega) (Nat.div_le_div_right h)
        have large : ¬ n < 10 := by omega
        rw [naturalDigits_of_ge small, naturalDigits_of_ge large, List.length_append,
          List.length_append]
        exact Nat.succ_le_succ tenth

/-- The numbers below a power of ten are those that need no more digits than it has zeros. -/
theorem length_naturalDigits_le_iff {n k : Nat} (positive : 0 < k) :
    (naturalDigits n).length ≤ k ↔ n < 10 ^ k := by
  induction k generalizing n with
  | zero => exact absurd positive (Nat.lt_irrefl 0)
  | succ k ih =>
      by_cases small : n < 10
      · have below : n < 10 ^ (k + 1) :=
          Nat.lt_of_lt_of_le small (Nat.le_self_pow (Nat.succ_ne_zero k) 10)
        simp [naturalDigits_of_lt small, below]
      · rw [naturalDigits_of_ge small, List.length_append, List.length_singleton,
          Nat.add_le_add_iff_right, Nat.pow_succ, ← Nat.div_lt_iff_lt_mul (by decide)]
        rcases Nat.eq_zero_or_pos k with rfl | more
        · have digit := List.length_pos_iff.2 (naturalDigits_ne_nil (n / 10))
          exact iff_of_false (by omega) (by omega)
        · exact ih more

end Text
end FormulaSheet
