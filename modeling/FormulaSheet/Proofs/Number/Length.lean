import FormulaSheet.Proofs.Number.Bits
import FormulaSheet.Proofs.Number.Shortest
import FormulaSheet.Proofs.Text.Numeral

/-!
# How long the text of a number is

A cell shows a number without an exponent, so that the largest double needs some three hundred digits and the
least one as many zeros behind the point. There is nothing longer by far: the shortest decimal of a double
has no digits behind the place where the exact expansion ends, and in front of the point it has no more than
the largest double.

* `le_exponent_shortest` is the bound on one side of the point, and `Decimal.coefficient_lt` makes of it one
  on all digits.
* `length_plain_lt` is the statement about every double.
-/

namespace FormulaSheet
namespace Number

open Text (naturalDigits)

variable {mantissa : Nat} {exponent : Int} {d : Decimal}

/-! ### The last place of a shortest decimal -/

/-- A quotient begins at most as many places behind the point as its denominator has digits. -/
theorem le_decimalMagnitude (num den : Nat) :
    1 - ((naturalDigits den).length : Int) ≤ decimalMagnitude num den := by
  unfold decimalMagnitude
  split
  · have positive := List.length_pos_iff.2 (Text.naturalDigits_ne_nil (num / den))
    omega
  · have fewer := Text.length_naturalDigits_mono ((Nat.div_le_self (den - 1) num).trans (Nat.sub_le den 1))
    omega

/-- All decimals that the search with some digits looks at end at the same place. -/
theorem exponent_of_withDigits? {digits : Nat} (h : withDigits? mantissa exponent digits = some d) :
    d.exponent =
      decimalMagnitude (mantissa * 2 ^ exponent.toNat) (2 ^ (-exponent).toNat) - digits := by
  unfold withDigits? at h
  dsimp only at h
  split at h
  · cases h
    rcases nearerOf_eq _ _ _ _ with first | second
    · rw [first]
      rfl
    · rw [second]
      rfl
  · cases h
    rfl
  · cases h
    rfl
  · cases h

theorem exponent_le_dropZero (d : Decimal) : d.exponent ≤ d.dropZero.exponent := by
  unfold Decimal.dropZero
  split
  · exact Int.le_add_one (Int.le_refl _)
  · exact Int.le_refl _

/-- No digits stand behind the place where the exact expansion of the least double ends. -/
theorem le_exponent_shortest (double : IsDouble mantissa exponent) :
    leastExponent ≤ (shortest mantissa exponent).exponent := by
  have least := double.least_le
  refine Int.le_trans ?_ (exponent_le_dropZero _)
  cases hit : (List.range 17).findSome? fun n => withDigits? mantissa exponent (n + 1) with
  | none =>
      rw [Option.getD_none, exactDecimal]
      split
      · exact Int.negSucc_le_zero 1073
      · exact least
  | some d =>
      obtain ⟨n, mem, hit⟩ := List.exists_of_findSome?_eq_some hit
      have few : n < 17 := List.mem_range.1 mem
      have begin := le_decimalMagnitude (mantissa * 2 ^ exponent.toNat) (2 ^ (-exponent).toNat)
      have small : (2 : ℚ) ^ (((-exponent).toNat : Nat) : Int) < 10 ^ ((401 : Nat) : Int) := by
        unfold leastExponent at least
        exact two_zpow_lt_ten_zpow (by omega)
      rw [zpow_natCast, zpow_natCast] at small
      have digits : (naturalDigits (2 ^ (-exponent).toNat)).length ≤ 401 :=
        (Text.length_naturalDigits_le_iff (by decide)).2 (by exact_mod_cast small)
      rw [Option.getD_some, exponent_of_withDigits? hit]
      unfold leastExponent
      omega

/-! ### Lengths -/

/-- A decimal below a power of ten has no more digits than its places in front of the point and behind it. -/
theorem Decimal.coefficient_lt {k places : Nat} (small : d.value < 10 ^ (k : Int))
    (last : -(places : Int) ≤ d.exponent) : d.coefficient < 10 ^ (k + places) := by
  have shifted : (d.coefficient : ℚ) * 10 ^ (-(places : Int)) < 10 ^ (k : Int) :=
    calc (d.coefficient : ℚ) * 10 ^ (-(places : Int))
        ≤ d.coefficient * 10 ^ d.exponent :=
          mul_le_mul_of_nonneg_left (zpow_le_zpow_right₀ (by norm_num) last) (by positivity)
      _ < 10 ^ (k : Int) := small
  rw [zpow_neg, ← div_eq_mul_inv, div_lt_iff₀ (by positivity), zpow_natCast, zpow_natCast,
    ← pow_add] at shifted
  exact_mod_cast shifted

/-- A decimal with digits behind the point has one character more than digits, and at least a zero in front
of the point. -/
theorem length_positional (h : d.exponent < 0) :
    d.positional.length = max (naturalDigits d.coefficient).length ((-d.exponent).toNat + 1) + 1 := by
  unfold Decimal.positional
  dsimp only
  rw [if_neg (by omega)]
  generalize naturalDigits d.coefficient = ds
  split
  · simp only [List.length_append, List.length_cons, List.length_replicate]
    omega
  · simp only [List.length_append, List.length_cons, List.length_take, List.length_drop]
    omega

theorem length_signText_le (negative : Bool) : (signText negative).length ≤ 1 := by
  cases negative <;> decide

theorem length_integerText_le {n : Int} {k : Nat} (positive : 0 < k) (small : n.natAbs < 10 ^ k) :
    (integerText n).length ≤ k + 1 := by
  have digits := (Text.length_naturalDigits_le_iff positive).2 small
  have sign := length_signText_le (n < 0)
  rw [integerText, List.length_append]
  omega

section Double

variable (double : IsDouble mantissa exponent)
include double

theorem lt_of_rounds {v : ℚ} (h : Rounds mantissa exponent v) : v < 10 ^ ((401 : Nat) : Int) := by
  have greatest := double.le_greatest
  exact (h.lt double).trans (two_zpow_lt_ten_zpow (by omega))

theorem wholePart_lt (integer : fractionPart mantissa exponent = 0) :
    wholePart mantissa exponent < 10 ^ 401 := by
  have small := lt_of_rounds double (rounds_self mantissa exponent)
  rw [← cast_wholePart integer, zpow_natCast] at small
  exact_mod_cast small

/-- At most 401 digits in front of the point and 1074 behind it. -/
theorem length_shortest_le (fractional : fractionPart mantissa exponent ≠ 0) :
    (shortest mantissa exponent).positional.length ≤ 1476 := by
  have positive := pos_of_fractionPart_ne_zero fractional
  have last : -((1074 : Nat) : Int) ≤ (shortest mantissa exponent).exponent :=
    le_exponent_shortest double
  have digits := (Text.length_naturalDigits_le_iff (by decide)).2
    (Decimal.coefficient_lt (lt_of_rounds double (rounds_shortest positive exponent)) last)
  rw [length_positional (shortest_exponent_neg positive fractional)]
  omega

end Double

/-- The text of a number has less than 1500 characters. -/
theorem length_plain_lt (x : Float) : (plain x).length < 1500 := by
  rw [plain, String.length_ofList]
  split
  · decide
  · next negative _ =>
    cases negative <;> decide
  · next negative mantissa exponent h =>
    have double := isDouble_of_parts h
    split
    · next integer =>
      have small : (withSign negative (wholePart mantissa exponent)).natAbs < 10 ^ 401 :=
        (natAbs_withSign ..).symm ▸ wholePart_lt double integer
      have length := length_integerText_le (by decide) small
      omega
    · next fractional =>
      have length := length_shortest_le double fractional
      have sign := length_signText_le negative
      rw [List.length_append]
      omega

end Number
end FormulaSheet
