import FormulaSheet.Number.Read
import FormulaSheet.Proofs.Number.Bits

/-!
# Rounding to the nearest double

The numbers that are rounded to a double lie around it: up to half a unit in the last place above it, and
half a unit of the doubles below it, which are closer together below a power of two. Of the ends of this
interval those of an even mantissa belong to it. `Rounds` says so in exact numbers.

* `binaryMagnitude_eq`: the power of two at or below a quotient.
* `roundHalfEven_eq`: rounding to a natural number.
* `nearest_eq`: a quotient in the interval of a double is rounded to this double. If it lies below a power
  of two, it has been counted in half as large units, and the mantissa `2 ^ 53` carries into the exponent.
* `ofDecimal_eq`: so is a decimal, as it is neither too large nor too small to be looked at.
-/

namespace FormulaSheet
namespace Number

/-- A number that is counted in units of the last place is nearest to a mantissa: it is at most half a unit
above it and at most `below` below it, and nearer than that if the mantissa is odd. -/
structure RoundsWithin (below : ℚ) (mantissa : Nat) (w : ℚ) : Prop where
  low : mantissa - below ≤ w
  high : w ≤ mantissa + 1 / 2
  odd : mantissa % 2 = 1 → mantissa - below < w ∧ w < mantissa + 1 / 2

/-- Half of the distance to the next double below. -/
def halfBelow (mantissa : Nat) (exponent : Int) : ℚ :=
  if mantissa = 2 ^ 52 ∧ leastExponent < exponent then 1 / 4 else 1 / 2

/-- A number is rounded to the double `mantissa * 2 ^ exponent`. -/
def Rounds (mantissa : Nat) (exponent : Int) (v : ℚ) : Prop :=
  RoundsWithin (halfBelow mantissa exponent) mantissa (v / 2 ^ exponent)

/-! ### Powers as quotients -/

/-- A power with an integer exponent is a quotient of natural numbers. -/
theorem zpow_eq_div {b : Nat} (pos : 0 < b) (e : Int) :
    (b : ℚ) ^ e = (b ^ e.toNat : Nat) / (b ^ (-e).toNat : Nat) := by
  have ne : (b : ℚ) ≠ 0 := by exact_mod_cast pos.ne'
  rcases Int.le_total 0 e with nonneg | nonpos
  · have zero : (-e).toNat = 0 := by omega
    rw [zero, pow_zero, Nat.cast_one, div_one, Nat.cast_pow, ← zpow_natCast, Int.toNat_of_nonneg nonneg]
  · have zero : e.toNat = 0 := by omega
    rw [zero, pow_zero, Nat.cast_one, Nat.cast_pow, ← zpow_natCast,
      Int.toNat_of_nonneg (by omega), zpow_neg, one_div, inv_inv]

theorem two_zpow_sub (a b : Nat) : (2 : ℚ) ^ ((a : Int) - b) = (2 ^ a : Nat) / (2 ^ b : Nat) := by
  rw [zpow_sub₀ two_ne_zero, zpow_natCast, zpow_natCast]
  norm_cast

theorem two_zpow_lt_ten_zpow {e : Int} (h : e ≤ 1203) : (2 : ℚ) ^ e < 10 ^ (401 : Int) := by
  calc (2 : ℚ) ^ e ≤ 2 ^ ((3 : Int) * 401) := zpow_le_zpow_right₀ one_le_two h
    _ = (2 ^ (3 : Int)) ^ (401 : Int) := zpow_mul 2 3 401
    _ < 10 ^ (401 : Int) := zpow_lt_zpow_left₀ (by positivity) (by norm_num) (by decide)

/-- A bound in units of a power of two, as a bound in exact numbers. -/
theorem div_lt_two_pow_iff {v : ℚ} (e : Int) (k : Nat) : v / 2 ^ e < 2 ^ k ↔ v < 2 ^ (e + k) := by
  rw [div_lt_iff₀ (by positivity), zpow_add₀ two_ne_zero, zpow_natCast, mul_comm]

variable {num den : Nat}

/-- A quotient in units of a power of two, as `unitExponent` counts it. -/
theorem cast_div_scaled (e : Int) :
    ((num * 2 ^ (-e).toNat : Nat) : ℚ) / (den * 2 ^ e.toNat : Nat) = num / den / 2 ^ e := by
  have power := zpow_eq_div (Nat.zero_lt_two) e
  rw [Nat.cast_ofNat] at power
  rw [power, Nat.cast_mul, Nat.cast_mul]
  field_simp

/-! ### Parts of a rounding -/

/-- The comparison by which `binaryMagnitude` corrects its guess. -/
theorem mul_two_pow_le_iff (hden : 0 < den) (e : Int) :
    den * 2 ^ e.toNat ≤ num * 2 ^ (-e).toNat ↔ (2 : ℚ) ^ e ≤ num / den := by
  have positive : (0 : ℚ) < den := by exact_mod_cast hden
  have power := zpow_eq_div Nat.zero_lt_two e
  have unit : (0 : ℚ) < (2 ^ (-e).toNat : Nat) := by positivity
  rw [Nat.cast_ofNat] at power
  rw [power, div_le_div_iff₀ unit positive, mul_comm den]
  exact_mod_cast Iff.rfl

theorem binaryMagnitude_eq (hnum : 0 < num) (hden : 0 < den) {g : Int} (low : (2 : ℚ) ^ g ≤ num / den)
    (high : (num / den : ℚ) < 2 ^ (g + 1)) : binaryMagnitude num den = g := by
  have two : (1 : ℚ) < 2 := one_lt_two
  have positive : (0 : ℚ) < den := by exact_mod_cast hden
  -- The guess is the magnitude or one above it.
  have above : (2 : ℚ) ^ ((num.log2 : Int) - den.log2 - 1) < num / den := by
    have numLow : ((2 ^ num.log2 : Nat) : ℚ) ≤ num := by exact_mod_cast Nat.log2_self_le hnum.ne'
    have denHigh : (den : ℚ) < (2 ^ (den.log2 + 1) : Nat) := by exact_mod_cast Nat.lt_log2_self
    have split : (2 : ℚ) ^ ((num.log2 : Int) - den.log2 - 1) =
        (2 ^ num.log2 : Nat) / (2 ^ (den.log2 + 1) : Nat) := by
      rw [← two_zpow_sub]
      congr 1
      omega
    rw [split]
    exact div_lt_div₀' numLow denHigh (by exact_mod_cast hnum) positive
  have below : (num / den : ℚ) < 2 ^ ((num.log2 : Int) - den.log2 + 1) := by
    have numHigh : (num : ℚ) < (2 ^ (num.log2 + 1) : Nat) := by exact_mod_cast Nat.lt_log2_self
    have denLow : ((2 ^ den.log2 : Nat) : ℚ) ≤ den := by exact_mod_cast Nat.log2_self_le hden.ne'
    have split : (2 : ℚ) ^ ((num.log2 : Int) - den.log2 + 1) =
        (2 ^ (num.log2 + 1) : Nat) / (2 ^ den.log2 : Nat) := by
      rw [← two_zpow_sub]
      congr 1
      omega
    rw [split]
    exact div_lt_div₀ numHigh denLow (by positivity) (by positivity)
  have least := (zpow_lt_zpow_iff_right₀ two).1 (low.trans_lt below)
  have greatest := (zpow_lt_zpow_iff_right₀ two).1 (above.trans high)
  unfold binaryMagnitude
  dsimp only [Nat.pow_eq]
  split
  · next fits =>
    have small := (zpow_lt_zpow_iff_right₀ two).1 (((mul_two_pow_le_iff hden _).1 fits).trans_lt high)
    omega
  · next exceeds =>
    have ne : (num.log2 : Int) - den.log2 ≠ g := fun same =>
      exceeds ((mul_two_pow_le_iff hden _).2 (same ▸ low))
    omega

/-- Rounding to a natural number is rounding within half a unit. -/
theorem roundHalfEven_eq (hden : 0 < den) {n : Nat} (h : RoundsWithin (1 / 2) n (num / den)) :
    roundHalfEven num den = n := by
  have positive : (0 : ℚ) < den := by exact_mod_cast hden
  have low : 2 * n * den ≤ 2 * num + den := by
    have half := (le_div_iff₀ positive).1 h.low
    have whole : (2 * n * den : ℚ) ≤ 2 * num + den := by linarith
    exact_mod_cast whole
  have high : 2 * num ≤ 2 * n * den + den := by
    have half := (div_le_iff₀ positive).1 h.high
    have whole : (2 * num : ℚ) ≤ 2 * n * den + den := by linarith
    exact_mod_cast whole
  have odd : n % 2 = 1 → 2 * n * den < 2 * num + den ∧ 2 * num < 2 * n * den + den := fun parity => by
    obtain ⟨strictLow, strictHigh⟩ := h.odd parity
    rw [lt_div_iff₀ positive] at strictLow
    rw [div_lt_iff₀ positive] at strictHigh
    have wholeLow : (2 * n * den : ℚ) < 2 * num + den := by linarith
    have wholeHigh : (2 * num : ℚ) < 2 * n * den + den := by linarith
    exact ⟨by exact_mod_cast wholeLow, by exact_mod_cast wholeHigh⟩
  -- From here on the product of the quotient and the divisor is one unknown.
  have split : num = num / den * den + num % den := (Nat.div_add_mod' num den).symm
  have rest := Nat.mod_lt num hden
  unfold roundHalfEven
  dsimp only
  generalize num / den = quotient at split ⊢
  generalize num % den = r at split rest ⊢
  subst split
  have atLeast : quotient ≤ n := by
    have bound : 2 * quotient * den < (2 * n + 2) * den := by linarith
    have quotients := Nat.lt_of_mul_lt_mul_right bound
    omega
  have atMost : n ≤ quotient + 1 := by
    have bound : 2 * n * den < (2 * quotient + 3) * den := by linarith
    have quotients := Nat.lt_of_mul_lt_mul_right bound
    omega
  obtain rfl | rfl : n = quotient ∨ n = quotient + 1 := by omega
  · rw [Nat.mul_assoc] at low high odd
    generalize n * den = product at low high odd
    split
    · rfl
    · split
      · omega
      · have even : n % 2 ≠ 1 := fun parity => by
          have strict := odd parity
          omega
        omega
  · rw [Nat.mul_assoc, Nat.add_mul, Nat.one_mul] at low high odd
    generalize quotient * den = product at low high odd
    split
    · omega
    · split
      · rfl
      · have even : (quotient + 1) % 2 ≠ 1 := fun parity => by
          have strict := odd parity
          omega
        omega

/-! ### The decimals that are looked at -/

/-- A decimal in the range of the doubles has no large power of ten. -/
theorem place_le {coefficient : Nat} {place : Int} (nonzero : coefficient ≠ 0)
    (h : (coefficient * 10 ^ place : ℚ) < 2 ^ (1024 : Int)) : place ≤ 400 := by
  by_contra large
  rw [not_le] at large
  have one : (1 : ℚ) ≤ coefficient := by exact_mod_cast Nat.pos_of_ne_zero nonzero
  have power : (10 : ℚ) ^ (401 : Int) ≤ coefficient * 10 ^ place :=
    (zpow_le_zpow_right₀ (by norm_num) large).trans (le_mul_of_one_le_left (by positivity) one)
  exact absurd (h.trans (two_zpow_lt_ten_zpow (by decide))) (not_lt.2 power)

/-- A decimal above half of the least double has no small power of ten, for the digits that it has. -/
theorem le_place {coefficient : Nat} {place : Int}
    (h : (2 : ℚ) ^ (-1075 : Int) ≤ coefficient * 10 ^ place) :
    -(401 + (coefficient.log2 : Int)) ≤ place := by
  by_contra small
  have digits : (coefficient : ℚ) < 10 ^ ((coefficient.log2 : Int) + 1) := by
    have bits : coefficient < 10 ^ (coefficient.log2 + 1) :=
      Nat.lt_log2_self.trans_le (Nat.pow_le_pow_left (by decide) _)
    exact_mod_cast bits
  have power : (coefficient * 10 ^ place : ℚ) < 10 ^ (-401 : Int) := by
    calc (coefficient * 10 ^ place : ℚ) < 10 ^ ((coefficient.log2 : Int) + 1) * 10 ^ place :=
          mul_lt_mul_of_pos_right digits (by positivity)
      _ = 10 ^ ((coefficient.log2 : Int) + 1 + place) := (zpow_add₀ (by norm_num) _ _).symm
      _ ≤ 10 ^ (-401 : Int) := zpow_le_zpow_right₀ (by norm_num) (by omega)
  have beyond : (10 : ℚ) ^ (-401 : Int) < 2 ^ (-1075 : Int) := by
    rw [zpow_neg, zpow_neg]
    exact inv_strictAnti₀ (by positivity) (two_zpow_lt_ten_zpow (by decide))
  exact absurd h (not_le.2 (power.trans beyond))

/-! ### Rounding to a double -/

variable {mantissa : Nat} {exponent : Int}

theorem halfBelow_le (mantissa : Nat) (exponent : Int) : halfBelow mantissa exponent ≤ 1 / 2 := by
  unfold halfBelow
  split <;> norm_num

theorem halfBelow_pos (mantissa : Nat) (exponent : Int) : 0 < halfBelow mantissa exponent := by
  unfold halfBelow
  split <;> norm_num

/-- A smaller interval is part of a larger one. -/
theorem RoundsWithin.mono {below other w : ℚ} (h : RoundsWithin below mantissa w) (le : below ≤ other) :
    RoundsWithin other mantissa w where
  low := by linarith [h.low]
  high := h.high
  odd parity := ⟨by linarith [(h.odd parity).1], (h.odd parity).2⟩

/-- A double is rounded to itself. -/
theorem rounds_self (mantissa : Nat) (exponent : Int) :
    Rounds mantissa exponent (mantissa * 2 ^ exponent) := by
  have positive := halfBelow_pos mantissa exponent
  have unit : (2 : ℚ) ^ exponent ≠ 0 := by positivity
  unfold Rounds
  rw [mul_div_cancel_right₀ _ unit]
  exact ⟨by linarith, by linarith, fun _ => ⟨by linarith, by linarith⟩⟩

/-- The magnitude of a finite double lies below the pattern of the infinity. -/
theorem magnitudeBits_lt (double : IsDouble mantissa exponent) :
    magnitudeBits mantissa exponent < infinityBits := by
  have small := double.mantissa_lt
  have least := double.least_le
  have greatest := double.le_greatest
  unfold magnitudeBits infinityBits
  rw [Nat.pow_eq]
  unfold leastExponent at *
  omega

section Double

variable {v : ℚ} (double : IsDouble mantissa exponent) (positive : 0 < mantissa)
  (h : Rounds mantissa exponent v)

include positive h in
/-- What is rounded to a positive double is at least half a unit. -/
theorem Rounds.half_le : (2 : ℚ) ^ (exponent - 1) ≤ v := by
  have unit : (0 : ℚ) < 2 ^ exponent := by positivity
  have below := halfBelow_le mantissa exponent
  have one : (1 : ℚ) ≤ mantissa := by exact_mod_cast positive
  have scaled : (1 / 2 : ℚ) ≤ v / 2 ^ exponent := by linarith [h.low]
  rw [le_div_iff₀ unit] at scaled
  rw [zpow_sub_one₀ two_ne_zero]
  linarith

include double h in
theorem Rounds.lt : v < (2 : ℚ) ^ (exponent + 53) := by
  have small : (mantissa : ℚ) + 1 ≤ 2 ^ 53 := by exact_mod_cast double.mantissa_lt
  exact (div_lt_two_pow_iff exponent 53).1 (by linarith [h.high])

include double h in
/-- A number is counted in the units of the double that it is rounded to, unless it lies below a power of
two. -/
theorem unitExponent_of_rounds (hnum : 0 < num) (hden : 0 < den) (hv : v = num / den) :
    unitExponent num den = exponent ∨
      mantissa = 2 ^ 52 ∧ leastExponent < exponent ∧ unitExponent num den = exponent - 1 ∧
        v / 2 ^ exponent < 2 ^ 52 := by
  have two : (1 : ℚ) < 2 := one_lt_two
  have vpos : 0 < v := by
    rw [hv]
    positivity
  obtain ⟨g, low, high⟩ := exists_mem_Ico_zpow vpos two
  have magnitude : binaryMagnitude num den = g := binaryMagnitude_eq hnum hden (hv ▸ low) (hv ▸ high)
  have atMost := (zpow_lt_zpow_iff_right₀ two).1 (low.trans_lt (h.lt double))
  have least := double.least_le
  unfold unitExponent
  rw [magnitude]
  by_cases same : max (g - 52) leastExponent = exponent
  · exact Or.inl same
  have finer : g + 1 ≤ exponent + 52 := by omega
  have below : v / 2 ^ exponent < 2 ^ 52 :=
    (div_lt_two_pow_iff exponent 52).2 (high.trans_le (zpow_le_zpow_right₀ two.le finer))
  have half := halfBelow_le mantissa exponent
  have lowest : mantissa = 2 ^ 52 := by
    rcases double.normal with normal | subnormal
    · have close : (mantissa : ℚ) < 2 ^ 52 + 1 := by linarith [h.low]
      have whole : mantissa < 2 ^ 52 + 1 := by exact_mod_cast close
      omega
    · omega
  have atLeast : ¬ v < (2 : ℚ) ^ (exponent + 51) := by
    have cast : (mantissa : ℚ) = 2 ^ 52 := by exact_mod_cast lowest
    refine fun less => absurd ((div_lt_two_pow_iff exponent 51).2 less) ?_
    linarith [h.low]
  have coarser : ¬ g + 1 ≤ exponent + 51 := fun le =>
    atLeast (high.trans_le (zpow_le_zpow_right₀ two.le le))
  exact Or.inr ⟨lowest, by omega, by omega, below⟩

include double h in
/-- The pattern of a quotient that is rounded to a double is that of the double. -/
theorem nearestBits_eq (hnum : 0 < num) (hden : 0 < den) (hv : v = num / den) :
    nearestBits num den = magnitudeBits mantissa exponent := by
  have finite := magnitudeBits_lt double
  have half := halfBelow_le mantissa exponent
  have divisor : ∀ e : Int, 0 < den * 2 ^ e.toNat := fun e => Nat.mul_pos hden (by positivity)
  unfold nearestBits
  dsimp only [Nat.pow_eq]
  rcases unitExponent_of_rounds double h hnum hden hv with same | ⟨lowest, above, finer, below⟩
  · have rounded := RoundsWithin.mono h half
    rw [hv, ← cast_div_scaled] at rounded
    rw [same, roundHalfEven_eq (divisor exponent) rounded]
    exact min_eq_left finite.le
  · -- The double is a power of two, and the units below it are half as large.
    have quarter : halfBelow mantissa exponent = 1 / 4 := if_pos ⟨lowest, above⟩
    have low := h.low
    rw [quarter, lowest] at low
    have units : v / 2 ^ (exponent - 1) = 2 * (v / 2 ^ exponent) := by
      rw [zpow_sub_one₀ two_ne_zero]
      field_simp
    have rounded : RoundsWithin (1 / 2) (2 ^ 53) (v / 2 ^ (exponent - 1)) := by
      rw [units]
      push_cast at low
      exact ⟨by push_cast; linarith, by push_cast; linarith, fun odd => by omega⟩
    rw [hv, ← cast_div_scaled] at rounded
    rw [finer, roundHalfEven_eq (divisor (exponent - 1)) rounded]
    have carried : (exponent - 1 - leastExponent).toNat * 2 ^ 52 + 2 ^ 53 =
        magnitudeBits mantissa exponent := by
      unfold magnitudeBits
      omega
    rw [carried]
    exact min_eq_left finite.le

include double positive h in
/-- A quotient in the interval of a double is rounded to this double. -/
theorem nearest_eq (negative : Bool) (hden : 0 < den) (hv : v = num / den) :
    nearest negative num den = ofSignAndBits negative (magnitudeBits mantissa exponent) := by
  have vpos : 0 < v := lt_of_lt_of_le (by positivity) (h.half_le positive)
  have hnum : 0 < num := by
    refine Nat.pos_of_ne_zero fun zero => ?_
    rw [hv, zero, Nat.cast_zero, zero_div] at vpos
    exact lt_irrefl _ vpos
  rw [nearest, if_neg hnum.ne', nearestBits_eq double h hnum hden hv]

include double positive h in
/-- A decimal in the interval of a double is rounded to this double. -/
theorem ofDecimal_eq (negative : Bool) {coefficient : Nat} {place : Int}
    (hv : v = coefficient * 10 ^ place) :
    ofDecimal negative coefficient place = ofSignAndBits negative (magnitudeBits mantissa exponent) := by
  have least : (2 : ℚ) ^ (-1075 : Int) ≤ coefficient * 10 ^ place := by
    have bound := double.least_le
    unfold leastExponent at bound
    rw [← hv]
    exact le_trans (zpow_le_zpow_right₀ one_le_two (by omega)) (h.half_le positive)
  have greatest : (coefficient * 10 ^ place : ℚ) < 2 ^ (1024 : Int) := by
    have bound := double.le_greatest
    rw [← hv]
    exact (h.lt double).trans_le (zpow_le_zpow_right₀ one_le_two (by omega))
  have nonzero : coefficient ≠ 0 := by
    rintro rfl
    rw [Nat.cast_zero, zero_mul] at least
    exact absurd least (not_le.2 (by positivity))
  have quotient : v = ((coefficient * 10 ^ place.toNat : Nat) : ℚ) / (10 ^ (-place).toNat : Nat) := by
    have power := zpow_eq_div (by decide : 0 < 10) place
    rw [Nat.cast_ofNat] at power
    rw [hv, power, Nat.cast_mul, mul_div_assoc]
  rw [ofDecimal, if_neg nonzero, if_neg (not_lt.2 (place_le nonzero greatest)),
    if_neg (not_lt.2 (le_place least)), Nat.pow_eq, Nat.pow_eq]
  exact nearest_eq double positive h negative (by positivity) quotient

end Double

end Number
end FormulaSheet
