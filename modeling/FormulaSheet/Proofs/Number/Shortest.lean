import FormulaSheet.Number.Display
import FormulaSheet.Proofs.Number.Rounding

/-!
# The shortest decimal is rounded to its double

The search for a shortest decimal stops at decimals in the interval of the double only, which it checks in
whole numbers (`rounds_of_roundsTo`), and the exact expansion stands behind it. So the shortest decimal of a
double is rounded to the double (`rounds_shortest`).

An integer in the interval of a double is a whole number of its units if these are fractions, and within
half a unit there is only the double itself. So the shortest decimal of a double that is no integer has
digits behind the point (`shortest_exponent_neg`).
-/

namespace FormulaSheet
namespace Number

/-- The exact value of a decimal. -/
def Decimal.value (d : Decimal) : ℚ :=
  d.coefficient * 10 ^ d.exponent

variable {mantissa : Nat} {exponent : Int} {d : Decimal}

/-! ### Decimals in the interval of a double -/

/-- The quotient that `roundsTo` compares with the ends of the interval. -/
theorem quarters_eq (exponent : Int) (d : Decimal) :
    ((d.coefficient * 10 ^ d.exponent.toNat * 2 ^ (2 - exponent).toNat : Nat) : ℚ) /
        (10 ^ (-d.exponent).toNat * 2 ^ (exponent - 2).toNat : Nat) = 4 * (d.value / 2 ^ exponent) := by
  have ten := zpow_eq_div (by decide : 0 < 10) d.exponent
  have two := zpow_eq_div (by decide : 0 < 2) (2 - exponent)
  have shift : (2 : ℚ) ^ (2 - exponent) = 4 / 2 ^ exponent := by
    rw [zpow_sub₀ two_ne_zero]
    norm_num
  have back : -(2 - exponent) = exponent - 2 := by ring
  rw [Nat.cast_ofNat] at ten two
  rw [back] at two
  calc ((d.coefficient * 10 ^ d.exponent.toNat * 2 ^ (2 - exponent).toNat : Nat) : ℚ) /
        (10 ^ (-d.exponent).toNat * 2 ^ (exponent - 2).toNat : Nat)
      = d.coefficient * ((10 ^ d.exponent.toNat : Nat) / (10 ^ (-d.exponent).toNat : Nat)) *
          ((2 ^ (2 - exponent).toNat : Nat) / (2 ^ (exponent - 2).toNat : Nat)) := by
        push_cast
        field_simp
    _ = d.coefficient * 10 ^ d.exponent * (4 / 2 ^ exponent) := by rw [← ten, ← two, shift]
    _ = 4 * (d.value / 2 ^ exponent) := by
        rw [Decimal.value]
        ring

/-- The distance to the lower end of the interval, in quarters of a unit. -/
theorem cast_below (mantissa : Nat) (exponent : Int) :
    ((if mantissa = 2 ^ 52 ∧ leastExponent < exponent then 1 else 2 : Nat) : ℚ) =
      4 * halfBelow mantissa exponent := by
  unfold halfBelow
  split <;> norm_num

/-- A decimal that passes the check is rounded to the double. -/
theorem rounds_of_roundsTo (positive : 0 < mantissa) (h : roundsTo mantissa exponent d = true) :
    Rounds mantissa exponent d.value := by
  have quarters := quarters_eq exponent d
  have below := cast_below mantissa exponent
  have belowLe : (if mantissa = 2 ^ 52 ∧ leastExponent < exponent then 1 else 2) ≤ 4 * mantissa := by
    split <;> omega
  have unitPos : 0 < 10 ^ (-d.exponent).toNat * 2 ^ (exponent - 2).toNat := by positivity
  unfold roundsTo at h
  dsimp only [Nat.pow_eq] at h
  generalize d.coefficient * 10 ^ d.exponent.toNat * 2 ^ (2 - exponent).toNat = number at quarters h
  generalize 10 ^ (-d.exponent).toNat * 2 ^ (exponent - 2).toNat = unit at quarters h unitPos
  generalize (if mantissa = 2 ^ 52 ∧ leastExponent < exponent then 1 else 2) = b at below belowLe h
  have unitPos' : (0 : ℚ) < unit := by exact_mod_cast unitPos
  have lowEnd : ((4 * mantissa - b : Nat) : ℚ) = 4 * (mantissa - halfBelow mantissa exponent) := by
    rw [Nat.cast_sub belowLe, below]
    push_cast
    ring
  have highEnd : ((4 * mantissa + 2 : Nat) : ℚ) = 4 * (mantissa + 1 / 2) := by
    push_cast
    ring
  -- Each comparison with an end of the interval, as one of exact numbers.
  have le (n : Nat) : n * unit ≤ number ↔ (n : ℚ) ≤ 4 * (d.value / 2 ^ exponent) := by
    rw [← quarters, le_div_iff₀ unitPos']
    exact_mod_cast Iff.rfl
  have ge (n : Nat) : number ≤ n * unit ↔ 4 * (d.value / 2 ^ exponent) ≤ (n : ℚ) := by
    rw [← quarters, div_le_iff₀ unitPos']
    exact_mod_cast Iff.rfl
  rw [Rounds]
  split at h
  · next even =>
    simp only [Bool.and_eq_true, decide_eq_true_eq, le, ge, lowEnd, highEnd] at h
    exact ⟨by linarith, by linarith, fun odd => by omega⟩
  · next odd =>
    simp only [Bool.and_eq_true, decide_eq_true_eq, ← not_le, le, ge, lowEnd, highEnd] at h
    simp only [not_le] at h
    exact ⟨by linarith, by linarith, fun _ => ⟨by linarith, by linarith⟩⟩

/-! ### The search -/

theorem nearerOf_eq (num den : Nat) (d next : Decimal) :
    nearerOf num den d next = d ∨ nearerOf num den d next = next := by
  unfold nearerOf
  dsimp only
  split
  · exact Or.inl rfl
  · split
    · exact Or.inr rfl
    · split
      · exact Or.inl rfl
      · exact Or.inr rfl

/-- A decimal that is found with some digits has passed the check. -/
theorem roundsTo_of_withDigits? {digits : Nat} (h : withDigits? mantissa exponent digits = some d) :
    roundsTo mantissa exponent d = true := by
  unfold withDigits? at h
  dsimp only at h
  split at h
  · next low high =>
    cases h
    rcases nearerOf_eq _ _ _ _ with first | second
    · rw [first]
      exact low
    · rw [second]
      exact high
  · next low _ =>
    cases h
    exact low
  · next _ high =>
    cases h
    exact high
  · cases h

theorem value_exactDecimal (mantissa : Nat) (exponent : Int) :
    (exactDecimal mantissa exponent).value = mantissa * 2 ^ exponent := by
  unfold exactDecimal Decimal.value
  split
  · next whole =>
    have power : (2 : ℚ) ^ exponent = 2 ^ exponent.toNat := by
      rw [← zpow_natCast, Int.toNat_of_nonneg whole]
    rw [Nat.pow_eq, zpow_zero, mul_one, power, Nat.cast_mul, Nat.cast_pow]
    rfl
  · next fraction =>
    have power : (10 : ℚ) ^ exponent * 5 ^ (-exponent).toNat = 2 ^ exponent := by
      have five : (5 : ℚ) ^ (-exponent).toNat = (5 ^ exponent)⁻¹ := by
        rw [← zpow_natCast, Int.toNat_of_nonneg (by omega), zpow_neg]
      have ten : (10 : ℚ) = 2 * 5 := by norm_num
      rw [five, ten, mul_zpow, mul_inv_cancel_right₀ (by positivity)]
    rw [Nat.pow_eq, ← power]
    push_cast
    ring

theorem value_dropZero (d : Decimal) : d.dropZero.value = d.value := by
  unfold Decimal.dropZero
  split
  · next zero =>
    have whole : d.coefficient = d.coefficient / 10 * 10 :=
      (Nat.div_mul_cancel (Nat.dvd_of_mod_eq_zero zero)).symm
    unfold Decimal.value
    rw [zpow_add_one₀ (by norm_num)]
    have cast : (d.coefficient : ℚ) = (d.coefficient / 10 : Nat) * 10 := by exact_mod_cast whole
    rw [cast]
    ring
  · rfl

/-- The shortest decimal of a double is rounded to it. -/
theorem rounds_shortest (positive : 0 < mantissa) (exponent : Int) :
    Rounds mantissa exponent (shortest mantissa exponent).value := by
  unfold shortest
  rw [value_dropZero]
  cases hit : (List.range 17).findSome? fun n => withDigits? mantissa exponent (n + 1) with
  | none =>
      rw [Option.getD_none, value_exactDecimal]
      exact rounds_self mantissa exponent
  | some d =>
      obtain ⟨n, _, hit⟩ := List.exists_of_findSome?_eq_some hit
      exact rounds_of_roundsTo positive (roundsTo_of_withDigits? hit)

/-! ### Integers -/

theorem natAbs_withSign (negative : Bool) (n : Nat) : (withSign negative n).natAbs = n := by
  cases negative <;> simp [withSign]

theorem pos_of_fractionPart_ne_zero (h : fractionPart mantissa exponent ≠ 0) : 0 < mantissa := by
  refine Nat.pos_of_ne_zero fun zero => h ?_
  rw [zero, fractionPart, Nat.zero_mul, Nat.zero_mod]

/-- A double with no fraction is an integer. -/
theorem cast_wholePart (h : fractionPart mantissa exponent = 0) :
    (wholePart mantissa exponent : ℚ) = mantissa * 2 ^ exponent := by
  have power := zpow_eq_div (by decide : 0 < 2) exponent
  rw [Nat.cast_ofNat] at power
  have unit : ((2 ^ (-exponent).toNat : Nat) : ℚ) ≠ 0 := by positivity
  unfold fractionPart at h
  unfold wholePart
  rw [Nat.pow_eq, Nat.pow_eq] at h ⊢
  rw [Nat.cast_div (Nat.dvd_of_mod_eq_zero h) unit, power, Nat.cast_mul, mul_div_assoc]

/-- Only a double without a fraction has an integer in its interval. -/
theorem fractionPart_eq_zero_of_rounds {n : Nat} (h : Rounds mantissa exponent n) :
    fractionPart mantissa exponent = 0 := by
  unfold fractionPart
  rw [Nat.pow_eq, Nat.pow_eq]
  rcases Int.le_total 0 exponent with whole | fraction
  · have zero : (-exponent).toNat = 0 := by omega
    rw [zero, pow_zero, Nat.mod_one]
  · -- The integer is a whole number of units, and less than one unit away.
    have zero : exponent.toNat = 0 := by omega
    have units : (n : ℚ) / 2 ^ exponent = (n * 2 ^ (-exponent).toNat : Nat) := by
      rw [div_eq_mul_inv, ← zpow_neg, Nat.cast_mul, Nat.cast_pow, ← zpow_natCast,
        Int.toNat_of_nonneg (by omega)]
      rfl
    have below := halfBelow_le mantissa exponent
    have low := h.low
    have high := h.high
    rw [units] at low high
    have atLeast : (mantissa : ℚ) < (n * 2 ^ (-exponent).toNat : Nat) + 1 := by linarith
    have atMost : ((n * 2 ^ (-exponent).toNat : Nat) : ℚ) < mantissa + 1 := by linarith
    have same : mantissa = n * 2 ^ (-exponent).toNat := by
      have first : mantissa < n * 2 ^ (-exponent).toNat + 1 := by exact_mod_cast atLeast
      have second : n * 2 ^ (-exponent).toNat < mantissa + 1 := by exact_mod_cast atMost
      omega
    rw [zero, pow_zero, Nat.mul_one, same, Nat.mul_mod_left]

/-- A double is an integer if it has no fraction. -/
theorem fractionPart_eq_zero_iff :
    fractionPart mantissa exponent = 0 ↔ ∃ n : Nat, (mantissa * 2 ^ exponent : ℚ) = n := by
  constructor
  · intro h
    exact ⟨wholePart mantissa exponent, (cast_wholePart h).symm⟩
  · rintro ⟨n, same⟩
    have self := rounds_self mantissa exponent
    rw [same] at self
    exact fractionPart_eq_zero_of_rounds self

/-- The shortest decimal of a double with a fraction has digits behind the point. -/
theorem shortest_exponent_neg (positive : 0 < mantissa) (h : fractionPart mantissa exponent ≠ 0) :
    (shortest mantissa exponent).exponent < 0 := by
  by_contra whole
  rw [not_lt] at whole
  have rounds := rounds_shortest positive exponent
  have integer : (shortest mantissa exponent).value =
      ((shortest mantissa exponent).coefficient *
        10 ^ (shortest mantissa exponent).exponent.toNat : Nat) := by
    rw [Decimal.value, Nat.cast_mul, Nat.cast_pow, ← zpow_natCast, Int.toNat_of_nonneg whole]
    rfl
  rw [integer] at rounds
  exact h (fractionPart_eq_zero_of_rounds rounds)

end Number
end FormulaSheet
