import FormulaSheet.Number.Binary
import Mathlib

/-!
# Finite doubles

A finite double has a mantissa below `2 ^ 53`, and one of at least `2 ^ 52` unless its exponent is the
least one. `IsDouble` says so of a mantissa and an exponent.

* `isFinite_iff_parts`: the finite doubles are those with a mantissa and an exponent.
* `isDouble_of_parts`: they are within these limits.
* `eq_of_parts`: the sign, the mantissa and the exponent determine the double.

That a double is made of its bits (`Float.ofBits_toBits`) is in none of the modules of the library that can
be imported one by one, so that all of it is imported here.
-/

namespace FormulaSheet
namespace Number

open Float.Model Float.Model.UnpackedFloat

/-- The limits of the mantissa and the exponent of a finite double. -/
structure IsDouble (mantissa : Nat) (exponent : Int) : Prop where
  mantissa_lt : mantissa < 2 ^ 53
  normal : 2 ^ 52 ≤ mantissa ∨ exponent = leastExponent
  least_le : leastExponent ≤ exponent
  le_greatest : exponent ≤ 971

/-- The bits of the magnitude of a finite double. -/
def magnitudeBits (mantissa : Nat) (exponent : Int) : Nat :=
  (exponent - leastExponent).toNat * 2 ^ 52 + mantissa

theorem toNat_unpackExponent (b : BitVec 64) :
    (@unpackExponent Format.binary64 b).toNat = b.toNat / 2 ^ 52 % 2 ^ 11 := by
  unfold unpackExponent
  rw [BitVec.toNat_cast, BitVec.extractLsb_toNat, Nat.shiftRight_eq_div_pow]
  rfl

/-- A double is finite unless all bits of its exponent field are set. -/
theorem isFinite_iff_field (x : Float) :
    x.isFinite = true ↔ x.toBits.toNat / 2 ^ 52 % 2 ^ 11 ≠ 0x7ff := by
  have field := toNat_unpackExponent x.toBits.toBitVec
  have all : @unpackExponent Format.binary64 x.toBits.toBitVec = -1#11 ↔
      x.toBits.toNat / 2 ^ 52 % 2 ^ 11 = 0x7ff := by
    rw [← BitVec.toNat_inj]
    exact field ▸ Iff.rfl
  change (UnpackedFloat.unpack Format.binary64 x.toBits.toBitVec).isFinite = true ↔ _
  rw [Ne, ← all]
  unfold UnpackedFloat.unpack
  dsimp only
  split
  · next special =>
    refine iff_of_false ?_ (not_not_intro special)
    split <;> exact Bool.false_ne_true
  · next other =>
    refine iff_of_true ?_ other
    split
    · split <;> rfl
    · rfl

theorem isFinite_iff_parts (x : Float) :
    x.isFinite = true ↔ ∃ negative mantissa exponent, parts x = .finite negative mantissa exponent := by
  rw [isFinite_iff_field, parts, partsOfBits]
  dsimp only [Nat.pow_eq]
  split
  · next special =>
    refine iff_of_false (not_not_intro special) ?_
    rintro ⟨negative, mantissa, exponent, same⟩
    split at same <;> cases same
  · next other =>
    refine iff_of_true other ?_
    split
    · exact ⟨_, _, _, rfl⟩
    · exact ⟨_, _, _, rfl⟩

variable {x : Float} {negative : Bool} {mantissa : Nat} {exponent : Int}

/-- The two kinds of finite doubles, by their exponent field. -/
theorem field_of_parts (h : parts x = .finite negative mantissa exponent) :
    (negative = (x.toBits.toNat / 2 ^ 63 % 2 == 1)) ∧
      (x.toBits.toNat / 2 ^ 52 % 2 ^ 11 = 0 ∧ mantissa = x.toBits.toNat % 2 ^ 52 ∧
          exponent = leastExponent ∨
        ∃ field : Nat, x.toBits.toNat / 2 ^ 52 % 2 ^ 11 = field + 1 ∧ field < 2046 ∧
          mantissa = 2 ^ 52 + x.toBits.toNat % 2 ^ 52 ∧ exponent = field + leastExponent) := by
  rw [parts, partsOfBits] at h
  dsimp only [Nat.pow_eq] at h
  split at h
  · split at h <;> cases h
  · next other =>
    split at h
    · next zero =>
      cases h
      exact ⟨rfl, Or.inl ⟨zero, rfl, rfl⟩⟩
    · next normal =>
      cases h
      refine ⟨rfl, Or.inr ⟨x.toBits.toNat / 2 ^ 52 % 2 ^ 11 - 1, ?_, ?_, rfl, ?_⟩⟩ <;> omega

theorem isDouble_of_parts (h : parts x = .finite negative mantissa exponent) :
    IsDouble mantissa exponent := by
  have fraction : x.toBits.toNat % 2 ^ 52 < 2 ^ 52 := Nat.mod_lt _ (by decide)
  obtain ⟨_, ⟨_, rfl, rfl⟩ | ⟨field, _, small, rfl, rfl⟩⟩ := field_of_parts h
  · exact ⟨by omega, Or.inr rfl, Int.le_refl _, by decide⟩
  · unfold leastExponent
    exact ⟨by omega, Or.inl (by omega), by unfold leastExponent; omega, by omega⟩

/-- The bits of a finite double, from its parts. -/
theorem toNat_toBits_of_parts (h : parts x = .finite negative mantissa exponent) :
    x.toBits.toNat = magnitudeBits mantissa exponent + if negative then 2 ^ 63 else 0 := by
  have bits : x.toBits.toNat < 2 ^ 64 := x.toBits.toNat_lt
  obtain ⟨sign, fields⟩ := field_of_parts h
  generalize x.toBits.toNat = n at bits sign fields
  have top : (if negative then 2 ^ 63 else 0) = n / 2 ^ 63 % 2 * 2 ^ 63 := by
    rw [sign]
    rcases Nat.mod_two_eq_zero_or_one (n / 2 ^ 63) with low | high
    · rw [low]
      rfl
    · rw [high]
      rfl
  rw [top, magnitudeBits]
  rcases fields with ⟨zero, rfl, rfl⟩ | ⟨field, same, small, rfl, rfl⟩
  · omega
  · have place : ((field : Int) + leastExponent - leastExponent).toNat = field := by omega
    rw [place]
    omega

/-- The parts of a finite double determine it. -/
theorem eq_of_parts (h : parts x = .finite negative mantissa exponent) :
    x = ofSignAndBits negative (magnitudeBits mantissa exponent) := by
  have bits := toNat_toBits_of_parts h
  rw [ofSignAndBits, Nat.pow_eq, ← bits, UInt64.ofNat_toNat, Float.ofBits_toBits]

end Number
end FormulaSheet
