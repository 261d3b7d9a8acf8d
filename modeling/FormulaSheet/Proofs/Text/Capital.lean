import FormulaSheet.Proofs.Text.Character
import FormulaSheet.Text.Case

/-!
# What becomes a capital letter

In upper case a text may consist of the letters from `A` to `Z` without having been made of letters: ten
other characters become one, two or three of these letters (`foreignLetters`). The tables of the mapping
are finite, so that there are no more than these ten is a check of their entries.

* `all_isUpper_upperChar_iff` and `all_isUpper_upper_iff` say which characters and which texts become
  capital letters.
* `upper_of_ascii`: on ASCII texts the mapping works letter by letter.
-/

namespace FormulaSheet
namespace Text

/-- The code points of the sharp s, the dotless i, the long s, and the seven ligatures of `f` and of `s`
with `t`. Their upper case is spelled with the letters from `A` to `Z`. -/
def foreignLetters : List Nat :=
  [0xdf, 0x131, 0x17f, 0xfb00, 0xfb01, 0xfb02, 0xfb03, 0xfb04, 0xfb05, 0xfb06]

theorem isUpper_iff {c : Char} : c.isUpper = true ↔ 65 ≤ c.toNat ∧ c.toNat ≤ 90 := by
  delta Char.isUpper
  simp [UInt32.le_iff_toNat_le, ← Char.toNat_val]

theorem isLower_iff {c : Char} : c.isLower = true ↔ 97 ≤ c.toNat ∧ c.toNat ≤ 122 := by
  delta Char.isLower
  simp [UInt32.le_iff_toNat_le, ← Char.toNat_val]

theorem isAlpha_of_isLower {c : Char} (h : c.isLower = true) : c.isAlpha = true := by
  change (c.isUpper || c.isLower) = true
  rw [h, Bool.or_true]

/-- A number that is no code point makes no capital letter. -/
theorem le_of_isUpper_ofNat {n : Nat} (h : (Char.ofNat n).isUpper = true) : 65 ≤ n ∧ n ≤ 90 := by
  rw [isUpper_iff] at h
  rwa [toNat_ofNat_of_ne_zero (by omega)] at h

theorem toUpper_of_isUpper {c : Char} (h : c.isUpper = true) : c.toUpper = c := by
  refine toUpper_of_isLower_false (Bool.eq_false_iff.2 fun lower => ?_)
  have large := (isUpper_iff.1 h).2
  have small := (isLower_iff.1 lower).1
  omega

theorem map_toUpper_of_isUpper {cs : List Char} (h : ∀ c ∈ cs, c.isUpper = true) :
    cs.map Char.toUpper = cs := by
  have same : cs.map Char.toUpper = cs.map id :=
    List.map_congr_left fun c mem => toUpper_of_isUpper (h c mem)
  rw [same, List.map_id]

theorem mem_of_expansion? {table : List (Nat × List Nat)} {c : Char} {image : List Char}
    (h : expansion? table c = some image) :
    ∃ codes, (c.toNat, codes) ∈ table ∧ image = codes.map Char.ofNat := by
  obtain ⟨codes, found, rfl⟩ := Option.map_eq_some_iff.1 h
  obtain ⟨front, back, rfl, _⟩ := List.lookup_eq_some_iff.1 found
  exact ⟨codes, by simp, rfl⟩

/-- An expansion into capital letters is one of a foreign letter. -/
theorem mem_foreignLetters_of_expansion {c : Char} {image : List Char}
    (h : expansion? upperExpansions c = some image) (upper : image.all Char.isUpper = true) :
    c.toNat ∈ foreignLetters := by
  have all : ∀ entry ∈ upperExpansions, (entry.2.map Char.ofNat).all Char.isUpper = true →
      entry.1 ∈ foreignLetters := by
    decide +kernel
  obtain ⟨codes, mem, rfl⟩ := mem_of_expansion? h
  exact all _ mem upper

/-- A character that is moved to a capital letter is a letter or foreign. -/
theorem isAlpha_or_mem_of_shiftBy {c : Char} (h : (shiftBy upperRuns c).isUpper = true) :
    c.isAlpha = true ∨ c.toNat ∈ foreignLetters := by
  -- Where the capital letters come from: the small ones, and single characters.
  have all : ∀ run ∈ upperRuns, 65 ≤ run.last + run.shift → run.first + run.shift ≤ 90 →
      97 ≤ run.first ∧ run.last ≤ 122 ∨ run.first = run.last ∧ run.first ∈ foreignLetters := by
    decide +kernel
  unfold shiftBy at h
  split at h
  · next run found =>
    have covers : run.covers c.toNat = true := by simpa using List.find?_some found
    simp only [CaseRun.covers, Bool.and_eq_true, decide_eq_true_eq] at covers
    obtain ⟨⟨first, last⟩, _⟩ := covers
    obtain ⟨low, high⟩ := le_of_isUpper_ofNat h
    rcases all run (List.mem_of_find?_eq_some found) (by omega) (by omega) with small | ⟨one, mem⟩
    · exact Or.inl (isAlpha_of_isLower (isLower_iff.2 (by omega)))
    · have same : c.toNat = run.first := by omega
      exact Or.inr (same ▸ mem)
  · exact Or.inl (isAlpha_of_isUpper h)

/-- The characters that become capital letters are the letters and the foreign letters. -/
theorem all_isUpper_upperChar_iff {c : Char} :
    (upperChar c).all Char.isUpper = true ↔ c.isAlpha = true ∨ c.toNat ∈ foreignLetters := by
  constructor
  · intro h
    unfold upperChar at h
    cases expanded : expansion? upperExpansions c with
    | none =>
        rw [expanded] at h
        exact isAlpha_or_mem_of_shiftBy (by simpa using h)
    | some image =>
        rw [expanded] at h
        exact Or.inr (mem_foreignLetters_of_expansion expanded h)
  · rintro (letter | foreign)
    · rw [upperChar_ascii (ascii_of_isAlphanum (isAlphanum_of_isAlpha letter))]
      rw [List.all_cons, isUpper_toUpper, letter]
      rfl
    · have all : ∀ n ∈ foreignLetters, (upperChar (Char.ofNat n)).all Char.isUpper = true := by
        decide +kernel
      have here := all _ foreign
      rwa [Char.ofNat_toNat] at here

theorem upperChar_ne_nil (c : Char) : upperChar c ≠ [] := by
  have all : ∀ entry ∈ upperExpansions, entry.2 ≠ [] := by
    decide +kernel
  unfold upperChar
  cases expanded : expansion? upperExpansions c with
  | none => exact List.cons_ne_nil _ _
  | some image =>
      obtain ⟨codes, mem, rfl⟩ := mem_of_expansion? expanded
      simpa using all _ mem

theorem upper_eq_nil_iff {cs : List Char} : upper cs = [] ↔ cs = [] := by
  cases cs with
  | nil => simp
  | cons c rest => simp [upperChar_ne_nil]

/-- The texts that become capital letters are made of letters and foreign letters. -/
theorem all_isUpper_upper_iff {cs : List Char} :
    (upper cs).all Char.isUpper = true ↔
      ∀ c ∈ cs, c.isAlpha = true ∨ c.toNat ∈ foreignLetters := by
  rw [upper, List.all_flatMap, List.all_eq_true]
  exact forall₂_congr fun c _ => all_isUpper_upperChar_iff

theorem upper_of_ascii {cs : List Char} (h : ∀ c ∈ cs, c.toNat < 128) :
    upper cs = cs.map Char.toUpper := by
  induction cs with
  | nil => rfl
  | cons c rest ih =>
      rw [upper_cons, upperChar_ascii (h c List.mem_cons_self),
        ih fun d mem => h d (List.mem_cons_of_mem c mem)]
      rfl

theorem upper_of_letters {cs : List Char} (h : ∀ c ∈ cs, c.isAlpha = true) :
    upper cs = cs.map Char.toUpper :=
  upper_of_ascii fun c mem => ascii_of_isAlphanum (isAlphanum_of_isAlpha (h c mem))

end Text
end FormulaSheet
