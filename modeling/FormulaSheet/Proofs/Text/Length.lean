import FormulaSheet.Function.Text
import FormulaSheet.Proofs.Text.Capital
import Mathlib.Algebra.Ring.Nat

/-!
# How long texts become

Taking a part of a text makes it no longer. The mappings of case may: a few characters stand for two or three
in the other case, and none for nothing. Replacing a character by a text goes through the characters one by
one.

* `length_upper` and `length_lower` count the characters of a text in the other case, although the lower case
  of a sigma depends on its place.
* `length_le_properFrom` says that `PROPER` loses no character.
* `replaceOccurrences_singleton` is the replacement of single characters.
-/

namespace FormulaSheet
namespace Text

/-! ### Parts of a text -/

theorem strip_sublist (cs : List Char) : (strip cs).Sublist cs := by
  have back : (stripBack (stripFront cs)).Sublist (stripFront cs) := by
    rw [← List.reverse_sublist, stripBack, List.reverse_reverse]
    exact List.dropWhile_sublist isBlank
  exact back.trans (List.dropWhile_sublist isBlank)

theorem slice_sublist (start count : Nat) (cs : List Char) : (slice start count cs).Sublist cs :=
  (List.take_sublist count _).trans (List.drop_sublist start cs)

/-! ### The other case -/

theorem length_upper (cs : List Char) :
    (upper cs).length = (cs.map fun c => (upperChar c).length).sum :=
  List.length_flatMap

/-- Both forms of the small sigma are one character. -/
theorem length_lowerAfter (before cs : List Char) :
    (lowerAfter before cs).length = (cs.map fun c => (lowerChar c).length).sum := by
  induction cs generalizing before with
  | nil => rfl
  | cons c rest ih =>
      rw [lowerAfter, List.length_append, ih, List.map_cons, List.sum_cons]
      split
      · next final =>
        have single : (lowerChar capitalSigma).length = 1 := by decide +kernel
        rw [final.1, single]
        rfl
      · rfl

theorem length_lower (cs : List Char) :
    (lower cs).length = (cs.map fun c => (lowerChar c).length).sum :=
  length_lowerAfter [] cs

theorem lowerChar_ne_nil (c : Char) : lowerChar c ≠ [] := by
  have all : ∀ entry ∈ lowerExpansions, entry.2 ≠ [] := by
    decide +kernel
  unfold lowerChar
  cases expanded : expansion? lowerExpansions c with
  | none => exact List.cons_ne_nil _ _
  | some image =>
      obtain ⟨codes, mem, rfl⟩ := mem_of_expansion? expanded
      simpa using all _ mem

/-! ### Replacing -/

/-- A single character is replaced wherever it stands. -/
theorem replaceOccurrences_singleton (c : Char) (new cs : List Char) :
    replaceOccurrences [c] new cs = cs.flatMap fun d => if c = d then new else [d] := by
  induction cs with
  | nil => rw [replaceOccurrences, List.flatMap_nil]
  | cons d rest ih =>
      rw [replaceOccurrences, List.flatMap_cons, ← ih]
      by_cases same : c = d
      · simp [same]
      · simp [same]

end Text

namespace Function

/-- No character is lost where words are put into their proper case. -/
theorem length_le_properFrom (atBoundary : Bool) (cs : List Char) :
    cs.length ≤ (properFrom atBoundary cs).length := by
  induction cs generalizing atBoundary with
  | nil => exact Nat.le_refl 0
  | cons c rest ih =>
      rw [properFrom]
      split
      · exact Nat.succ_le_succ (ih true)
      · have nonempty : 0 < (if atBoundary then Text.upperChar c else Text.lowerChar c).length := by
          split
          · exact List.length_pos_iff.2 (Text.upperChar_ne_nil c)
          · exact List.length_pos_iff.2 (Text.lowerChar_ne_nil c)
        have others := ih false
        rw [List.length_append, List.length_cons]
        omega

/-- The first letter of a word may become longer. -/
theorem length_le_properFrom_cons {c : Char} (letter : isWordBoundary c = false) (cs : List Char) :
    (Text.upperChar c).length + cs.length ≤ (properFrom true (c :: cs)).length := by
  simpa [properFrom, letter] using length_le_properFrom false cs

end Function
end FormulaSheet
