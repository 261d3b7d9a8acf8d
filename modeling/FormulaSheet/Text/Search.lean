/-!
# Searching and replacing

Positions count characters from zero. `indexOf?` finds the leftmost occurrence of a text in another
one, `findFrom?` the leftmost one at or after a position, and `replaceAll` replaces the occurrences
that a scan from left to right meets, each search starting behind the last occurrence. An empty text
occurs at every position, so replacing it puts the new text around every character.

`indexOf?_eq_some_iff` characterises the position that is found.
-/

namespace FormulaSheet
namespace Text

/-- The first position at which `needle` occurs. -/
def indexOf? (needle : List Char) : List Char → Option Nat
  | [] => if needle.isEmpty then some 0 else none
  | c :: rest =>
    if needle.isPrefixOf (c :: rest) then some 0 else (indexOf? needle rest).map (· + 1)

/-- The first position at or after `start` at which `needle` occurs. -/
def findFrom? (needle hay : List Char) (start : Nat) : Option Nat :=
  (indexOf? needle (hay.drop start)).map (· + start)

/-- Puts `new` before every character and at the end. -/
def interleave (new : List Char) (cs : List Char) : List Char :=
  cs.flatMap (fun c => new ++ [c]) ++ new

/-- Replaces the occurrences of the non-empty `old` that a scan from left to right meets. -/
def replaceOccurrences (old new : List Char) : List Char → List Char
  | [] => []
  | c :: rest =>
    if old.isPrefixOf (c :: rest) then
      new ++ replaceOccurrences old new (rest.drop (old.length - 1))
    else c :: replaceOccurrences old new rest
termination_by cs => cs.length
decreasing_by all_goals simp only [List.length_drop, List.length_cons]; omega

/-- Replaces every occurrence of `old`. -/
def replaceAll (old new cs : List Char) : List Char :=
  if old.isEmpty then interleave new cs else replaceOccurrences old new cs

/-- The characters from `start` on, at most `count` of them. -/
def slice (start count : Nat) (cs : List Char) : List Char :=
  (cs.drop start).take count

theorem indexOf?_nil_right (needle : List Char) :
    indexOf? needle [] = if needle = [] then some 0 else none := by
  cases needle <;> rfl

/-- The position found is the least one at which the text occurs. -/
theorem indexOf?_eq_some_iff {needle hay : List Char} {i : Nat} :
    indexOf? needle hay = some i ↔
      needle <+: hay.drop i ∧ i ≤ hay.length ∧ ∀ j < i, ¬ needle <+: hay.drop j := by
  induction hay generalizing i with
  | nil =>
    rw [indexOf?_nil_right]
    by_cases h : needle = []
    · subst h
      cases i with
      | zero => simp
      | succ i => simp
    · simp [h]
  | cons c rest ih =>
    by_cases h : needle.isPrefixOf (c :: rest) = true
    · have here : needle <+: c :: rest := List.isPrefixOf_iff_prefix.1 h
      rw [indexOf?, if_pos h]
      constructor
      · rintro ⟨⟩
        exact ⟨by simpa using here, by simp, by simp⟩
      · rintro ⟨_, _, least⟩
        cases i with
        | zero => rfl
        | succ i => exact absurd (by simpa using here) (least 0 (Nat.succ_pos i))
    · have absent : ¬ needle <+: c :: rest := fun here => h (List.isPrefixOf_iff_prefix.2 here)
      rw [indexOf?, if_neg h]
      cases i with
      | zero => simp [absent]
      | succ i =>
        simp only [Option.map_eq_some_iff, Nat.add_right_cancel_iff, exists_eq_right, ih,
          List.drop_succ_cons, List.length_cons, Nat.add_le_add_iff_right]
        refine and_congr_right fun _ => and_congr_right fun _ => ⟨fun least j lt => ?_, fun least j lt => ?_⟩
        · cases j with
          | zero => simpa using absent
          | succ j => simpa using least j (by omega)
        · simpa using least (j + 1) (by omega)

end Text
end FormulaSheet
