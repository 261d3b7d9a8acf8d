import FormulaSheet.Proofs.Function.Ends
import Mathlib.Order.Bounds.Basic

/-!
# Finding and replacing agree

`FIND` and `MID` count positions from zero and `REPLACE` counts them from one, while `SUBSTITUTE` knows no
positions at all. `FIND` gives the least position from which `MID` reads the text that is looked for, and
`SUBSTITUTE` gives what a loop of `FIND` and `REPLACE` makes, which goes on behind the text that it has just
put in.

* `findFrom?_eq_some_iff` is the statement about one search, and `replaceOccurrences_of_found` the one about
  one step of the substitution.
* `rewrites_replaceOccurrences` carries the steps through the loop. What is in front of the cursor has been
  dealt with, and what is behind it has not been touched: it gets shorter with every pass, even where the new
  text contains the old one.
* `find_replace_substitute` is the statement about the four functions.
-/

namespace FormulaSheet

/-- An argument that is an integer, or a text that is read as one. -/
def Value.IsInteger (v : Value) (n : Int) : Prop :=
  Number.integer? v.toNumber = some n

namespace Text

variable {old new cs front rest : List Char} {start i : Nat}

/-- A text stands at a position of another one. -/
def OccursAt (old cs : List Char) (i : Nat) : Prop :=
  i + old.length ≤ cs.length ∧ slice i old.length cs = old

/-- A search from a position inside the text, or at its end, meets the text first at this position. -/
def Finds (old cs : List Char) (start : Int) (i : Nat) : Prop :=
  (0 ≤ start ∧ start ≤ cs.length) ∧ IsLeast {p : Nat | start ≤ p ∧ OccursAt old cs p} i

/-- Puts `new` in the place of some characters from a position on, which is counted from one. -/
def spliced (start count : Nat) (new cs : List Char) : List Char :=
  cs.take (start - 1) ++ new ++ cs.drop (start - 1 + count)

/-- What the loop makes of a text, begun at a cursor: as long as the old text is found from the cursor on,
the new one is put in its place and the cursor goes behind it. -/
inductive Rewrites (old new : List Char) : List Char → Nat → List Char → Prop
  | done {cs : List Char} {cursor : Nat} (absent : ∀ i, ¬ Finds old cs cursor i) :
      Rewrites old new cs cursor cs
  | pass {cs result : List Char} {cursor i : Nat} (found : Finds old cs cursor i)
      (further : Rewrites old new (spliced (i + 1) old.length new cs) (i + new.length) result) :
      Rewrites old new cs cursor result

/-! ### One search -/

theorem occursAt_iff : OccursAt old cs i ↔ i ≤ cs.length ∧ old <+: cs.drop i := by
  unfold OccursAt slice
  constructor
  · rintro ⟨fits, same⟩
    exact ⟨by omega, List.prefix_iff_eq_take.2 same.symm⟩
  · rintro ⟨inside, begins⟩
    have length := begins.length_le
    rw [List.length_drop] at length
    exact ⟨by omega, (List.prefix_iff_eq_take.1 begins).symm⟩

theorem indexOf?_eq_some : indexOf? old cs = some i ↔ IsLeast {p : Nat | OccursAt old cs p} i := by
  rw [indexOf?_eq_some_iff]
  constructor
  · rintro ⟨begins, inside, least⟩
    refine ⟨occursAt_iff.2 ⟨inside, begins⟩, fun p occurs => ?_⟩
    by_contra before
    exact least p (Nat.not_le.1 before) (occursAt_iff.1 occurs).2
  · rintro ⟨occurs, least⟩
    obtain ⟨inside, begins⟩ := occursAt_iff.1 occurs
    refine ⟨begins, inside, fun p before begins => ?_⟩
    have le := least (occursAt_iff.2 ⟨by omega, begins⟩)
    omega

theorem occursAt_append : OccursAt old (front ++ rest) (front.length + i) ↔ OccursAt old rest i := by
  rw [occursAt_iff, occursAt_iff, List.drop_length_add_append, List.length_append,
    Nat.add_le_add_iff_left]

/-- A search behind `front` finds what a search in the rest finds. -/
theorem finds_append_iff :
    Finds old (front ++ rest) front.length i ↔ ∃ j, indexOf? old rest = some j ∧ i = front.length + j := by
  have inside : (0 : Int) ≤ front.length ∧ (front.length : Int) ≤ (front ++ rest).length := by
    rw [List.length_append]
    omega
  constructor
  · rintro ⟨_, ⟨behind, occurs⟩, least⟩
    obtain ⟨j, rfl⟩ := Nat.exists_eq_add_of_le (Int.ofNat_le.1 behind)
    refine ⟨j, indexOf?_eq_some.2 ⟨occursAt_append.1 occurs, fun p other => ?_⟩, rfl⟩
    have le := least ⟨Int.ofNat_le.2 (Nat.le_add_right _ p), occursAt_append.2 other⟩
    omega
  · rintro ⟨j, found, rfl⟩
    obtain ⟨occurs, least⟩ := indexOf?_eq_some.1 found
    refine ⟨inside, ⟨Int.ofNat_le.2 (Nat.le_add_right _ j), occursAt_append.2 occurs⟩, ?_⟩
    rintro p ⟨behind, other⟩
    obtain ⟨q, rfl⟩ := Nat.exists_eq_add_of_le (Int.ofNat_le.1 behind)
    exact Nat.add_le_add_left (least (occursAt_append.1 other)) _

theorem findFrom?_eq_some_iff (inside : start ≤ cs.length) :
    findFrom? old cs start = some i ↔ Finds old cs start i := by
  have found : Finds old (cs.take start ++ cs.drop start) (cs.take start).length i ↔ _ := finds_append_iff
  rw [List.take_append_drop, List.length_take_of_le inside] at found
  rw [found, findFrom?, Option.map_eq_some_iff]
  exact exists_congr fun j => and_congr_right fun _ => by omega

theorem Finds.unique {k : Int} {j : Nat} (first : Finds old cs k i) (second : Finds old cs k j) : i = j :=
  first.2.unique second.2

/-! ### The loop -/

theorem replaceOccurrences_of_absent (absent : indexOf? old cs = none) :
    replaceOccurrences old new cs = cs := by
  induction cs with
  | nil => rw [replaceOccurrences]
  | cons c rest ih =>
      rw [indexOf?] at absent
      split at absent
      · cases absent
      · next other =>
        rw [replaceOccurrences, if_neg other, ih (Option.map_eq_none_iff.1 absent)]

/-- The substitution puts the new text in the place of the first occurrence, and goes on behind it. -/
theorem replaceOccurrences_of_found (ne : old ≠ []) (found : indexOf? old cs = some i) :
    replaceOccurrences old new cs =
      cs.take i ++ new ++ replaceOccurrences old new (cs.drop (i + old.length)) := by
  induction cs generalizing i with
  | nil =>
      rw [indexOf?_nil_right, if_neg ne] at found
      cases found
  | cons c rest ih =>
      have pos := List.length_pos_iff.2 ne
      rw [indexOf?] at found
      split at found
      · next here =>
        cases found
        obtain ⟨n, same⟩ := Nat.exists_eq_succ_of_ne_zero pos.ne'
        rw [replaceOccurrences, if_pos here, same]
        simp
      · next other =>
        obtain ⟨j, later, rfl⟩ := Option.map_eq_some_iff.1 found
        rw [replaceOccurrences, if_neg other, ih later, Nat.add_right_comm]
        rfl

/-- One pass of the loop: what is behind the cursor loses the text up to the end of the occurrence. -/
theorem spliced_append {j count : Nat} :
    spliced (front.length + j + 1) count new (front ++ rest) =
      (front ++ rest.take j ++ new) ++ rest.drop (j + count) := by
  unfold spliced
  rw [Nat.add_sub_cancel, List.take_length_add_append, Nat.add_assoc, List.drop_length_add_append]

/-- The loop leaves what is in front of the cursor and makes the substitution behind it. -/
theorem rewrites_replaceOccurrences (ne : old ≠ []) (front rest : List Char) :
    Rewrites old new (front ++ rest) front.length (front ++ replaceOccurrences old new rest) := by
  -- The induction is on the length of what is behind the cursor, which every pass shortens.
  induction length : rest.length using Nat.strong_induction_on generalizing front rest with
  | _ n ih =>
      cases search : indexOf? old rest with
      | none =>
          rw [replaceOccurrences_of_absent search]
          refine .done fun i found => ?_
          obtain ⟨j, occurs, _⟩ := finds_append_iff.1 found
          rw [search] at occurs
          cases occurs
      | some j =>
          have fits := (indexOf?_eq_some.1 search).1.1
          have shorter : (rest.drop (j + old.length)).length < n := by
            have pos := List.length_pos_iff.2 ne
            rw [List.length_drop]
            omega
          have further := ih _ shorter (front ++ rest.take j ++ new) _ rfl
          refine .pass (finds_append_iff.2 ⟨j, search, rfl⟩) ?_
          rw [spliced_append, replaceOccurrences_of_found ne search]
          simpa [List.length_take_of_le (by omega : j ≤ rest.length), Nat.add_assoc] using further

/-- The loop comes to one result. -/
theorem Rewrites.unique {cursor : Nat} {first second : List Char} (h : Rewrites old new cs cursor first)
    (h' : Rewrites old new cs cursor second) : first = second := by
  induction h with
  | done absent =>
      cases h' with
      | done _ => rfl
      | pass found _ => exact absurd found (absent _)
  | pass found further ih =>
      cases h' with
      | done absent => exact absurd found (absent _)
      | pass found' further' =>
          cases found.unique found'
          exact ih further'

end Text

/-! ### The functions -/

namespace Function

open Text (Finds Rewrites spliced slice findFrom?_eq_some_iff)

variable {t old new start count : Value} {k : Int} {i n : Nat}

theorem wholeArgument_of_isInteger {v : Value} (h : v.IsInteger k) : wholeArgument v = .ok k := by
  rw [wholeArgument, truncate_of_integer? h, calculate_ok]

theorem find_of_isInteger (h : start.IsInteger k) :
    find [old, t, start] = position old.toText t.toText k := by
  rw [find, wholeArgument_of_isInteger h]
  rfl

theorem position_of_finds {needle hay : String} (found : Finds needle.toList hay.toList k i) :
    position needle hay k = .ok (countValue i) := by
  obtain ⟨nonneg, inside⟩ := found.1
  have start : (k.toNat : Int) = k := Int.toNat_of_nonneg nonneg
  have search : Text.findFrom? needle.toList hay.toList k.toNat = some i :=
    (findFrom?_eq_some_iff (by omega)).2 (start ▸ found)
  simp [position, search, Int.not_lt.2 nonneg, Int.not_lt.2 inside]

theorem position_of_absent {needle hay : String} (absent : ∀ i, ¬ Finds needle.toList hay.toList k i) :
    ∃ fault, position needle hay k = .error fault := by
  unfold position
  dsimp only
  split
  · exact ⟨_, rfl⟩
  · next inside =>
    have start : (k.toNat : Int) = k := Int.toNat_of_nonneg (by omega)
    have search : Text.findFrom? needle.toList hay.toList k.toNat = none :=
      Option.eq_none_iff_forall_ne_some.2 fun i found =>
        absent i (start ▸ (findFrom?_eq_some_iff (by omega)).1 found)
    rw [search]
    exact ⟨_, rfl⟩

theorem middle_of_isNatural (first : start.IsNatural i) (number : count.IsNatural n) :
    middle [t, start, count] = .ok (.text (String.ofList (slice i n t.toText.toList))) := by
  rw [middle, countArgument_of_isNatural first, countArgument_of_isNatural number]
  rfl

theorem replace_of_isNatural (first : start.IsNatural (i + 1)) (number : count.IsNatural n) :
    replace [t, start, count, new] =
      .ok (.text (String.ofList (spliced (i + 1) n new.toText.toList t.toText.toList))) := by
  have place : ((i + 1 : Nat) : Int) - 1 = i := by omega
  rw [replace, wholeArgument_of_isInteger first, wholeArgument_of_isInteger number, ok_bind, ok_bind,
    place, if_neg (Int.not_lt.2 (Int.natCast_nonneg i)), if_neg (Int.not_lt.2 (Int.natCast_nonneg n))]
  rfl

/-- `FIND` gives the least position at or behind its start from which `MID` reads the text, and fails where
there is none or the start lies outside. `SUBSTITUTE` gives what a loop comes to that puts the new text in
with `REPLACE`, one position further than `FIND` has found the old one, and goes on behind it. -/
theorem find_replace_substitute (t old new : Value) :
    (∀ start k, start.IsInteger k →
        (∃ i, Finds old.toText.toList t.toText.toList k i ∧
            find [old, t, start] = .ok (countValue i)) ∨
          (∀ i, ¬ Finds old.toText.toList t.toText.toList k i) ∧
            ∃ fault, find [old, t, start] = .error fault) ∧
      (∀ start count i n, start.IsNatural i → count.IsNatural n →
        middle [t, start, count] = .ok (.text (String.ofList (slice i n t.toText.toList)))) ∧
      (∀ start count i n, start.IsNatural (i + 1) → count.IsNatural n →
        replace [t, start, count, new] =
          .ok (.text (String.ofList (spliced (i + 1) n new.toText.toList t.toText.toList)))) ∧
      (old.toText ≠ "" → ∀ result, substitute [t, old, new] = .ok (.text result) ↔
        Rewrites old.toText.toList new.toText.toList t.toText.toList 0 result.toList) := by
  refine ⟨fun start k whole => ?_, fun _ _ _ _ => middle_of_isNatural,
    fun _ _ _ _ => replace_of_isNatural, fun ne result => ?_⟩
  · rw [find_of_isInteger whole]
    by_cases found : ∃ i, Finds old.toText.toList t.toText.toList k i
    · obtain ⟨i, found⟩ := found
      exact Or.inl ⟨i, found, position_of_finds found⟩
    · have absent := not_exists.1 found
      exact Or.inr ⟨absent, position_of_absent absent⟩
  · have nonempty : old.toText.toList ≠ [] := fun empty => ne (String.toList_eq_nil_iff.1 empty)
    have loop : Rewrites _ new.toText.toList t.toText.toList 0 _ :=
      Text.rewrites_replaceOccurrences nonempty [] t.toText.toList
    have filled : old.toText.toList.isEmpty = false := List.isEmpty_eq_false_iff.2 nonempty
    rw [substitute, Text.replaceAll, if_neg (by rw [filled]; exact Bool.false_ne_true), Except.ok.injEq,
      Value.text.injEq]
    constructor
    · rintro rfl
      rw [String.toList_ofList]
      exact loop
    · intro rewrites
      rw [← String.toList_inj, String.toList_ofList]
      exact loop.unique rewrites

/-- A text whose occurrences overlap: the second one is found only if the search starts behind the first one,
and the loop does not meet what it has put together itself. -/
theorem find_replace_substitute_overlapping :
    (Value.number 2).IsInteger 2 ∧
      (∃ i, Finds "ana".toList "banana".toList 2 i ∧
        find [.text "ana", .text "banana", .number 2] = .ok (countValue i)) ∧
      "ana" ≠ "" ∧ Rewrites "ana".toList "a".toList "banana".toList 0 "bana".toList := by
  have whole : (Value.number 2).IsInteger 2 := by
    unfold Value.IsInteger
    decide +kernel
  obtain ⟨finds, _, _, loops⟩ := find_replace_substitute (.text "banana") (.text "ana") (.text "a")
  refine ⟨whole, ?_, by decide, (loops (by decide) "bana").1 (by decide +kernel)⟩
  rcases finds (.number 2) 2 whole with found | ⟨_, fault, failed⟩
  · exact found
  · have given : find [.text "ana", .text "banana", .number 2] = .ok (countValue 3) := by
      decide +kernel
    rw [given] at failed
    cases failed

end Function
end FormulaSheet
