import FormulaSheet.Evaluation.Operator
import FormulaSheet.Function.Text
import FormulaSheet.Proofs.Result

/-!
# The two ends of a text

`LEFT` takes the first `n` characters of a text and `RIGHT` the last `n`. For `RIGHT` the position where
these start is the length less `n`, which is below zero if `n` is larger than the length. Such a position
counts from the end of the text again, so between the length and twice the length too little is taken:
only the characters by which `n` is larger than the length.

* `ending_of_le`, `ending_of_lt` and `ending_of_twice_le` say what `RIGHT` takes in each of the three zones.
* `splits_iff` says for which numbers the ends of a text are its first and its last characters, and fit
  together to the text.
* `not_splits_in_between` is a text of three characters of which the last four are asked for.
-/

namespace FormulaSheet

/-- An argument that is a natural number, or a text that is read as one. -/
def Value.IsNatural (v : Value) (n : Nat) : Prop :=
  Number.integer? v.toNumber = some (n : Int)

namespace Function

theorem truncate_of_integer? {x : Float} {n : Int} (h : Number.integer? x = some n) :
    Number.truncate x = .ok n := by
  unfold Number.integer? at h
  unfold Number.truncate Number.onFinite
  split at h
  · next negative mantissa exponent found =>
    rw [found]
    split at h
    · exact congrArg Except.ok (Option.some.inj h)
    · cases h
  · cases h

/-- A natural number is the number of characters that it stands for. -/
theorem countArgument_of_isNatural {v : Value} {n : Nat} (h : v.IsNatural n) :
    countArgument v = .ok n := by
  rw [countArgument, wholeArgument, truncate_of_integer? h]
  rfl

section Ending

variable {n : Nat} {cs : List Char}

/-- No more characters than there are: the last ones. -/
theorem ending_of_le (h : n ≤ cs.length) : ending n cs = cs.drop (cs.length - n) := by
  by_cases nothing : n = 0
  · simp [ending, nothing]
  · rw [ending, if_neg nothing, suffixFrom, if_neg (by omega)]
    congr 1
    omega

/-- More characters than there are, but less than twice as many: as many as are missing. -/
theorem ending_of_lt (more : cs.length < n) (less : n < 2 * cs.length) :
    ending n cs = cs.drop (2 * cs.length - n) := by
  rw [ending, if_neg (by omega), suffixFrom, if_pos (by omega)]
  congr 1
  omega

/-- Twice as many characters as there are, or more: all of them. -/
theorem ending_of_twice_le (h : 2 * cs.length ≤ n) : ending n cs = cs := by
  by_cases nothing : n = 0
  · have empty : cs = [] := List.length_eq_zero_iff.1 (by omega)
    simp [ending, nothing, empty]
  · have zero : (if (cs.length - n : Int) < 0 then (cs.length - n : Int) + cs.length
        else (cs.length - n : Int)).toNat = 0 := by
      split <;> omega
    rw [ending, if_neg nothing, suffixFrom, zero, List.drop_zero]

/-- The last characters are taken in the outer two zones only. -/
theorem ending_eq_drop_iff :
    ending n cs = cs.drop (cs.length - n) ↔ n ≤ cs.length ∨ 2 * cs.length ≤ n := by
  constructor
  · intro same
    by_contra between
    have lengths := congrArg List.length same
    rw [ending_of_lt (by omega) (by omega), List.length_drop, List.length_drop] at lengths
    omega
  · rintro (few | many)
    · exact ending_of_le few
    · rw [ending_of_twice_le many, Nat.sub_eq_zero_of_le (by omega), List.drop_zero]

end Ending

theorem left_of_isNatural {t number : Value} {n : Nat} (h : number.IsNatural n) :
    left [t, number] = .ok (.text (String.ofList (t.toText.toList.take n))) := by
  rw [left, countArgument_of_isNatural h]
  rfl

theorem right_of_isNatural {t number : Value} {n : Nat} (h : number.IsNatural n) :
    right [t, number] = .ok (.text (String.ofList (ending n t.toText.toList))) := by
  rw [right, countArgument_of_isNatural h]
  rfl

/-- Two parts of a text that fit together to the text. -/
def FitTogether (t : Value) (first second : Except CallFault Value) : Prop :=
  ∃ v w, first = .ok v ∧ second = .ok w ∧
    BinaryOp.concatenate.apply v w = .ok (.text t.toText)

theorem fitTogether_iff {t : Value} {front back : List Char} :
    FitTogether t (.ok (.text (String.ofList front))) (.ok (.text (String.ofList back))) ↔
      front ++ back = t.toText.toList := by
  constructor
  · rintro ⟨_, _, ⟨⟩, ⟨⟩, joined⟩
    have same : String.ofList front ++ String.ofList back = t.toText :=
      Value.text.inj (Except.ok.inj joined)
    rw [← same]
    simp
  · intro joined
    refine ⟨_, _, rfl, rfl, congrArg (Except.ok ∘ Value.text) ?_⟩
    rw [Value.toText_text, Value.toText_text, ← String.ofList_append, joined, String.ofList_toList]

/-- `LEFT` and `RIGHT` split a text: they give its first and its last `n` characters, or all of them if
there are fewer, and each of them fits together with the other one for the characters that are left. -/
structure Splits (t number others : Value) (n : Nat) : Prop where
  first : left [t, number] = .ok (.text (String.ofList (t.toText.toList.take n)))
  last : right [t, number] =
    .ok (.text (String.ofList (t.toText.toList.drop (t.toText.length - n))))
  front : FitTogether t (left [t, number]) (right [t, others])
  back : FitTogether t (left [t, others]) (right [t, number])

/-- A text is split by every number up to its length, and from twice its length on. In between, `LEFT`
gives the first characters, too, and `RIGHT` fits together with it for the characters that are left, but
`RIGHT` gives as many characters as the text is too short. -/
theorem splits_iff {t number others : Value} {n : Nat} (natural : number.IsNatural n)
    (leftOver : others.IsNatural (t.toText.length - n)) :
    (Splits t number others n ↔ n ≤ t.toText.length ∨ 2 * t.toText.length ≤ n) ∧
      (t.toText.length < n → n < 2 * t.toText.length →
        left [t, number] = .ok (.text t.toText) ∧
          FitTogether t (left [t, number]) (right [t, others]) ∧
          right [t, number] =
            .ok (.text (String.ofList (t.toText.toList.drop (2 * t.toText.length - n))))) := by
  have first := left_of_isNatural (t := t) natural
  have last := right_of_isNatural (t := t) natural
  have length : t.toText.toList.length = t.toText.length := String.length_toList
  -- What is left over is never more than the text, so that end is always the right one.
  have front : FitTogether t (left [t, number]) (right [t, others]) := by
    rw [first, right_of_isNatural leftOver, fitTogether_iff, ending_of_le (by omega), length]
    by_cases few : n ≤ t.toText.length
    · rw [Nat.sub_sub_self few, List.take_append_drop]
    · rw [List.take_of_length_le (by omega), List.drop_eq_nil_of_le (by omega), List.append_nil]
  refine ⟨⟨fun splits => ?_, fun outer => ?_⟩, fun more less => ⟨?_, front, ?_⟩⟩
  · have same := splits.last
    rw [last] at same
    have parts := String.ofList_injective (Value.text.inj (Except.ok.inj same))
    rw [← length] at parts ⊢
    exact ending_eq_drop_iff.1 parts
  · have taken : ending n t.toText.toList = t.toText.toList.drop (t.toText.length - n) := by
      rw [← length] at outer ⊢
      exact ending_eq_drop_iff.2 outer
    refine ⟨first, by rw [last, taken], front, ?_⟩
    rw [left_of_isNatural leftOver, last, fitTogether_iff, taken, List.take_append_drop]
  · rw [first, List.take_of_length_le (by omega), String.ofList_toList]
  · rw [last, ending_of_lt (by omega) (by omega), length]

/-- Two of three characters, and the other one. -/
theorem splits_two_of_three :
    (Value.number 2).IsNatural 2 ∧ (Value.number 1).IsNatural ("abc".length - 2) ∧
      Splits (.text "abc") (.number 2) (.number 1) 2 := by
  have natural : (Value.number 2).IsNatural 2 := by
    unfold Value.IsNatural
    decide +kernel
  have leftOver : (Value.number 1).IsNatural ("abc".length - 2) := by
    unfold Value.IsNatural
    decide +kernel
  exact ⟨natural, leftOver, (splits_iff (t := .text "abc") natural leftOver).1.2 (Or.inl (by decide))⟩

/-- The last four of three characters would be all three of them, and not the last one alone. -/
theorem not_splits_in_between :
    (Value.number 4).IsNatural 4 ∧ (Value.number 0).IsNatural ("abc".length - 4) ∧
      right [.text "abc", .number 4] = .ok (.text "c") ∧
      ¬ Splits (.text "abc") (.number 4) (.number 0) 4 := by
  have natural : (Value.number 4).IsNatural 4 := by
    unfold Value.IsNatural
    decide +kernel
  have leftOver : (Value.number 0).IsNatural ("abc".length - 4) := by
    unfold Value.IsNatural
    decide +kernel
  have given : right [.text "abc", .number 4] = .ok (.text "c") := by
    rw [right_of_isNatural natural]
    decide +kernel
  refine ⟨natural, leftOver, given, fun splits => ?_⟩
  have last := splits.last
  rw [given] at last
  exact absurd (Value.text.inj (Except.ok.inj last)) (by decide)

end Function
end FormulaSheet
