import FormulaSheet.Address.Reference
import FormulaSheet.Text.Class
import Mathlib.Data.List.TakeWhile

/-!
# Letters, digits and blanks

Letters and digits are among the first 128 characters, where a fact about all characters of a class is
a finite check. Outside of them a character is no letter, no digit, and its own upper case.
-/

namespace FormulaSheet
namespace Text

theorem exists_ofNat_of_ascii {c : Char} (h : c.toNat < 128) : ∃ n < 128, Char.ofNat n = c :=
  ⟨c.toNat, h, Char.ofNat_toNat c⟩

/-- A number that is no code point is taken for the code point zero. -/
theorem toNat_ofNat_of_ne_zero {n : Nat} (h : (Char.ofNat n).toNat ≠ 0) :
    (Char.ofNat n).toNat = n := by
  by_cases valid : n.isValidChar
  · have same : Char.ofNat n = Char.ofNatAux n valid := dif_pos valid
    rw [same]
    rfl
  · exact absurd (congrArg Char.toNat (dif_neg valid)) h

theorem ascii_of_isAlphanum {c : Char} (h : c.isAlphanum = true) : c.toNat < 128 := by
  delta Char.isAlphanum Char.isAlpha Char.isUpper Char.isLower Char.isDigit at h
  simp only [Bool.or_eq_true, Bool.and_eq_true, decide_eq_true_eq, ge_iff_le,
    UInt32.le_iff_toNat_le] at h
  have upper : ('Z' : Char).val.toNat < 128 := by decide
  have lower : ('z' : Char).val.toNat < 128 := by decide
  have digit : ('9' : Char).val.toNat < 128 := by decide
  unfold Char.toNat
  omega

theorem isAlphanum_of_isAlpha {c : Char} (h : c.isAlpha = true) : c.isAlphanum = true := by
  simp [Char.isAlphanum, h]

theorem isAlphanum_of_isDigit {c : Char} (h : c.isDigit = true) : c.isAlphanum = true := by
  simp [Char.isAlphanum, h]

theorem isAlpha_of_isUpper {c : Char} (h : c.isUpper = true) : c.isAlpha = true := by
  change (c.isUpper || c.isLower) = true
  rw [h, Bool.true_or]

theorem isAlpha_of_isDigit {c : Char} (h : c.isDigit = true) : c.isAlpha = false := by
  have all : ∀ n < 128, (Char.ofNat n).isDigit = true → (Char.ofNat n).isAlpha = false := by
    decide +kernel
  obtain ⟨n, lt, rfl⟩ := exists_ofNat_of_ascii (ascii_of_isAlphanum (isAlphanum_of_isDigit h))
  exact all n lt h

/-- A letter or a digit is no blank. -/
theorem isBlank_of_isAlphanum {c : Char} (h : c.isAlphanum = true) : isBlank c = false := by
  have all : ∀ n < 128, (Char.ofNat n).isAlphanum = true → isBlank (Char.ofNat n) = false := by
    decide +kernel
  obtain ⟨n, lt, rfl⟩ := exists_ofNat_of_ascii (ascii_of_isAlphanum h)
  exact all n lt h

theorem isAlphanum_of_isBlank {c : Char} (h : isBlank c = true) : c.isAlphanum = false := by
  cases alphanum : c.isAlphanum with
  | false => rfl
  | true =>
      rw [isBlank_of_isAlphanum alphanum] at h
      cases h

/-- Only small letters of ASCII have another upper case there. -/
theorem toUpper_of_isLower_false {c : Char} (h : c.isLower = false) : c.toUpper = c := by
  delta Char.isLower at h
  have large : ¬ (c.val ≥ 'a'.val ∧ c.val ≤ 'z'.val) := by simpa using h
  exact dif_neg large

theorem toUpper_of_isAlpha_false {c : Char} (h : c.isAlpha = false) : c.toUpper = c :=
  toUpper_of_isLower_false (Bool.or_eq_false_iff.1 h).2

/-- A fact about characters is one about the first 128, and one about those that are no letters and their own
upper case. -/
theorem of_ascii_or_other {P : Char → Prop} (ascii : ∀ n < 128, P (Char.ofNat n))
    (other : ∀ c : Char, c.isAlpha = false → c.toUpper = c → P c) (c : Char) : P c := by
  by_cases small : c.toNat < 128
  · obtain ⟨n, lt, rfl⟩ := exists_ofNat_of_ascii small
    exact ascii n lt
  · have plain : c.isAlpha = false := Bool.eq_false_iff.2 fun letter =>
      small (ascii_of_isAlphanum (isAlphanum_of_isAlpha letter))
    exact other c plain (toUpper_of_isAlpha_false plain)

/-- Upper case keeps letters and digits apart. -/
theorem isAlpha_toUpper (c : Char) : c.toUpper.isAlpha = c.isAlpha := by
  induction c using of_ascii_or_other with
  | ascii n lt =>
      revert n
      decide +kernel
  | other c _ same =>
      rw [same]

theorem isDigit_toUpper (c : Char) : c.toUpper.isDigit = c.isDigit := by
  induction c using of_ascii_or_other with
  | ascii n lt =>
      revert n
      decide +kernel
  | other c _ same =>
      rw [same]

/-- What is a capital letter in upper case is a letter. -/
theorem isUpper_toUpper (c : Char) : c.toUpper.isUpper = c.isAlpha := by
  induction c using of_ascii_or_other with
  | ascii n lt =>
      revert n
      decide +kernel
  | other c plain same =>
      rw [same, plain]
      exact (Bool.or_eq_false_iff.1 plain).1

theorem toUpper_toUpper (c : Char) : c.toUpper.toUpper = c.toUpper := by
  induction c using of_ascii_or_other with
  | ascii n lt =>
      revert n
      decide +kernel
  | other c _ same =>
      rw [same, same]

theorem toUpper_of_isDigit {c : Char} (h : c.isDigit = true) : c.toUpper = c :=
  toUpper_of_isAlpha_false (isAlpha_of_isDigit h)

/-! ### The longest front of a class -/

section Front

variable {α : Type} {p : α → Bool} {front back : List α}

theorem takeWhile_of_head (h : ∀ a ∈ back.head?, p a = false) : back.takeWhile p = [] := by
  cases back with
  | nil => rfl
  | cons a rest => rw [List.takeWhile_cons_of_neg (by rw [h a rfl]; exact Bool.false_ne_true)]

theorem dropWhile_of_head (h : ∀ a ∈ back.head?, p a = false) : back.dropWhile p = back := by
  cases back with
  | nil => rfl
  | cons a rest => rw [List.dropWhile_cons_of_neg (by rw [h a rfl]; exact Bool.false_ne_true)]

theorem takeWhile_append_of_head (all : ∀ a ∈ front, p a = true)
    (h : ∀ a ∈ back.head?, p a = false) : (front ++ back).takeWhile p = front := by
  rw [List.takeWhile_append_of_pos all, takeWhile_of_head h, List.append_nil]

theorem dropWhile_append_of_head (all : ∀ a ∈ front, p a = true)
    (h : ∀ a ∈ back.head?, p a = false) : (front ++ back).dropWhile p = back := by
  rw [List.dropWhile_append_of_pos all, dropWhile_of_head h]

/-- Behind the longest front of a class stands nothing of the class. -/
theorem head_dropWhile {cs : List α} {a : α} (h : a ∈ (cs.dropWhile p).head?) : p a = false := by
  have other := List.head?_dropWhile_not p cs
  rw [h] at other
  exact other

theorem mem_dropWhile {cs : List α} {a : α} (mem : a ∈ cs) (h : p a = false) :
    a ∈ cs.dropWhile p := by
  rw [← List.takeWhile_append_dropWhile (p := p) (l := cs), List.mem_append] at mem
  rcases mem with taken | dropped
  · rw [List.mem_takeWhile_imp taken] at h
    cases h
  · exact dropped

end Front

/-- Only blanks are stripped. -/
theorem mem_strip {cs : List Char} {c : Char} (mem : c ∈ cs) (h : isBlank c = false) :
    c ∈ strip cs := by
  have front : c ∈ (stripFront cs).reverse := List.mem_reverse.2 (mem_dropWhile mem h)
  exact List.mem_reverse.2 (mem_dropWhile front h)

/-- All blanks around a character that is none are stripped. -/
theorem strip_around {before behind : List Char} (front : ∀ b ∈ before, isBlank b = true)
    (back : ∀ b ∈ behind, isBlank b = true) {c : Char} (h : isBlank c = false) :
    strip (before ++ c :: behind) = [c] := by
  have first : stripFront (before ++ c :: behind) = c :: behind := by
    refine dropWhile_append_of_head front ?_
    rintro _ ⟨⟩
    exact h
  have last : (behind.reverse ++ [c]).dropWhile isBlank = [c] := by
    refine dropWhile_append_of_head (fun b mem => back b (List.mem_reverse.1 mem)) ?_
    rintro _ ⟨⟩
    exact h
  rw [strip, first, stripBack, List.reverse_cons, last]
  rfl

/-- What is stripped from a text are blanks at its two ends. -/
theorem exists_around_strip (cs : List Char) :
    ∃ before behind, cs = before ++ strip cs ++ behind ∧ (∀ b ∈ before, isBlank b = true) ∧
      ∀ b ∈ behind, isBlank b = true := by
  refine ⟨cs.takeWhile isBlank, ((stripFront cs).reverse.takeWhile isBlank).reverse, ?_,
    fun b mem => List.mem_takeWhile_imp mem, fun b mem => ?_⟩
  · rw [List.append_assoc, strip, stripBack, ← List.reverse_append, List.takeWhile_append_dropWhile,
      List.reverse_reverse, stripFront, List.takeWhile_append_dropWhile]
  · exact List.mem_takeWhile_imp (List.mem_reverse.1 mem)

end Text
end FormulaSheet
