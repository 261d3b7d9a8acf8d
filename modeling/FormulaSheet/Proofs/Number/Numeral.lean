import FormulaSheet.Number.Read
import FormulaSheet.Proofs.Text.Character

/-!
# Numerals without a sign

A numeral is a run of digits, perhaps with a point and further digits or none behind it. It starts with a
digit, so it has no sign and is no word for an infinity or for no number, and it is read as the number that
its digits spell (`read?_of_isNumeral`).
-/

namespace FormulaSheet
namespace Number

/-- A text consists of the digits `whole`, or of these, a point, and the digits `fraction`. -/
inductive IsNumeral (whole : List Char) : List Char → List Char → Prop
  | integral (ne : whole ≠ []) (all : ∀ c ∈ whole, c.isDigit = true) : IsNumeral whole [] whole
  | pointed {fraction : List Char} (ne : whole ≠ []) (all : ∀ c ∈ whole, c.isDigit = true)
      (more : ∀ c ∈ fraction, c.isDigit = true) :
      IsNumeral whole fraction (whole ++ '.' :: fraction)

variable {whole fraction cs : List Char}

theorem IsNumeral.isDigit_or_point (h : IsNumeral whole fraction cs) :
    ∀ c ∈ cs, c.isDigit = true ∨ c = '.' := by
  intro c mem
  cases h with
  | integral ne all => exact Or.inl (all c mem)
  | pointed ne all more =>
      rcases List.mem_append.1 mem with front | behind
      · exact Or.inl (all c front)
      · rcases List.mem_cons.1 behind with point | back
        · exact Or.inr point
        · exact Or.inl (more c back)

theorem IsNumeral.exists_head (h : IsNumeral whole fraction cs) :
    ∃ c rest, cs = c :: rest ∧ c.isDigit = true := by
  cases h with
  | integral ne all =>
      obtain ⟨c, rest, rfl⟩ := List.exists_cons_of_ne_nil ne
      exact ⟨c, rest, rfl, all c List.mem_cons_self⟩
  | pointed ne all more =>
      obtain ⟨c, rest, rfl⟩ := List.exists_cons_of_ne_nil ne
      exact ⟨c, _, rfl, all c List.mem_cons_self⟩

theorem asciiDigit_of_isDigit {c : Char} (h : c.isDigit = true) : asciiDigit c = c := by
  have all : ∀ n < 128, (Char.ofNat n).isDigit = true → asciiDigit (Char.ofNat n) = Char.ofNat n := by
    decide +kernel
  obtain ⟨n, lt, rfl⟩ :=
    Text.exists_ofNat_of_ascii (Text.ascii_of_isAlphanum (Text.isAlphanum_of_isDigit h))
  exact all n lt h

theorem IsNumeral.map_asciiDigit (h : IsNumeral whole fraction cs) : cs.map asciiDigit = cs := by
  have same : cs.map asciiDigit = cs.map id := by
    refine List.map_congr_left fun c mem => ?_
    rcases h.isDigit_or_point c mem with digit | rfl
    · exact asciiDigit_of_isDigit digit
    · decide +kernel
  rw [same, List.map_id]

theorem splitSign_of_isDigit {c : Char} (h : c.isDigit = true) (rest : List Char) :
    splitSign (c :: rest) = (false, c :: rest) := by
  unfold splitSign
  split
  · next minus =>
    cases minus
    cases h
  · next plus =>
    cases plus
    cases h
  · rfl

/-- A digit starts no word for an infinity or for no number. -/
theorem readWord?_of_isDigit (negative : Bool) {c : Char} (h : c.isDigit = true) (rest : List Char) :
    readWord? negative (c :: rest) = none := by
  have all : ∀ n < 128, (Char.ofNat n).isDigit = true →
      (Char.ofNat n).toLower ≠ 'i' ∧ (Char.ofNat n).toLower ≠ 'n' := by
    decide +kernel
  obtain ⟨n, lt, rfl⟩ :=
    Text.exists_ofNat_of_ascii (Text.ascii_of_isAlphanum (Text.isAlphanum_of_isDigit h))
  obtain ⟨notI, notN⟩ := all n lt h
  simp [readWord?, notI, notN]

theorem IsNumeral.readDigits?_eq (h : IsNumeral whole fraction cs) (negative : Bool) :
    readDigits? negative cs = some (ofDigits negative whole fraction 0) := by
  cases h with
  | integral ne all =>
      have front : whole.takeWhile Char.isDigit = whole := List.takeWhile_eq_self_iff.2 all
      have back : whole.dropWhile Char.isDigit = [] := List.dropWhile_eq_nil_iff.2 all
      have nothing : splitFraction [] = ([], []) := rfl
      rw [readDigits?, front, back, nothing, List.isEmpty_eq_false_iff.2 ne]
      rfl
  | pointed ne all more =>
      have point : ∀ c ∈ ('.' :: fraction).head?, c.isDigit = false := by
        rintro _ ⟨⟩
        decide
      rw [readDigits?, Text.takeWhile_append_of_head all point,
        Text.dropWhile_append_of_head all point, splitFraction,
        List.takeWhile_eq_self_iff.2 more, List.dropWhile_eq_nil_iff.2 more,
        List.isEmpty_eq_false_iff.2 ne]
      rfl

/-- Behind the sign, a numeral is read by its digits. -/
theorem IsNumeral.readMagnitude?_eq (h : IsNumeral whole fraction cs) (negative : Bool) :
    (readWord? negative cs <|> readDigits? negative cs) = some (ofDigits negative whole fraction 0) := by
  obtain ⟨c, rest, rfl, digit⟩ := h.exists_head
  rw [readWord?_of_isDigit negative digit, h.readDigits?_eq negative]
  rfl

/-- A numeral is read as the number that its digits spell. -/
theorem read?_of_isNumeral (h : IsNumeral whole fraction cs) :
    read? cs = some (ofDigits false whole fraction 0) := by
  obtain ⟨c, rest, rfl, digit⟩ := h.exists_head
  rw [read?, h.map_asciiDigit, splitSign_of_isDigit digit]
  exact h.readMagnitude?_eq false

/-- Behind a minus sign it is read as the negative number. -/
theorem read?_of_negative (h : IsNumeral whole fraction cs) :
    read? ('-' :: cs) = some (ofDigits true whole fraction 0) := by
  have minus : asciiDigit '-' = '-' := by decide +kernel
  rw [read?, List.map_cons, minus, h.map_asciiDigit]
  exact h.readMagnitude?_eq true

end Number
end FormulaSheet
