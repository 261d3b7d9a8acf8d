import FormulaSheet.Proofs.Text.Capital

/-!
# Reading references

Whether a text is a reference, and to which cell, does not depend on the case of its letters. Reading
fails only at a row number beyond the limit (`ShortRow` says that there is none), so it does not fail in
texts whose runs of digits are all within it (`ShortDigits`).
-/

namespace FormulaSheet

/-- No run of digits in a text is longer than the limit of integers that are read. -/
def ShortDigits (cs : List Char) : Prop :=
  ∀ ds, ds <:+: cs → (∀ d ∈ ds, d.isDigit = true) → ds.length ≤ Number.digitLimit

theorem ShortDigits.of_isInfix {cs ds : List Char} (h : ShortDigits cs) (inside : ds <:+: cs) :
    ShortDigits ds := by
  intro run within digits
  exact h run (within.trans inside) digits

/-- A text of letters and digits behind them has at most as many digits as an integer is read from. -/
def ShortRow (cs : List Char) : Prop :=
  ∀ letters digits, cs = letters ++ digits → letters ≠ [] → (∀ c ∈ letters, c.isAlpha = true) →
    (∀ d ∈ digits, d.isDigit = true) → digits.length ≤ Number.digitLimit

theorem ShortDigits.shortRow {cs : List Char} (h : ShortDigits cs) : ShortRow cs := by
  rintro letters digits rfl _ _ numeric
  exact h digits (List.suffix_append letters digits).isInfix numeric

namespace Address

theorem takeWhile_isAlpha_map_toUpper (cs : List Char) :
    (cs.map Char.toUpper).takeWhile Char.isAlpha =
      (cs.takeWhile Char.isAlpha).map Char.toUpper := by
  have same : Char.isAlpha ∘ Char.toUpper = Char.isAlpha := funext Text.isAlpha_toUpper
  rw [List.takeWhile_map, same]

theorem dropWhile_isAlpha_map_toUpper (cs : List Char) :
    (cs.map Char.toUpper).dropWhile Char.isAlpha =
      (cs.dropWhile Char.isAlpha).map Char.toUpper := by
  have same : Char.isAlpha ∘ Char.toUpper = Char.isAlpha := funext Text.isAlpha_toUpper
  rw [List.dropWhile_map, same]

theorem map_toUpper_of_digits {cs : List Char} (h : cs.all Char.isDigit = true) :
    cs.map Char.toUpper = cs := by
  rw [List.all_eq_true] at h
  have same : cs.map Char.toUpper = cs.map id :=
    List.map_congr_left fun c mem => Text.toUpper_of_isDigit (h c mem)
  rw [same, List.map_id]

/-- The letters of a reference label the same column in upper case. -/
theorem columnIndex?_map_toUpper {letters : List Char} (h : ∀ c ∈ letters, c.isAlpha = true) :
    columnIndex? (letters.map Char.toUpper) = columnIndex? letters := by
  have same : Text.upper (letters.map Char.toUpper) = Text.upper letters := by
    rw [Text.upper_of_letters h, Text.upper_of_letters, List.map_map]
    · exact List.map_congr_left fun c _ => Text.toUpper_toUpper c
    · intro d mem
      obtain ⟨c, letter, rfl⟩ := List.mem_map.1 mem
      rw [Text.isAlpha_toUpper, h c letter]
  unfold columnIndex?
  rw [same]

/-- A reference means the same cell in upper case. -/
theorem reference?_map_toUpper (cs : List Char) :
    reference? (cs.map Char.toUpper) = reference? cs := by
  unfold reference?
  rw [takeWhile_isAlpha_map_toUpper, dropWhile_isAlpha_map_toUpper]
  have digits : ((cs.dropWhile Char.isAlpha).map Char.toUpper).all Char.isDigit =
      (cs.dropWhile Char.isAlpha).all Char.isDigit := by
    have same : Char.isDigit ∘ Char.toUpper = Char.isDigit := funext Text.isDigit_toUpper
    rw [List.all_map, same]
  have letters := columnIndex?_map_toUpper fun c (mem : c ∈ cs.takeWhile Char.isAlpha) =>
    List.mem_takeWhile_imp mem
  simp only [digits, ne_eq, List.map_eq_nil_iff]
  split
  · next h => rw [ofLettersAndDigits?, ofLettersAndDigits?, letters, map_toUpper_of_digits h.2.2]
  · rfl

/-- Reading a reference does not fail if its row number is within the limit. -/
theorem exists_reference?_of_shortRow {cs : List Char} (h : ShortRow cs) :
    ∃ found, reference? cs = .ok found := by
  unfold reference?
  dsimp only
  split
  · next form =>
    have short : (cs.dropWhile Char.isAlpha).length ≤ Number.digitLimit :=
      h _ _ List.takeWhile_append_dropWhile.symm form.1 (fun c mem => List.mem_takeWhile_imp mem)
        (List.all_eq_true.1 form.2.2)
    rw [ofLettersAndDigits?, Number.readNatural_of_length_le short]
    cases Text.digitsValue (cs.dropWhile Char.isAlpha) with
    | zero => exact ⟨none, rfl⟩
    | succ row => exact ⟨_, rfl⟩
  · exact ⟨none, rfl⟩

/-- Reading a reference does not fail if all runs of digits are within the limit. -/
theorem exists_reference?_eq_ok {cs : List Char} (h : ShortDigits cs) :
    ∃ found, reference? cs = .ok found :=
  exists_reference?_of_shortRow h.shortRow

end Address
end FormulaSheet
