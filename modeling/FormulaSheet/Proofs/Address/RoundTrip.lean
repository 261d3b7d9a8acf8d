import FormulaSheet.Proofs.Address.Column
import FormulaSheet.Proofs.Address.Reference
import FormulaSheet.Proofs.Text.Numeral

/-!
# References read and written

A reference is the label of its column, in either case, followed by the number of its row, which may have
leading zeros. So a cell has many spellings. One of them is written: the one in upper case without leading
zeros (`normalForm`).

* `reference?_of_write`: what is written is read as the cell it was written for.
* `reference?_eq_some_iff`: the texts that are read are the spellings of a cell.
* `write_of_spells`: the reference of a cell is the normal form of each of its spellings.
* `reference?_roundTrip` has these together.
-/

namespace FormulaSheet
namespace Address

/-- The spelling of a cell by letters and digits. -/
structure SpelledBy (letters digits : List Char) (c : Coord) : Prop where
  alphabetic : IsLetterRun letters
  nonempty : digits ≠ []
  numeric : ∀ d ∈ digits, d.isDigit = true
  row_nonneg : 0 ≤ c.row
  row : (Text.digitsValue digits : Int) = c.row + 1
  column : writeColumn c.col = .ok (Text.upper letters)

/-- A text is made of the letters and the digits of a cell. -/
def Spells (cs : List Char) (c : Coord) : Prop :=
  ∃ letters digits, cs = letters ++ digits ∧ SpelledBy letters digits c

/-- A reference in upper case and without the leading zeros of its row. -/
def normalForm (cs : List Char) : List Char :=
  (Text.upper cs).takeWhile Char.isAlpha ++ Text.dropZeros ((Text.upper cs).dropWhile Char.isAlpha)

section Parts

variable {letters digits : List Char} {c : Coord}

theorem IsLetterRun.upper_eq (h : IsLetterRun letters) :
    Text.upper letters = letters.map Char.toUpper :=
  Text.upper_of_letters h.2

theorem upper_of_digits (h : ∀ d ∈ digits, d.isDigit = true) : Text.upper digits = digits := by
  rw [Text.upper_of_ascii fun d mem =>
    Text.ascii_of_isAlphanum (Text.isAlphanum_of_isDigit (h d mem))]
  exact map_toUpper_of_digits (List.all_eq_true.2 h)

theorem isAlpha_head_of_digits (h : ∀ d ∈ digits, d.isDigit = true) :
    ∀ d ∈ digits.head?, d.isAlpha = false :=
  fun d mem => Text.isAlpha_of_isDigit (h d (List.mem_of_mem_head? mem))

/-- A text of letters and digits is read by its letters and its digits. -/
theorem reference?_append (hletters : IsLetterRun letters) (nonempty : digits ≠ [])
    (hdigits : ∀ d ∈ digits, d.isDigit = true) :
    reference? (letters ++ digits) = ofLettersAndDigits? letters digits := by
  have front := Text.takeWhile_append_of_head hletters.2 (isAlpha_head_of_digits hdigits)
  have back := Text.dropWhile_append_of_head hletters.2 (isAlpha_head_of_digits hdigits)
  unfold reference?
  rw [front, back]
  exact if_pos ⟨hletters.1, nonempty, List.all_eq_true.2 hdigits⟩

/-- The letters give the column whose label they are in upper case, and the digits the row. -/
theorem ofLettersAndDigits?_eq_some_iff (short : digits.length ≤ Number.digitLimit) :
    ofLettersAndDigits? letters digits = .ok (some c) ↔
      0 ≤ c.row ∧ (Text.digitsValue digits : Int) = c.row + 1 ∧
        writeColumn c.col = .ok (Text.upper letters) := by
  rw [writeColumn_eq_ok_iff, ← columnIndex?_eq_some_iff, ofLettersAndDigits?,
    Number.readNatural_of_length_le short]
  cases value : Text.digitsValue digits with
  | zero =>
      refine iff_of_false (by simp) ?_
      rintro ⟨nonneg, row, _⟩
      omega
  | succ n =>
      rcases c with ⟨row, col⟩
      simp only [Except.ok.injEq, Option.map_eq_some_iff, Coord.mk.injEq]
      constructor
      · rintro ⟨index, read, rfl, rfl⟩
        exact ⟨by omega, by omega, by omega, read⟩
      · rintro ⟨_, hrow, nonneg, read⟩
        exact ⟨col.toNat, read, by omega, by omega⟩

theorem SpelledBy.reference?_eq (h : SpelledBy letters digits c)
    (short : digits.length ≤ Number.digitLimit) :
    reference? (letters ++ digits) = .ok (some c) := by
  rw [reference?_append h.alphabetic h.nonempty h.numeric,
    ofLettersAndDigits?_eq_some_iff short]
  exact ⟨h.row_nonneg, h.row, h.column⟩

/-- The digits of a row are those of any of its spellings from the first one that is no zero. -/
theorem SpelledBy.naturalDigits_eq (h : SpelledBy letters digits c) :
    Text.naturalDigits (c.row + 1).toNat = Text.dropZeros digits := by
  have nonneg := h.row_nonneg
  have value : (c.row + 1).toNat = Text.digitsValue digits := by
    rw [← h.row, Int.toNat_natCast]
  have positive : Text.digitsValue digits ≠ 0 := by omega
  rw [value, Text.naturalDigits_digitsValue h.numeric positive]

theorem SpelledBy.normalForm_eq (h : SpelledBy letters digits c) :
    normalForm (letters ++ digits) = Text.upper letters ++ Text.dropZeros digits := by
  have capital : ∀ d ∈ letters.map Char.toUpper, d.isAlpha = true := by
    intro d mem
    obtain ⟨l, hl, rfl⟩ := List.mem_map.1 mem
    rw [Text.isAlpha_toUpper]
    exact h.alphabetic.2 l hl
  rw [normalForm, Text.upper_append, upper_of_digits h.numeric, h.alphabetic.upper_eq,
    Text.takeWhile_append_of_head capital (isAlpha_head_of_digits h.numeric),
    Text.dropWhile_append_of_head capital (isAlpha_head_of_digits h.numeric)]

/-- A reference is written of cells whose coordinates are not negative and whose row number has no more
digits than the limit. -/
theorem write_eq_ok_iff {cs : List Char} :
    write c = .ok cs ↔ 0 ≤ c.row ∧ 0 ≤ c.col ∧
      (Text.naturalDigits (c.row + 1).toNat).length ≤ Number.digitLimit ∧
      columnLabel c.col.toNat ++ Text.naturalDigits (c.row + 1).toNat = cs := by
  by_cases row : 0 ≤ c.row
  · by_cases col : 0 ≤ c.col
    · by_cases short : (Text.naturalDigits (c.row + 1).toNat).length ≤ Number.digitLimit
      · have digits : Number.writeNatural (c.row + 1).toNat =
            .ok (Text.naturalDigits (c.row + 1).toNat) :=
          if_neg (by omega)
        simp [write_eq_ok row col digits, row, col, short]
      · have long : Number.writeNatural (c.row + 1).toNat = .error .tooLongToWrite :=
          if_pos (by omega)
        refine iff_of_false ?_ fun h => short h.2.2.1
        rw [write, if_neg (by omega), writeColumn_of_nonneg col, long]
        rintro ⟨⟩
    · refine iff_of_false ?_ fun h => col h.2.1
      rw [write, if_neg (by omega), writeColumn, if_pos (by omega)]
      rintro ⟨⟩
  · refine iff_of_false ?_ fun h => row h.1
    rw [write, if_pos (by omega)]
    rintro ⟨⟩

/-- A cell is written in the normal form of a spelling whose digits are within the limit of integers. -/
theorem SpelledBy.write_eq (h : SpelledBy letters digits c)
    (few : digits.length ≤ Number.digitLimit) : write c = .ok (normalForm (letters ++ digits)) := by
  obtain ⟨nonneg, label⟩ := writeColumn_eq_ok_iff.1 h.column
  rw [write_eq_ok_iff, h.normalForm_eq, h.naturalDigits_eq, label]
  exact ⟨h.row_nonneg, nonneg, (Text.length_dropZeros_le digits).trans few, rfl⟩

/-- A cell is spelled by the label of its column and the digits of its row. -/
theorem spelledBy_columnLabel (row : 0 ≤ c.row) (col : 0 ≤ c.col) :
    SpelledBy (columnLabel c.col.toNat) (Text.naturalDigits (c.row + 1).toNat) c := by
  have upper : ∀ d ∈ columnLabel c.col.toNat, d.isUpper = true := fun d mem =>
    isUpper_of_mem_columnLabel mem
  have letters : IsLetterRun (columnLabel c.col.toNat) :=
    ⟨columnLabel_ne_nil _, fun d mem => Text.isAlpha_of_isUpper (upper d mem)⟩
  refine ⟨letters, Text.naturalDigits_ne_nil _, fun d mem => Text.isDigit_of_mem_naturalDigits mem,
    row, ?_, ?_⟩
  · rw [Text.digitsValue_naturalDigits]
    omega
  · rw [letters.upper_eq, writeColumn_of_nonneg col, Text.map_toUpper_of_isUpper upper]

end Parts

section Texts

variable {cs ds : List Char} {c d : Coord}

/-- What is written is read as the cell it was written for. -/
theorem reference?_of_write (h : write c = .ok cs) : reference? cs = .ok (some c) := by
  obtain ⟨row, col, short, rfl⟩ := write_eq_ok_iff.1 h
  exact (spelledBy_columnLabel row col).reference?_eq short

/-- What is read as a cell are its letters and its digits, which are within the limit of integers. -/
theorem spelledBy_of_reference? (h : reference? cs = .ok (some c)) :
    ∃ letters digits, cs = letters ++ digits ∧ digits.length ≤ Number.digitLimit ∧
      SpelledBy letters digits c := by
  unfold reference? at h
  dsimp only at h
  split at h
  · next form =>
    obtain ⟨letters, digits, numeric⟩ := form
    rw [List.all_eq_true] at numeric
    have run : IsLetterRun (cs.takeWhile Char.isAlpha) :=
      ⟨letters, fun l mem => List.mem_takeWhile_imp mem⟩
    have few : (cs.dropWhile Char.isAlpha).length ≤ Number.digitLimit := by
      by_contra long
      rw [ofLettersAndDigits?, Number.readNatural, if_pos (by omega)] at h
      cases h
    obtain ⟨nonneg, row, column⟩ := (ofLettersAndDigits?_eq_some_iff few).1 h
    exact ⟨_, _, List.takeWhile_append_dropWhile.symm, few, run, digits, numeric, nonneg, row, column⟩
  · cases h

/-- The texts that are read as a cell are its spellings. -/
theorem reference?_eq_some_iff (short : ShortDigits cs) :
    reference? cs = .ok (some c) ↔ Spells cs c := by
  constructor
  · intro h
    obtain ⟨letters, digits, same, _, spelled⟩ := spelledBy_of_reference? h
    exact ⟨letters, digits, same, spelled⟩
  · rintro ⟨letters, digits, rfl, spelled⟩
    exact spelled.reference?_eq (short _ (List.suffix_append _ _).isInfix spelled.numeric)

/-- A text that spells no cell is read as none. -/
theorem reference?_eq_none (short : ShortDigits cs) (h : ∀ c, ¬ Spells cs c) :
    reference? cs = .ok none := by
  obtain ⟨found, read⟩ := exists_reference?_eq_ok short
  cases found with
  | none => exact read
  | some c => exact absurd ((reference?_eq_some_iff short).1 read) (h c)

/-- The reference of a cell is the normal form of each of its spellings. -/
theorem write_of_spells (short : ShortDigits cs) (h : Spells cs c) :
    write c = .ok (normalForm cs) := by
  obtain ⟨letters, digits, rfl, spelled⟩ := h
  exact spelled.write_eq (short _ (List.suffix_append letters digits).isInfix spelled.numeric)

/-- Two spellings are of one cell if they have the same normal form. -/
theorem eq_iff_normalForm_eq (short : ShortDigits cs) (short' : ShortDigits ds) (h : Spells cs c)
    (h' : Spells ds d) : c = d ↔ normalForm cs = normalForm ds := by
  have written := write_of_spells short h
  have written' := write_of_spells short' h'
  constructor
  · rintro rfl
    exact Except.ok.inj (written.symm.trans written')
  · intro same
    rw [← same] at written'
    have read := (reference?_of_write written).symm.trans (reference?_of_write written')
    exact Option.some.inj (Except.ok.inj read)

/-- Writing and reading references fit together. What is written is read back; what is read are the
spellings of cells, and nothing else; a cell that was read is written in the normal form of its spelling,
so two texts are read as one cell if and only if their normal forms are equal. -/
theorem reference?_roundTrip :
    (∀ c : Coord, 0 ≤ c.row → 0 ≤ c.col →
      (Text.naturalDigits (c.row + 1).toNat).length ≤ Number.digitLimit →
        ∃ cs, write c = .ok cs ∧ reference? cs = .ok (some c)) ∧
    (∀ cs, ShortDigits cs →
      (∀ c, reference? cs = .ok (some c) ↔ Spells cs c) ∧
      ((∀ c, ¬ Spells cs c) → reference? cs = .ok none) ∧
      ∀ c, reference? cs = .ok (some c) → write c = .ok (normalForm cs)) ∧
    ∀ cs ds c d, ShortDigits cs → ShortDigits ds → reference? cs = .ok (some c) →
      reference? ds = .ok (some d) → (c = d ↔ normalForm cs = normalForm ds) := by
  refine ⟨fun c row col few => ?_, fun cs short => ⟨fun c => ?_, ?_, fun c read => ?_⟩, ?_⟩
  · have written := write_eq_ok_iff.2 ⟨row, col, few, rfl⟩
    exact ⟨_, written, reference?_of_write written⟩
  · exact reference?_eq_some_iff short
  · exact reference?_eq_none short
  · exact write_of_spells short ((reference?_eq_some_iff short).1 read)
  · intro cs ds c d short short' read read'
    exact eq_iff_normalForm_eq short short' ((reference?_eq_some_iff short).1 read)
      ((reference?_eq_some_iff short').1 read')

/-- Two spellings of a cell beyond the column `Z`, one of them in lower case with a leading zero. -/
theorem reference?_roundTrip_padded :
    (∃ cs, write ⟨11, 26⟩ = .ok cs ∧ reference? cs = .ok (some ⟨11, 26⟩)) ∧
      Spells "aa012".toList ⟨11, 26⟩ ∧ write ⟨11, 26⟩ = .ok (normalForm "aa012".toList) ∧
      reference? "A0".toList = .ok none ∧
      normalForm "aa012".toList = normalForm "AA12".toList := by
  have short : ShortDigits "aa012".toList := fun ds inside _ => inside.length_le.trans (by decide)
  have short' : ShortDigits "AA12".toList := fun ds inside _ => inside.length_le.trans (by decide)
  have zero : ShortDigits "A0".toList := fun ds inside _ => inside.length_le.trans (by decide)
  have read : reference? "aa012".toList = .ok (some ⟨11, 26⟩) := by decide +kernel
  have read' : reference? "AA12".toList = .ok (some ⟨11, 26⟩) := by decide +kernel
  have unspelled : ∀ c, ¬ Spells "A0".toList c := by
    intro c spells
    have other : reference? "A0".toList = .ok none := by decide +kernel
    rw [((reference?_roundTrip.2.1 _ zero).1 c).2 spells] at other
    cases other
  obtain ⟨back, texts, normal⟩ := reference?_roundTrip
  exact ⟨back ⟨11, 26⟩ (by decide) (by decide) (by decide +kernel),
    ((texts _ short).1 _).1 read, (texts _ short).2.2 _ read, (texts _ zero).2.1 unspelled,
    (normal _ _ _ _ short short' read read').1 rfl⟩

end Texts

end Address
end FormulaSheet
