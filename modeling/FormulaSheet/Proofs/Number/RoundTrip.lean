import FormulaSheet.Proofs.Number.Numeral
import FormulaSheet.Proofs.Number.Shortest
import FormulaSheet.Sheet.Engine

/-!
# Numbers as cells show them

A cell shows a number without an exponent: an integer by its digits, and any other number by its shortest
decimal, with a point. The text of a finite number is a number again, the one that it shows.

* `exists_positional`: a decimal with digits behind the point, as a numeral.
* `exists_plain`: the text of a finite double, and what its digits are read as. A zero loses its sign.
* `plain_roundTrip` adds what the cells that hold the text have as their value.
-/

namespace FormulaSheet
namespace Number

open Text (digitsValue naturalDigits isBlank)

/-- The exact value of a finite double. -/
def value (x : Float) : ℚ :=
  match parts x with
  | .finite negative mantissa exponent => (if negative then -1 else 1) * (mantissa * 2 ^ exponent)
  | _ => 0

/-- A double, with the positive zero for the negative one. -/
def unsignZero (x : Float) : Float :=
  if x = zero true then zero false else x

/-- Digits behind a point, if there are any. -/
def pointed (fraction : List Char) : List Char :=
  if fraction = [] then [] else '.' :: fraction

/-! ### Decimals as numerals -/

theorem isNumeral_pointed {whole fraction : List Char} (ne : whole ≠ [])
    (all : ∀ c ∈ whole ++ fraction, c.isDigit = true) :
    IsNumeral whole fraction (whole ++ pointed fraction) := by
  have front : ∀ c ∈ whole, c.isDigit = true := fun c mem => all c (List.mem_append_left _ mem)
  have back : ∀ c ∈ fraction, c.isDigit = true := fun c mem => all c (List.mem_append_right _ mem)
  unfold pointed
  split
  · next empty =>
    rw [empty, List.append_nil]
    exact .integral ne front
  · exact .pointed ne front back

theorem digitsValue_zeros (n : Nat) (cs : List Char) :
    digitsValue (List.replicate n '0' ++ cs) = digitsValue cs := by
  induction n with
  | zero => rfl
  | succ n ih => exact ih

/-- A decimal with digits behind the point is written with the digits of its coefficient, and with zeros in
front of them if they do not reach up to the point. -/
theorem exists_positional {d : Decimal} (h : d.exponent < 0) :
    ∃ whole fraction, d.positional = whole ++ pointed fraction ∧ whole ≠ [] ∧ fraction ≠ [] ∧
      (∀ c ∈ whole ++ fraction, c.isDigit = true) ∧ digitsValue (whole ++ fraction) = d.coefficient ∧
      -(fraction.length : Int) = d.exponent := by
  have digits : ∀ c ∈ naturalDigits d.coefficient, c.isDigit = true := fun c =>
    Text.isDigit_of_mem_naturalDigits
  have spelled := Text.digitsValue_naturalDigits d.coefficient
  have filled := List.length_pos_iff.2 (Text.naturalDigits_ne_nil d.coefficient)
  unfold Decimal.positional
  dsimp only
  rw [if_neg (by omega)]
  generalize naturalDigits d.coefficient = ds at digits spelled filled
  split
  · next short =>
    -- The zeros in front of the digits, with the one in front of the point.
    have zeros := digitsValue_zeros ((-d.exponent).toNat - ds.length + 1) ds
    refine ⟨['0'], List.replicate ((-d.exponent).toNat - ds.length) '0' ++ ds, ?_, by simp, ?_, ?_,
      zeros.trans spelled, ?_⟩
    · rw [pointed, if_neg]
      · rfl
      · exact List.append_ne_nil_of_right_ne_nil _ (List.length_pos_iff.1 filled)
    · exact List.append_ne_nil_of_right_ne_nil _ (List.length_pos_iff.1 filled)
    · intro c mem
      rw [List.cons_append, List.nil_append, List.mem_cons, List.mem_append, List.mem_replicate] at mem
      rcases mem with rfl | ⟨_, rfl⟩ | digit
      · rfl
      · rfl
      · exact digits c digit
    · rw [List.length_append, List.length_replicate]
      omega
  · next long =>
    have parted := List.take_append_drop (ds.length - (-d.exponent).toNat) ds
    have back : (ds.drop (ds.length - (-d.exponent).toNat)).length = (-d.exponent).toNat := by
      rw [List.length_drop]
      omega
    have ne : ds.drop (ds.length - (-d.exponent).toNat) ≠ [] :=
      List.length_pos_iff.1 (by omega)
    refine ⟨ds.take (ds.length - (-d.exponent).toNat), ds.drop (ds.length - (-d.exponent).toNat), ?_, ?_,
      ne, ?_, ?_, by omega⟩
    · rw [pointed, if_neg ne]
    · refine List.length_pos_iff.1 ?_
      rw [List.length_take]
      omega
    · rw [parted]
      exact digits
    · rw [parted, spelled]

/-! ### Reading the text of a number -/

variable {x : Float} {negative : Bool} {mantissa : Nat} {exponent : Int}

theorem parts_zero (negative : Bool) : parts (zero negative) = .finite negative 0 leastExponent := by
  cases negative with
  | false => decide +kernel
  | true => decide +kernel

theorem unsignZero_of_pos (h : parts x = .finite negative mantissa exponent) (positive : 0 < mantissa) :
    unsignZero x = x := by
  refine if_neg ?_
  rintro rfl
  rw [parts_zero] at h
  cases h
  exact Nat.lt_irrefl 0 positive

/-- A double with the mantissa zero is a zero. -/
theorem eq_zero_of_parts (h : parts x = .finite negative 0 exponent) : x = zero negative := by
  have least : exponent = leastExponent :=
    (isDouble_of_parts h).normal.resolve_left (Nat.not_le.2 (by positivity))
  rw [eq_of_parts h, least]
  rfl

theorem unsignZero_zero (negative : Bool) : unsignZero (zero negative) = zero false := by
  unfold unsignZero
  split
  · rfl
  · next other =>
    cases negative with
    | false => rfl
    | true => exact absurd rfl other

/-- A decimal in the interval of a double is read as the double. -/
theorem ofDigits_of_rounds (h : parts x = .finite negative mantissa exponent) (positive : 0 < mantissa)
    {whole fraction : List Char}
    (rounds : Rounds mantissa exponent
      (digitsValue (whole ++ fraction) * 10 ^ (-(fraction.length : Int)))) :
    ofDigits negative whole fraction 0 = unsignZero x := by
  rw [unsignZero_of_pos h positive, ofDigits, Int.zero_sub,
    ofDecimal_eq (isDouble_of_parts h) positive rounds negative rfl]
  exact (eq_of_parts h).symm

/-- An integer as a cell shows it. -/
theorem exists_integerText (h : parts x = .finite negative mantissa exponent)
    (integer : fractionPart mantissa exponent = 0) :
    ∃ sign, integerText (withSign negative (wholePart mantissa exponent)) =
        signText sign ++ naturalDigits (wholePart mantissa exponent) ∧
      ofDigits sign (naturalDigits (wholePart mantissa exponent)) [] 0 = unsignZero x := by
  have value := cast_wholePart integer
  have spelled := Text.digitsValue_naturalDigits (wholePart mantissa exponent)
  refine ⟨decide (withSign negative (wholePart mantissa exponent) < 0), ?_, ?_⟩
  · rw [integerText, natAbs_withSign]
  · rcases Nat.eq_zero_or_pos mantissa with rfl | positive
    · have zero : wholePart 0 exponent = 0 := by simp [wholePart]
      have sign : decide (withSign negative (0 : Nat) < 0) = false := by cases negative <;> rfl
      rw [zero, eq_zero_of_parts h, unsignZero_zero, sign, ofDigits, List.append_nil,
        Text.digitsValue_naturalDigits, ofDecimal, if_pos rfl]
    · have nonzero : 0 < wholePart mantissa exponent := by
        have cast : (0 : ℚ) < wholePart mantissa exponent := by
          rw [value]
          positivity
        exact_mod_cast cast
      have sign : decide (withSign negative (wholePart mantissa exponent) < 0) = negative := by
        cases negative <;> simp [withSign]
        omega
      rw [sign]
      refine ofDigits_of_rounds h positive ?_
      rw [List.append_nil, spelled, List.length_nil, value]
      simpa using rounds_self mantissa exponent

/-- The text of a finite double is a numeral behind a sign, with a point unless the double is an integer. The
numeral is read as the double. -/
theorem exists_plain (h : parts x = .finite negative mantissa exponent) :
    ∃ sign whole fraction, (plain x).toList = signText sign ++ (whole ++ pointed fraction) ∧
      whole ≠ [] ∧ (∀ c ∈ whole ++ fraction, c.isDigit = true) ∧
      (fraction = [] ↔ fractionPart mantissa exponent = 0) ∧
      ofDigits sign whole fraction 0 = unsignZero x := by
  rw [plain, String.toList_ofList, h]
  dsimp only
  split
  · next integer =>
    obtain ⟨sign, text, read⟩ := exists_integerText h integer
    refine ⟨sign, naturalDigits (wholePart mantissa exponent), [], ?_, Text.naturalDigits_ne_nil _, ?_,
      iff_of_true rfl integer, read⟩
    · rw [text, pointed, if_pos rfl, List.append_nil]
    · rw [List.append_nil]
      exact fun c => Text.isDigit_of_mem_naturalDigits
  · next fractional =>
    have positive := pos_of_fractionPart_ne_zero fractional
    obtain ⟨whole, fraction, text, ne, filled, digits, spelled, places⟩ :=
      exists_positional (shortest_exponent_neg positive fractional)
    refine ⟨negative, whole, fraction, ?_, ne, digits, iff_of_false filled fractional, ?_⟩
    · rw [text]
    · refine ofDigits_of_rounds h positive ?_
      rw [spelled, places]
      exact rounds_shortest positive exponent

theorem read?_signText {sign : Bool} {whole fraction cs : List Char} (h : IsNumeral whole fraction cs) :
    read? (signText sign ++ cs) = some (ofDigits sign whole fraction 0) := by
  cases sign with
  | false => exact read?_of_isNumeral h
  | true => exact read?_of_negative h

/-- A numeral behind a sign has no blanks and no underscores. -/
theorem IsNumeral.solid {sign : Bool} {whole fraction cs : List Char} (h : IsNumeral whole fraction cs)
    {c : Char} (mem : c ∈ signText sign ++ cs) : isBlank c = false ∧ c ≠ '_' := by
  have kind : c = '-' ∨ c.isDigit = true ∨ c = '.' := by
    rcases List.mem_append.1 mem with front | back
    · cases sign with
      | false => cases front
      | true => exact Or.inl (List.mem_singleton.1 front)
    · exact Or.inr (h.isDigit_or_point c back)
  rcases kind with rfl | digit | rfl
  · decide
  · refine ⟨Text.isBlank_of_isAlphanum (Text.isAlphanum_of_isDigit digit), ?_⟩
    rintro rfl
    revert digit
    decide
  · decide

theorem numberOfText?_signText {sign : Bool} {whole fraction cs : List Char} {s : String}
    (h : IsNumeral whole fraction cs) (text : s.toList = signText sign ++ cs) :
    Value.numberOfText? s = some (ofDigits sign whole fraction 0) := by
  obtain ⟨c, rest, numeral, _⟩ := h.exists_head
  have filled : signText sign ++ cs ≠ [] :=
    List.append_ne_nil_of_right_ne_nil _ (by rw [numeral]; exact List.cons_ne_nil _ _)
  have strip : Text.strip (signText sign ++ cs) = signText sign ++ cs :=
    Text.strip_eq_self_of_ends (fun c mem => (h.solid (List.mem_of_mem_head? mem)).1)
      fun c mem => (h.solid (List.mem_of_mem_getLast? mem)).1
  have underscore : (signText sign ++ cs).contains '_' = false := by
    rw [List.contains_eq_mem, decide_eq_false_iff_not]
    exact fun mem => (h.solid mem).2 rfl
  rw [Value.numberOfText?, text, if_neg, read?_signText h]
  rintro (empty | changed | inside)
  · exact filled empty
  · exact changed strip
  · rw [underscore] at inside
    cases inside

/-! ### The round trip -/

/-- A finite double is an integer if it has no fraction. -/
theorem exists_value_eq_iff (h : parts x = .finite negative mantissa exponent) :
    (∃ n : Int, value x = n) ↔ fractionPart mantissa exponent = 0 := by
  have signed : value x = (if negative then -1 else 1) * (mantissa * 2 ^ exponent) := by
    rw [value, h]
  rw [signed, fractionPart_eq_zero_iff]
  constructor
  · rintro ⟨n, same⟩
    refine ⟨n.natAbs, ?_⟩
    have size := congrArg abs same
    have nonneg : (0 : ℚ) ≤ mantissa * 2 ^ exponent := by positivity
    rw [abs_mul, abs_of_nonneg nonneg] at size
    rw [Nat.cast_natAbs, Int.cast_abs, ← size]
    cases negative <;> simp
  · rintro ⟨n, same⟩
    refine ⟨if negative then -n else n, ?_⟩
    rw [same]
    cases negative <;> simp

/-- The text of a finite number that a cell shows is an optional sign, digits, and for a number that is no
integer a point and further digits. It is read as the number that it shows, a negative zero as zero; so the
cells that hold this text have that number as their value. -/
theorem plain_roundTrip {x : Float} (finite : x.isFinite = true) :
    (∃ sign whole fraction, (plain x).toList = signText sign ++ (whole ++ pointed fraction) ∧
        whole ≠ [] ∧ (∀ c ∈ whole ++ fraction, c.isDigit = true) ∧
        (fraction = [] ↔ ∃ n : Int, value x = n)) ∧
      Value.ofCellText (plain x) = .number (unsignZero x) ∧
      ∀ {σ : Type} (engine : Engine σ) (sheet : Sheet) (c : Coord),
        (sheet.get c).value = (Value.number x).toText →
          (engine.context sheet).readCell c = pure (.number (unsignZero x)) := by
  obtain ⟨negative, mantissa, exponent, h⟩ := (isFinite_iff_parts x).1 finite
  obtain ⟨sign, whole, fraction, text, ne, digits, integer, read⟩ := exists_plain h
  have number : Value.ofCellText (plain x) = .number (unsignZero x) := by
    rw [Value.ofCellText, numberOfText?_signText (isNumeral_pointed ne digits) text, read]
  refine ⟨⟨sign, whole, fraction, text, ne, digits, ?_⟩, number, fun engine sheet c shown => ?_⟩
  · rw [integer, exists_value_eq_iff h]
  · have cell : (engine.context sheet).readCell c =
        pure (Value.ofCellText (sheet.get c).value) := rfl
    rw [cell, shown]
    exact congrArg pure number

/-- The least positive double, with more than three hundred zeros behind the point. -/
theorem plain_roundTrip_least :
    (Float.ofBits 1).isFinite = true ∧
      Value.ofCellText (plain (Float.ofBits 1)) = .number (Float.ofBits 1) := by
  have finite : (Float.ofBits 1).isFinite = true := by decide +kernel
  have same : unsignZero (Float.ofBits 1) = Float.ofBits 1 := by decide +kernel
  obtain ⟨_, number, _⟩ := plain_roundTrip finite
  exact ⟨finite, number.trans (congrArg Value.number same)⟩

end Number
end FormulaSheet
