import FormulaSheet.Proofs.Address.Reference
import FormulaSheet.Proofs.Lexeme.Layout
import FormulaSheet.Proofs.Text.Capital
import Mathlib.Algebra.Ring.Parity

/-!
# Letters outside of text literals

Outside of text literals a formula may be written in either case. A place is inside of a literal if an odd
number of marks stands in front of it, whether these marks open literals, close them or are part of them.
`upperOutside` writes all other letters as capitals, and `IsRecasing` says that two texts differ in
nothing but the case of such letters.

* `upperOutside_eq_of_isRecasing`: two such texts are the same in capitals.
* `readToken_upperOutside`: in capitals the same token is read, of the same length, and what is left behind
  it is what was left before, in capitals. The letters of a literal are not touched, as a doubled mark in it
  leads out of it and back in.
* `lexemesFrom_upperOutside` carries this over the whole text.
-/

namespace FormulaSheet

open Text (isBlank toUpper_of_isAlpha_false)

/-- Writes the letters outside of literals as capitals; the text starts inside of a literal or not. -/
def upperOutside (inside : Bool) : List Char → List Char
  | [] => []
  | c :: rest => (if inside then c else c.toUpper) :: upperOutside (inside ^^ c == '"') rest

@[simp] theorem upperOutside_nil (inside : Bool) : upperOutside inside [] = [] := rfl

theorem upperOutside_false_cons (c : Char) (rest : List Char) :
    upperOutside false (c :: rest) = c.toUpper :: upperOutside (c == '"') rest := by
  rw [upperOutside, Bool.false_xor, if_neg Bool.false_ne_true]

theorem upperOutside_true_cons (c : Char) (rest : List Char) :
    upperOutside true (c :: rest) = c :: upperOutside (c != '"') rest := by
  rw [upperOutside, Bool.true_xor, if_pos rfl]
  rfl

/-! ### Texts that differ in the case of letters -/

/-- Two characters are the same, or the same letter in either case. -/
def SameLetter (c d : Char) : Prop :=
  c.isAlpha = true ∧ d.isAlpha = true ∧ c.toUpper = d.toUpper

/-- Two texts differ in the case of letters only, and only where an even number of marks stands in
front. -/
structure IsRecasing (cs ds : List Char) : Prop where
  length_eq : cs.length = ds.length
  same_or : ∀ (i : Nat) (h : i < cs.length) (h' : i < ds.length),
    cs[i] = ds[i] ∨ SameLetter cs[i] ds[i] ∧ Even ((cs.take i).count '"')

instance (c d : Char) : Decidable (SameLetter c d) :=
  inferInstanceAs (Decidable (_ ∧ _ ∧ _))

instance (cs ds : List Char) : Decidable (IsRecasing cs ds) :=
  decidable_of_iff (cs.length = ds.length ∧ ∀ (i : Nat) (h : i < cs.length) (h' : i < ds.length),
      cs[i] = ds[i] ∨ SameLetter cs[i] ds[i] ∧ Even ((cs.take i).count '"'))
    ⟨fun h => ⟨h.1, h.2⟩, fun h => ⟨h.length_eq, h.same_or⟩⟩

/-- A character of a class without the mark is not the mark. -/
theorem beq_mark_of_class {p : Char → Bool} (mark : p '"' = false) {c : Char} (h : p c = true) :
    (c == '"') = false := by
  rw [beq_eq_false_iff_ne]
  rintro rfl
  rw [mark] at h
  cases h

/-- The same for texts that may start inside of a literal, which counts as one more mark. -/
theorem upperOutside_eq_of_same_or {cs ds : List Char} (inside : Bool)
    (length_eq : cs.length = ds.length)
    (same_or : ∀ (i : Nat) (h : i < cs.length) (h' : i < ds.length),
      cs[i] = ds[i] ∨ SameLetter cs[i] ds[i] ∧ Even (inside.toNat + (cs.take i).count '"')) :
    upperOutside inside cs = upperOutside inside ds := by
  induction cs generalizing ds inside with
  | nil =>
      obtain rfl := List.length_eq_zero_iff.1 length_eq.symm
      rfl
  | cons c cs ih =>
      cases ds with
      | nil => cases length_eq
      | cons d ds =>
          have first : (c == '"') = (d == '"') ∧
              (if inside then c else c.toUpper) = if inside then d else d.toUpper := by
            rcases same_or 0 (Nat.succ_pos _) (Nat.succ_pos _) with same | ⟨letters, even⟩
            · cases same
              exact ⟨rfl, rfl⟩
            · obtain rfl : inside = false := by
                cases inside with
                | false => rfl
                | true => exact absurd even (by simp)
              have first := beq_mark_of_class (by decide) letters.1
              have second := beq_mark_of_class (by decide) letters.2.1
              exact ⟨first.trans second.symm, letters.2.2⟩
          have later := ih (inside ^^ c == '"') (Nat.succ.inj length_eq) fun i h h' => by
            refine (same_or (i + 1) (Nat.succ_lt_succ h) (Nat.succ_lt_succ h')).imp_right
              fun differ => ⟨differ.1, ?_⟩
            have even := differ.2
            rw [List.take_succ_cons, List.count_cons, Nat.even_iff] at even
            rw [Nat.even_iff]
            cases inside <;> cases mark : c == '"' <;> simp [mark] at even ⊢ <;> omega
          rw [upperOutside, upperOutside, later, first.1, first.2]

theorem upperOutside_eq_of_isRecasing {cs ds : List Char} (h : IsRecasing cs ds) :
    upperOutside false cs = upperOutside false ds :=
  upperOutside_eq_of_same_or false h.length_eq fun i first second =>
    (h.same_or i first second).imp_right fun differ => ⟨differ.1, by simpa using differ.2⟩

/-! ### Fronts of a class -/

section Front

variable {p : Char → Bool} (keeps : ∀ c, p c.toUpper = p c) (mark : p '"' = false)
include keeps mark

theorem takeWhile_upperOutside (cs : List Char) :
    (upperOutside false cs).takeWhile p = (cs.takeWhile p).map Char.toUpper := by
  induction cs with
  | nil => rfl
  | cons c rest ih =>
      rw [upperOutside_false_cons]
      cases member : p c with
      | false =>
          rw [List.takeWhile_cons_of_neg (by simp [keeps, member]),
            List.takeWhile_cons_of_neg (by simp [member])]
          rfl
      | true =>
          rw [List.takeWhile_cons_of_pos (by rw [keeps, member]), List.takeWhile_cons_of_pos member,
            beq_mark_of_class mark member, ih]
          rfl

theorem dropWhile_upperOutside (cs : List Char) :
    (upperOutside false cs).dropWhile p = upperOutside false (cs.dropWhile p) := by
  induction cs with
  | nil => rfl
  | cons c rest ih =>
      rw [upperOutside_false_cons]
      cases member : p c with
      | false =>
          rw [List.dropWhile_cons_of_neg (by simp [keeps, member]),
            List.dropWhile_cons_of_neg (by simp [member]), upperOutside_false_cons]
      | true =>
          rw [List.dropWhile_cons_of_pos (by rw [keeps, member]), List.dropWhile_cons_of_pos member,
            beq_mark_of_class mark member, ih]

end Front

/-! ### Places of literals -/

theorem length_upperOutside (inside : Bool) (cs : List Char) :
    (upperOutside inside cs).length = cs.length := by
  induction cs generalizing inside with
  | nil => rfl
  | cons c rest ih => rw [upperOutside, List.length_cons, ih, List.length_cons]

/-- The marks of a front decide whether what follows it is inside of a literal. -/
theorem upperOutside_append (inside : Bool) (front back : List Char) :
    upperOutside inside (front ++ back) =
      upperOutside inside front ++ upperOutside (inside ^^ decide (Odd (front.count '"'))) back := by
  induction front generalizing inside with
  | nil => simp
  | cons c rest ih =>
      have parity : (inside ^^ c == '"' ^^ decide (Odd (rest.count '"'))) =
          (inside ^^ decide (Odd ((c :: rest).count '"'))) := by
        cases mark : c == '"' with
        | false => simp [List.count_cons, mark]
        | true => simp [List.count_cons, mark, Nat.odd_add_one, -Nat.not_odd_iff_even]
      rw [List.cons_append, upperOutside, ih, upperOutside, List.cons_append, parity]

theorem count_doubled (held : List Char) : (doubled held).count '"' = 2 * held.count '"' := by
  induction held with
  | nil => rfl
  | cons c rest ih =>
      rw [doubled, List.flatMap_cons, List.count_append]
      change _ + (doubled rest).count '"' = _
      rw [ih, List.count_cons]
      by_cases mark : c = '"'
      · subst mark
        simp
        omega
      · simp [mark]

/-- The marks of a token are in pairs: they open and close a literal, or are a doubled mark of it. -/
theorem Token.Spelled.even_count {token : Token} {cs : List Char} (h : token.Spelled cs) :
    Even (cs.count '"') := by
  have other : ∀ {ds : List Char}, (∀ c ∈ ds, isWordChar c = true) → ds.count '"' = 0 := fun all =>
    List.count_eq_zero.2 fun mem => absurd (all _ mem) (by decide)
  have digits : ∀ {ds : List Char}, (∀ c ∈ ds, c.isDigit = true) → ds.count '"' = 0 := fun all =>
    List.count_eq_zero.2 fun mem => absurd (all _ mem) (by decide)
  cases h with
  | whole ne all => rw [digits all]; exact Even.zero
  | fraction ne all more =>
      rw [List.count_append, List.count_cons, digits all, digits more]
      exact Even.zero
  | text held =>
      rw [List.cons_append, List.count_cons, List.count_append, count_doubled]
      exact ⟨held.count '"' + 1, by simp; omega⟩
  | word word => rw [other word.all]; exact Even.zero
  | @symbol s _ mem =>
      have all : (s.spellings.all fun word => word.count '"' == 0) = true := by cases s <;> decide
      rw [eq_of_beq (List.all_eq_true.1 all cs mem)]
      exact Even.zero

/-! ### Reading a token in capitals -/

/-- What is no letter in upper case was the same character before. -/
theorem toUpper_eq_iff {c d : Char} (h : d.isAlpha = false) : c.toUpper = d ↔ c = d := by
  constructor
  · rintro rfl
    rw [Text.isAlpha_toUpper] at h
    exact (toUpper_of_isAlpha_false h).symm
  · rintro rfl
    exact toUpper_of_isAlpha_false h

theorem isBlank_toUpper (c : Char) : isBlank c.toUpper = isBlank c := by
  cases letter : c.isAlpha with
  | false => rw [toUpper_of_isAlpha_false letter]
  | true =>
      have upper : c.toUpper.isAlpha = true := by rw [Text.isAlpha_toUpper, letter]
      rw [Text.isBlank_of_isAlphanum (Text.isAlphanum_of_isAlpha letter),
        Text.isBlank_of_isAlphanum (Text.isAlphanum_of_isAlpha upper)]

theorem isAlphanum_toUpper (c : Char) : c.toUpper.isAlphanum = c.isAlphanum := by
  rw [Char.isAlphanum, Text.isAlpha_toUpper, Text.isDigit_toUpper]
  rfl

theorem isWordChar_toUpper (c : Char) : isWordChar c.toUpper = isWordChar c := by
  have underscore : (c.toUpper == '_') = (c == '_') :=
    Bool.eq_iff_iff.2 (by simpa using toUpper_eq_iff (by decide))
  rw [isWordChar, isAlphanum_toUpper, underscore]
  rfl

theorem head_upperOutside {inside : Bool} {cs : List Char} {d : Char} (h : d.isAlpha = false) :
    (upperOutside inside cs).head? = some d ↔ cs.head? = some d := by
  cases cs with
  | nil => rfl
  | cons c rest =>
      cases inside with
      | true => simp [upperOutside_true_cons]
      | false => simp [upperOutside_false_cons, toUpper_eq_iff h]

theorem readNumber_upperOutside (cs : List Char) :
    readNumber (upperOutside false cs) = readNumber cs := by
  have digits : ∀ ds : List Char,
      (upperOutside false ds).takeWhile Char.isDigit = ds.takeWhile Char.isDigit := fun ds => by
    rw [takeWhile_upperOutside Text.isDigit_toUpper (by decide)]
    exact Address.map_toUpper_of_digits (List.all_eq_true.2 fun c mem => List.mem_takeWhile_imp mem)
  unfold readNumber
  rw [digits, dropWhile_upperOutside Text.isDigit_toUpper (by decide)]
  cases cs.dropWhile Char.isDigit with
  | nil => rfl
  | cons c rest =>
      rw [upperOutside_false_cons]
      by_cases point : c = '.'
      · subst point
        have same : '.'.toUpper :: upperOutside ('.' == '"') rest = '.' :: upperOutside false rest := rfl
        rw [same]
        simp only [digits]
      · have other : c.toUpper ≠ '.' := fun same => point ((toUpper_eq_iff (by decide)).1 same)
        split
        · next same => exact absurd (List.cons.inj same).1 other
        · split
          · next same => exact absurd (List.cons.inj same).1 point
          · rfl

theorem readWord_upperOutside (cs : List Char) :
    readWord (upperOutside false cs) = readWord cs := by
  have twice : ∀ ds : List Char, (ds.map Char.toUpper).map Char.toUpper = ds.map Char.toUpper :=
    fun ds => by
      rw [List.map_map]
      exact List.map_congr_left fun c _ => Text.toUpper_toUpper c
  rw [readWord, takeWhile_upperOutside isWordChar_toUpper (by decide), twice, List.length_map]
  rfl

/-- The letters of a literal are left alone, and so is the mark behind it. -/
theorem readText?_upperOutside (cs : List Char) :
    readText? (upperOutside true cs) = readText? cs := by
  fun_induction readText? cs with
  | case1 => rfl
  | case2 rest ih =>
      have front : upperOutside true ('"' :: '"' :: rest) = '"' :: '"' :: upperOutside true rest := rfl
      rw [front, readText?, ih]
  | case3 rest single =>
      have front : upperOutside true ('"' :: rest) = '"' :: upperOutside false rest := rfl
      rw [front]
      refine readText?_closing fun mark => ?_
      rw [head_upperOutside (by decide)] at mark
      obtain ⟨others, same⟩ := List.head?_eq_some_iff.1 mark
      exact single others rfl same
  | case4 c rest single other ih =>
      have front : upperOutside true (c :: rest) = c :: upperOutside true rest := by
        rw [upperOutside_true_cons, bne_iff_ne.2 other]
      rw [front, readText?_cons_of_ne other, ih]

/-- A symbol has two characters at most. -/
theorem readSymbol?_cons_cons (c d : Char) (more : List Char) :
    readSymbol? (c :: d :: more) = readSymbol? [c, d] := by
  generalize front : c :: d :: more = cs
  fun_cases readSymbol? cs
  all_goals cases front
  all_goals first | rfl | simp_all [readSymbol?]

/-- The second character of a symbol is no letter. -/
theorem readSymbol?_letter (c : Char) {d : Char} (h : d.isAlpha = true) :
    readSymbol? [c, d] = readSymbol? [c] := by
  have other : d ≠ '*' ∧ d ≠ '=' ∧ d ≠ '>' := by
    refine ⟨?_, ?_, ?_⟩ <;> rintro rfl <;> revert h <;> decide
  generalize front : [c, d] = cs
  fun_cases readSymbol? cs
  all_goals cases front
  all_goals first | rfl | simp_all [readSymbol?]

theorem readSymbol?_upperOutside (c : Char) (rest : List Char) :
    readSymbol? (c :: upperOutside false rest) = readSymbol? (c :: rest) := by
  cases rest with
  | nil => rfl
  | cons d more =>
      rw [upperOutside_false_cons, readSymbol?_cons_cons, readSymbol?_cons_cons c d more]
      cases letter : d.isAlpha with
      | false => rw [toUpper_of_isAlpha_false letter]
      | true =>
          have upper : d.toUpper.isAlpha = true := by rw [Text.isAlpha_toUpper, letter]
          rw [readSymbol?_letter c letter, readSymbol?_letter c upper]

/-- In capitals the same token is read, and it is as long as before. -/
theorem readToken_upperOutside (c : Char) (rest : List Char) :
    readToken c.toUpper (upperOutside (c == '"') rest) = readToken c rest := by
  unfold readToken
  rw [← upperOutside_false_cons, Text.isDigit_toUpper, Text.isAlpha_toUpper, readNumber_upperOutside,
    readWord_upperOutside]
  by_cases alpha : c.isAlpha = true
  · rw [if_pos alpha, if_pos alpha]
  · have plain := toUpper_of_isAlpha_false (Bool.eq_false_iff.2 alpha)
    rw [if_neg alpha, if_neg alpha, plain]
    by_cases mark : c = '"'
    · subst mark
      rw [if_pos rfl, if_pos rfl, beq_self_eq_true, readText?_upperOutside]
    · rw [if_neg mark, if_neg mark, upperOutside_false_cons, plain, beq_eq_false_iff_ne.2 mark,
        readSymbol?_upperOutside]

/-- What is left behind the token starts outside of literals again. -/
theorem drop_upperOutside {c : Char} {rest : List Char} {token : Token} {n : Nat}
    (h : readToken c rest = .ok (token, n)) :
    (upperOutside (c == '"') rest).drop (n - 1) = upperOutside false (rest.drop (n - 1)) := by
  obtain ⟨spelling, behind, split, rfl, spelled, _⟩ := readToken_spelled h
  obtain ⟨d, more, rfl⟩ := List.exists_cons_of_ne_nil spelled.ne_nil
  rw [List.cons_append] at split
  obtain ⟨rfl, tail⟩ := List.cons.inj split
  have whole := upperOutside_append false (c :: more) behind
  rw [decide_eq_false (Nat.not_odd_iff_even.2 spelled.even_count), List.cons_append,
    upperOutside_false_cons, upperOutside_false_cons, List.cons_append] at whole
  have parted : upperOutside (c == '"') rest =
      upperOutside (c == '"') more ++ upperOutside false behind := tail ▸ (List.cons.inj whole).2
  rw [List.length_cons, Nat.add_sub_cancel, parted, tail,
    List.drop_left' (length_upperOutside _ _), List.drop_left' rfl]

/-- So is the whole text. -/
theorem lexemesFrom_upperOutside (position : Nat) (cs : List Char) :
    lexemesFrom position (upperOutside false cs) = lexemesFrom position cs := by
  fun_induction lexemesFrom position cs with
  | case1 position cs start ended =>
      rw [lexemesFrom_eq, takeWhile_upperOutside isBlank_toUpper (by decide),
        dropWhile_upperOutside isBlank_toUpper (by decide), ended, List.length_map]
      rfl
  | case2 position cs start c rest found fault broken =>
      rw [lexemesFrom_eq, takeWhile_upperOutside isBlank_toUpper (by decide),
        dropWhile_upperOutside isBlank_toUpper (by decide), found, List.length_map,
        upperOutside_false_cons, lexemesAt, readToken_upperOutside, broken]
  | case3 position cs start c rest found token n read behind ih =>
      rw [lexemesFrom_eq, takeWhile_upperOutside isBlank_toUpper (by decide),
        dropWhile_upperOutside isBlank_toUpper (by decide), found, List.length_map,
        upperOutside_false_cons, lexemesAt, readToken_upperOutside, read]
      dsimp only
      rw [drop_upperOutside read, ih]

end FormulaSheet
