import FormulaSheet.Proofs.Lexeme.Spelling
import FormulaSheet.Proofs.Number.Numeral

/-!
# Nothing is lost between lexemes

If a whole text can be read, it consists of blanks and of the spellings of its lexemes: from the position
of each lexeme to that of the next one, or to the end, there stand a spelling of its token and then only
blanks (`Covers`).

A word takes up all characters of words behind its first letter, so it could only be part of a longer word
if that one began in front of it. What stands in front are other lexemes and blanks, and `Sealed` is what
each of them leaves behind: no word at the end of the text so far is continued by what follows.

* `Token.Spelled.isWrittenAs` says for each kind of token what its spelling is.
* `Sealed.step` carries the seal over one lexeme, and `Laid.part` over several.
* `Laid.reaches` and `covers_lexemes` are the statements about a lexeme that is spelled out in a text, and
  about all lexemes that are read from it.
* `lexemesFrom_word`: a word in front of anything that is in no word is one lexeme.
-/

namespace FormulaSheet

/-! ### What a token is written as -/

/-- Letters and digits behind them, at least one of each. -/
def IsLettersThenDigits (cs : List Char) : Prop :=
  ∃ letters digits, cs = letters ++ digits ∧ letters ≠ [] ∧ digits ≠ [] ∧
    (∀ c ∈ letters, c.isAlpha = true) ∧ ∀ c ∈ digits, c.isDigit = true

/-- A number is written as a numeral that is read as this number, a text between two marks and with all
marks in it doubled, a reference and a name as a word, and a symbol in one of its spellings. -/
def Token.IsWrittenAs : Token → List Char → Prop
  | number x, cs =>
    (∃ whole fraction, Number.IsNumeral whole fraction cs) ∧ Number.read? cs = some x
  | text s, cs => cs = '"' :: doubled s.toList ++ ['"']
  | cell ref, cs => IsWord cs ∧ cs.map Char.toUpper = ref.toList ∧ IsLettersThenDigits cs
  | name ident, cs => IsWord cs ∧ cs.map Char.toUpper = ident.toList ∧ ¬ IsLettersThenDigits cs
  | symbol s, cs => cs ∈ s.spellings

theorem isReferenceWord_map_toUpper {cs : List Char} :
    isReferenceWord (cs.map Char.toUpper) = true ↔ IsLettersThenDigits cs := by
  have upper : Char.isUpper ∘ Char.toUpper = Char.isAlpha := funext Text.isUpper_toUpper
  have digit : Char.isDigit ∘ Char.toUpper = Char.isDigit := funext Text.isDigit_toUpper
  have parts : isReferenceWord (cs.map Char.toUpper) = true ↔
      cs.takeWhile Char.isAlpha ≠ [] ∧ cs.dropWhile Char.isAlpha ≠ [] ∧
        ∀ c ∈ cs.dropWhile Char.isAlpha, c.isDigit = true := by
    simp only [isReferenceWord, List.takeWhile_map, List.dropWhile_map, upper, List.all_map, digit,
      Bool.and_eq_true, Bool.not_eq_true', List.isEmpty_eq_false_iff, List.map_eq_nil_iff, ne_eq,
      List.all_eq_true, and_assoc]
  rw [parts]
  constructor
  · rintro ⟨front, back, all⟩
    exact ⟨_, _, List.takeWhile_append_dropWhile.symm, front, back,
      fun c mem => List.mem_takeWhile_imp mem, all⟩
  · rintro ⟨letters, digits, rfl, front, back, alpha, all⟩
    have stop : ∀ c ∈ digits.head?, c.isAlpha = false := fun c mem =>
      Text.isAlpha_of_isDigit (all c (List.mem_of_mem_head? mem))
    rw [Text.takeWhile_append_of_head alpha stop, Text.dropWhile_append_of_head alpha stop]
    exact ⟨front, back, all⟩

theorem Token.Spelled.isWrittenAs {token : Token} {spelling : List Char}
    (h : token.Spelled spelling) : token.IsWrittenAs spelling := by
  cases h with
  | whole ne all =>
      have numeral := Number.IsNumeral.integral ne all
      exact ⟨⟨_, _, numeral⟩, Number.read?_of_isNumeral numeral⟩
  | fraction ne all more =>
      have numeral := Number.IsNumeral.pointed ne all more
      exact ⟨⟨_, _, numeral⟩, Number.read?_of_isNumeral numeral⟩
  | text held =>
      change _ = '"' :: doubled (String.ofList held).toList ++ ['"']
      rw [String.toList_ofList]
  | word word =>
      unfold Token.ofWord
      split
      · next form =>
        exact ⟨word, String.toList_ofList.symm, isReferenceWord_map_toUpper.1 form⟩
      · next form =>
        exact ⟨word, String.toList_ofList.symm, fun other =>
          form (isReferenceWord_map_toUpper.2 other)⟩
  | symbol mem => exact mem

/-! ### Words that end with the text so far -/

theorem isWordChar_of_isDigit {c : Char} (h : c.isDigit = true) : isWordChar c = true := by
  rw [isWordChar, Text.isAlphanum_of_isDigit h, Bool.true_or]

theorem isWordChar_of_isBlank {c : Char} (h : Text.isBlank c = true) : isWordChar c = false := by
  have other : (c == '_') = false := by
    rw [beq_eq_false_iff_ne]
    rintro rfl
    revert h
    decide
  rw [isWordChar, Text.isAlphanum_of_isBlank h, other, Bool.false_or]

/-- Letters and digits behind them are a word. -/
theorem IsLettersThenDigits.isWord {cs : List Char} (h : IsLettersThenDigits cs) : IsWord cs := by
  obtain ⟨letters, digits, rfl, front, _, alpha, digit⟩ := h
  obtain ⟨c, more, rfl⟩ := List.exists_cons_of_ne_nil front
  refine ⟨⟨c, rfl, alpha c List.mem_cons_self⟩, fun d mem => ?_⟩
  rcases List.mem_append.1 mem with inFront | behind
  · exact isWordChar_of_isAlpha (alpha d inFront)
  · exact isWordChar_of_isDigit (digit d behind)

theorem IsWord.ne_nil {cs : List Char} (h : IsWord cs) : cs ≠ [] := by
  rintro rfl
  obtain ⟨c, mem, _⟩ := h.head
  cases mem

/-- A word does not consist of digits. -/
theorem IsWord.not_digits {cs : List Char} (h : IsWord cs) :
    ¬ ∀ c ∈ cs, c.isDigit = true := by
  intro all
  obtain ⟨c, mem, alpha⟩ := h.head
  rw [Text.isAlpha_of_isDigit (all c (List.mem_of_mem_head? mem))] at alpha
  cases alpha

/-- Behind a character that is in no word, no word ends with digits only. -/
theorem not_isWord_of_suffix {front digits mid : List Char} {c : Char} (other : isWordChar c = false)
    (all : ∀ d ∈ digits, d.isDigit = true) (ends : mid <:+ front ++ c :: digits) : ¬ IsWord mid := by
  intro word
  have outside : c ∉ mid := fun mem => by
    rw [word.all c mem] at other
    cases other
  rcases List.suffix_or_suffix_of_suffix ends (List.suffix_append front (c :: digits)) with
    inner | outer
  · rcases List.suffix_cons_iff.1 inner with rfl | inside
    · exact outside List.mem_cons_self
    · exact word.not_digits fun d mem => all d (inside.subset mem)
  · exact outside (outer.subset List.mem_cons_self)

/-- The last character of a symbol is in no word. -/
theorem Symbol.exists_last {s : Symbol} {cs : List Char} (mem : cs ∈ s.spellings) :
    ∃ front c, cs = front ++ [c] ∧ isWordChar c = false := by
  have all : (s.spellings.all fun word => word.getLast?.any fun c => !isWordChar c) = true := by
    cases s <;> decide
  obtain ⟨c, last, other⟩ := (Option.any_eq_true ..).1 (List.all_eq_true.1 all cs mem)
  rw [Bool.not_eq_true'] at other
  obtain ⟨front, rfl⟩ := List.getLast?_eq_some_iff.1 last
  exact ⟨front, c, rfl, other⟩

/-- No word at the end of a text goes on with what follows. -/
def Sealed (front behind : List Char) : Prop :=
  ∀ mid, mid <:+ front → IsWord mid → ∀ d ∈ behind.head?, isWordChar d = false

theorem sealed_nil (behind : List Char) : Sealed [] behind := by
  intro mid ends word
  exact absurd (List.suffix_nil.1 ends) word.ne_nil

/-- Blanks keep the seal. -/
theorem Sealed.blanks {front blanks behind : List Char} (h : Sealed front (blanks ++ behind))
    (blank : ∀ b ∈ blanks, Text.isBlank b = true) : Sealed (front ++ blanks) behind := by
  rcases List.eq_nil_or_concat blanks with rfl | ⟨others, b, rfl⟩
  · rw [List.append_nil]
    exact h
  · intro mid ends word
    rw [List.concat_eq_append, ← List.append_assoc] at ends
    have other := isWordChar_of_isBlank (blank b (by simp))
    exact absurd word (not_isWord_of_suffix other (by simp) ends)

/-- A spelling keeps the seal: a word is continued by nothing, and everything else ends no word. -/
theorem Sealed.spelling {front spelling behind : List Char} {token : Token}
    (h : Sealed front (spelling ++ behind)) (spelled : token.Spelled spelling)
    (maximal : Maximal spelling behind) : Sealed (front ++ spelling) behind := by
  intro mid ends word d mem
  cases spelled with
  | whole ne all =>
      rcases List.suffix_or_suffix_of_suffix ends (List.suffix_append front spelling) with
        inner | ⟨before, rfl⟩
      · exact absurd (fun c here => all c (inner.subset here)) word.not_digits
      · -- The word began in front of the digits, and the first of them continued it.
        obtain ⟨c, rest, rfl⟩ := List.exists_cons_of_ne_nil ne
        obtain ⟨start, split⟩ := ends
        rw [← List.append_assoc] at split
        have inFront : before <:+ front := ⟨start, List.append_cancel_right split⟩
        have digit := isWordChar_of_isDigit (all c List.mem_cons_self)
        have ne : before ≠ [] := by
          rintro rfl
          exact word.not_digits all
        obtain ⟨e, more, rfl⟩ := List.exists_cons_of_ne_nil ne
        have earlier : IsWord (e :: more) :=
          { head := word.head
            all := fun x here => word.all x (List.mem_append_left _ here) }
        rw [h _ inFront earlier c rfl] at digit
        cases digit
  | fraction ne all more =>
      rw [← List.append_assoc] at ends
      exact absurd word (not_isWord_of_suffix (by decide) more ends)
  | text held =>
      rw [← List.append_assoc] at ends
      exact absurd word (not_isWord_of_suffix (by decide) (by simp) ends)
  | word inner => exact maximal inner.head d mem
  | symbol inner =>
      obtain ⟨start, c, rfl, other⟩ := Symbol.exists_last inner
      rw [← List.append_assoc] at ends
      exact absurd word (not_isWord_of_suffix other (by simp) ends)

/-- A lexeme keeps the seal. -/
theorem Sealed.step {front blanks spelling behind : List Char} {token : Token}
    (h : Sealed front (blanks ++ spelling ++ behind)) (blank : ∀ b ∈ blanks, Text.isBlank b = true)
    (spelled : token.Spelled spelling) (maximal : Maximal spelling behind) :
    Sealed (front ++ (blanks ++ spelling)) behind := by
  rw [List.append_assoc] at h
  rw [← List.append_assoc]
  exact (h.blanks blank).spelling spelled maximal

/-- Lexemes that are spelled out in a text can be parted at any place, and they keep the seal up to
there. -/
theorem Laid.part {position : Nat} {cs rest : List Char} {before behind : List Lexeme}
    (h : Laid position cs (before ++ behind) rest) {front : List Char} (closed : Sealed front cs) :
    ∃ skipped middle, cs = skipped ++ middle ∧ Sealed (front ++ skipped) middle ∧
      Laid (position + skipped.length) middle behind rest := by
  induction before generalizing position cs front with
  | nil => exact ⟨[], cs, rfl, by rwa [List.append_nil], h⟩
  | cons lexeme others ih =>
      cases h with
      | @cons _ _ blanks spelling text _ _ blank spelled maximal later =>
          obtain ⟨skipped, middle, rfl, inner, laid⟩ := ih later (closed.step blank spelled maximal)
          refine ⟨blanks ++ spelling ++ skipped, middle, by simp only [List.append_assoc], ?_, ?_⟩
          · rwa [List.append_assoc] at inner
          · rwa [List.length_append, List.length_append, ← Nat.add_assoc, ← Nat.add_assoc]

/-! ### The text between two positions -/

/-- A word of a text that is part of no longer one. -/
def IsMaximalWord (cs : List Char) (position : Nat) (spelling : List Char) : Prop :=
  ∀ front word back, cs = front ++ (word ++ back) → IsWord word → front.length ≤ position →
    position + spelling.length ≤ front.length + word.length →
      front.length = position ∧ word = spelling

/-- A word behind a sealed front is part of no longer word if it is continued by nothing. -/
theorem isMaximalWord_of_sealed {front spelling behind : List Char} (word : IsWord spelling)
    (closed : Sealed front (spelling ++ behind)) (maximal : Maximal spelling behind) :
    IsMaximalWord (front ++ (spelling ++ behind)) front.length spelling := by
  intro start longer back split outer before after
  -- The longer word is the spelling with some characters in front of it and some behind it.
  obtain ⟨mid, rfl⟩ : ∃ mid, front = start ++ mid := by
    have first : start <+: front ++ (spelling ++ behind) := ⟨_, split.symm⟩
    obtain ⟨mid, rfl⟩ := List.prefix_of_prefix_length_le first (List.prefix_append _ _) before
    exact ⟨mid, rfl⟩
  rw [List.append_assoc, List.append_cancel_left_eq, ← List.append_assoc] at split
  obtain ⟨more, rfl⟩ : ∃ more, longer = mid ++ spelling ++ more := by
    have inner : mid ++ spelling <+: longer ++ back := ⟨behind, split⟩
    obtain ⟨more, rfl⟩ := List.prefix_of_prefix_length_le inner (List.prefix_append _ _) (by
      simp only [List.length_append] at after ⊢
      omega)
    exact ⟨more, rfl⟩
  rw [List.append_assoc _ more, List.append_cancel_left_eq] at split
  obtain rfl : more = [] := by
    cases more with
    | nil => rfl
    | cons d rest =>
        have closed := maximal word.head d (split ▸ rfl)
        rw [outer.all d (by simp)] at closed
        cases closed
  obtain rfl : mid = [] := by
    cases mid with
    | nil => rfl
    | cons e rest =>
        obtain ⟨c, others, rfl⟩ := List.exists_cons_of_ne_nil word.ne_nil
        have earlier : IsWord (e :: rest) :=
          { head := outer.head
            all := fun x here => outer.all x (by simp only [List.mem_append]; exact Or.inl (Or.inl here)) }
        have continued := closed _ (List.suffix_append start (e :: rest)) earlier c rfl
        rw [word.all c List.mem_cons_self] at continued
        cases continued
  exact ⟨by simp, by simp⟩

/-! ### Words at the front -/

/-- Behind no blanks, the token at the front of a text is its first lexeme. -/
theorem lexemesFrom_cons {c : Char} {rest : List Char} {token : Token} {n : Nat}
    (printed : Text.isBlank c = false) (read : readToken c rest = .ok (token, n)) (position : Nat) :
    lexemesFrom position (c :: rest) =
      (⟨token, position⟩ :: (lexemesFrom (position + n) (rest.drop (n - 1))).1,
        (lexemesFrom (position + n) (rest.drop (n - 1))).2) := by
  have head : ∀ d ∈ (c :: rest).head?, Text.isBlank d = false := by
    rintro d ⟨⟩
    exact printed
  rw [lexemesFrom]
  simp only [Text.takeWhile_of_head head, List.length_nil, Nat.add_zero]
  split
  · next nothing =>
    rw [Text.dropWhile_of_head head] at nothing
    cases nothing
  · next d others front =>
    rw [Text.dropWhile_of_head head] at front
    cases front
    rw [read]

theorem isWord_cons {c : Char} {cs : List Char} (alpha : c.isAlpha = true)
    (all : cs.all isWordChar = true) : IsWord (c :: cs) where
  head := ⟨c, rfl, alpha⟩
  all := by
    intro d mem
    rcases List.mem_cons.1 mem with rfl | behind
    · exact isWordChar_of_isAlpha alpha
    · exact List.all_eq_true.1 all d behind

/-- A word is a lexeme if no character of words follows. -/
theorem lexemesFrom_word {word behind : List Char} (isWord : IsWord word)
    (stop : ∀ c ∈ behind.head?, isWordChar c = false) (position : Nat) :
    lexemesFrom position (word ++ behind) =
      (⟨Token.ofWord (word.map Char.toUpper), position⟩ ::
          (lexemesFrom (position + word.length) behind).1,
        (lexemesFrom (position + word.length) behind).2) := by
  obtain ⟨c, mem, alpha⟩ := isWord.head
  obtain ⟨more, rfl⟩ := List.head?_eq_some_iff.1 mem
  have printed : Text.isBlank c = false := by
    by_contra blank
    have inside := isWord.all c List.mem_cons_self
    rw [isWordChar_of_isBlank (Bool.not_eq_false _ ▸ blank)] at inside
    cases inside
  have digit : c.isDigit = false := by
    by_contra digit
    rw [Text.isAlpha_of_isDigit (Bool.not_eq_false _ ▸ digit)] at alpha
    cases alpha
  have read : readToken c (more ++ behind) =
      .ok (Token.ofWord ((c :: more).map Char.toUpper), (c :: more).length) := by
    rw [readToken, digit, alpha, readWord, ← List.cons_append,
      Text.takeWhile_append_of_head isWord.all stop]
    rfl
  rw [List.cons_append, lexemesFrom_cons printed read, List.length_cons, Nat.add_sub_cancel,
    List.drop_left]

/-! ### The whole text -/

/-- The position of the first one of some lexemes, or the end of the text if there is none. -/
def startOf (lexemes : List Lexeme) (finish : Nat) : Nat :=
  (lexemes.head?.map Lexeme.position).getD finish

/-- In front of the next lexeme, or of the end of the text, there are only blanks. -/
theorem Laid.exists_gap {position : Nat} {cs rest : List Char} {lexemes : List Lexeme}
    (h : Laid position cs lexemes rest) (blank : ∀ b ∈ rest, Text.isBlank b = true) :
    ∃ blanks behind, cs = blanks ++ behind ∧ (∀ b ∈ blanks, Text.isBlank b = true) ∧
      startOf lexemes (position + cs.length) = position + blanks.length := by
  cases h with
  | nil => exact ⟨cs, [], (List.append_nil cs).symm, blank, rfl⟩
  | @cons _ _ blanks spelling behind _ _ inside spelled maximal later =>
      exact ⟨blanks, spelling ++ behind, List.append_assoc .., inside, rfl⟩

/-- From a lexeme to the position `next` of a text there stand a spelling of its token and then blanks. A
word is in no longer word of the text. -/
def Reaches (cs : List Char) (lexeme : Lexeme) (next : Nat) : Prop :=
  ∃ spelling blanks, cs.extract lexeme.position next = spelling ++ blanks ∧
    lexeme.token.IsWrittenAs spelling ∧ (∀ b ∈ blanks, Text.isBlank b = true) ∧
      (IsWord spelling → IsMaximalWord cs lexeme.position spelling)

/-- Lexemes leave nothing of a text out but blanks: those in front of the first one, and those between a
lexeme and the next one or the end of the text. -/
structure Covers (cs : List Char) (lexemes : List Lexeme) (finish : Nat) : Prop where
  finish_eq : finish = cs.length
  increasing : (lexemes.map Lexeme.position ++ [finish]).Pairwise (· < ·)
  front : ∀ b ∈ cs.take (startOf lexemes finish), Text.isBlank b = true
  reaches : ∀ before lexeme behind, lexemes = before ++ lexeme :: behind →
    Reaches cs lexeme (startOf behind finish)

/-- Each lexeme that is spelled out in a text reaches to the next one, if only blanks follow the last. -/
theorem Laid.reaches {cs rest : List Char} {before behind : List Lexeme} {lexeme : Lexeme}
    (h : Laid 0 cs (before ++ lexeme :: behind) rest) (blank : ∀ b ∈ rest, Text.isBlank b = true) :
    Reaches cs lexeme (startOf behind cs.length) := by
  obtain ⟨skipped, middle, rfl, closed, here⟩ := h.part (sealed_nil cs)
  rw [List.nil_append] at closed
  cases here with
  | @cons _ token blanks spelling text _ _ inside spelled maximal later =>
      obtain ⟨gap, back, rfl, gaps, next⟩ := later.exists_gap blank
      rw [List.append_assoc] at closed
      have whole : skipped ++ (blanks ++ spelling ++ (gap ++ back)) =
          (skipped ++ blanks) ++ (spelling ++ (gap ++ back)) := by
        simp only [List.append_assoc]
      have place : 0 + skipped.length + blanks.length = (skipped ++ blanks).length := by
        simp
      have finish : startOf behind (skipped ++ (blanks ++ spelling ++ (gap ++ back))).length =
          (skipped ++ blanks).length + (spelling ++ gap).length := by
        have total : (skipped ++ (blanks ++ spelling ++ (gap ++ back))).length =
            0 + skipped.length + blanks.length + spelling.length + (gap ++ back).length := by
          simp only [List.length_append]
          omega
        rw [total, next]
        simp only [List.length_append]
        omega
      rw [finish, whole]
      refine ⟨spelling, gap, ?_, spelled.isWrittenAs, gaps, fun word => ?_⟩
      · rw [place, List.extract_eq_take_drop, List.drop_left, Nat.add_sub_cancel_left,
          ← List.append_assoc, List.take_left]
      · rw [place]
        exact isMaximalWord_of_sealed word (closed.blanks inside) maximal

/-- If a whole text can be read, its lexemes cover it. -/
theorem covers_lexemes {text : String} {ls : List Lexeme} {finish : Nat}
    (h : lexemes text = (ls, .complete finish)) : Covers text.toList ls finish := by
  have lexed : (lexemesFrom 0 text.toList).1 = ls := congrArg Prod.fst h
  have ending : (lexemesFrom 0 text.toList).2 = .complete finish := congrArg Prod.snd h
  obtain ⟨rest, laid, whole⟩ := laid_lexemesFrom_ending 0 text.toList
  obtain ⟨increasing, _⟩ := lexemesFrom_increasing 0 text.toList
  rw [lexed] at laid
  rw [lexed, ending] at increasing
  obtain ⟨blank, rfl⟩ := whole finish ending
  rw [Nat.zero_add] at increasing ⊢
  obtain ⟨gap, back, split, gaps, start⟩ := laid.exists_gap blank
  rw [Nat.zero_add, Nat.zero_add] at start
  refine ⟨rfl, increasing, fun b mem => gaps b ?_, fun before lexeme behind parts => ?_⟩
  · rwa [start, split, List.take_left] at mem
  · subst parts
    exact laid.reaches blank

/-- A text with a reference that touches a number, a literal with a mark in it, and blanks at both ends. -/
theorem covers_lexemes_mixed :
    ∃ ls, lexemes " 2.5A1<=\"a\"\"b\" **rand_x ( " = (ls, .complete 26) ∧
      Covers " 2.5A1<=\"a\"\"b\" **rand_x ( ".toList ls 26 := by
  have ending : (lexemes " 2.5A1<=\"a\"\"b\" **rand_x ( ").2 = .complete 26 := by decide +kernel
  have read : lexemes " 2.5A1<=\"a\"\"b\" **rand_x ( " =
      ((lexemes " 2.5A1<=\"a\"\"b\" **rand_x ( ").1, .complete 26) :=
    Prod.ext rfl ending
  exact ⟨_, read, covers_lexemes read⟩

end FormulaSheet
