import FormulaSheet.Formula.Lexeme
import FormulaSheet.Proofs.Text.Character

/-!
# How tokens are spelled

`Token.Spelled` gives the spellings of a token: digits with an optional point, a text with its marks
doubled, a word that starts with a letter, and the one or two spellings of a symbol. `Laid` says that a
text starts with spellings of some lexemes at their positions, with nothing but blanks in front of each.

* `readToken_spelled`: a token that is read was spelled out at the front of the text.
* `laid_lexemesFrom`: so are all lexemes of a text, one behind the other, and `laid_lexemesFrom_ending`
  says what follows them.
* `lexemesFrom_increasing`: no two of them stand at the same position.
* `Laid.split`: the spellings can be parted between any two lexemes.
-/

namespace FormulaSheet

/-- The ways to write a symbol. -/
def Symbol.spellings : Symbol → List (List Char)
  | plus => [['+']]
  | minus => [['-']]
  | times => [['*']]
  | slash => [['/']]
  | percent => [['%']]
  | power => [['*', '*'], ['^']]
  | less => [['<']]
  | lessEqual => [['<', '=']]
  | greater => [['>']]
  | greaterEqual => [['>', '=']]
  | notEqual => [['<', '>']]
  | equal => [['=']]
  | ampersand => [['&']]
  | openParen => [['(']]
  | closeParen => [[')']]
  | comma => [[',']]
  | colon => [[':']]

/-- A text with every mark doubled, as it stands in a literal. -/
def doubled (held : List Char) : List Char :=
  held.flatMap fun c => if c = '"' then ['"', '"'] else [c]

/-- A letter and characters of words behind it. -/
structure IsWord (cs : List Char) : Prop where
  head : ∃ c ∈ cs.head?, c.isAlpha = true
  all : ∀ c ∈ cs, isWordChar c = true

/-- The spellings of a token. -/
inductive Token.Spelled : Token → List Char → Prop
  | whole {digits : List Char} (ne : digits ≠ []) (all : ∀ c ∈ digits, c.isDigit = true) :
      Spelled (.number (Number.ofDigits false digits [] 0)) digits
  | fraction {digits others : List Char} (ne : digits ≠ [])
      (all : ∀ c ∈ digits, c.isDigit = true) (more : ∀ c ∈ others, c.isDigit = true) :
      Spelled (.number (Number.ofDigits false digits others 0)) (digits ++ '.' :: others)
  | text (held : List Char) : Spelled (.text (String.ofList held)) ('"' :: doubled held ++ ['"'])
  | word {cs : List Char} (h : IsWord cs) : Spelled (Token.ofWord (cs.map Char.toUpper)) cs
  | symbol {s : Symbol} {cs : List Char} (mem : cs ∈ s.spellings) : Spelled (.symbol s) cs

/-- A spelling that starts with a letter takes up all characters of words at the front. -/
def Maximal (spelling behind : List Char) : Prop :=
  (∃ c ∈ spelling.head?, c.isAlpha = true) → ∀ d ∈ behind.head?, isWordChar d = false

/-- A text starts with spellings of some lexemes, and goes on with `rest`. -/
inductive Laid : Nat → List Char → List Lexeme → List Char → Prop
  | nil (position : Nat) (rest : List Char) : Laid position rest [] rest
  | cons {position : Nat} {token : Token} {blanks spelling behind rest : List Char}
      {others : List Lexeme} (blank : ∀ c ∈ blanks, Text.isBlank c = true)
      (spelled : token.Spelled spelling) (maximal : Maximal spelling behind)
      (later : Laid (position + blanks.length + spelling.length) behind others rest) :
      Laid position (blanks ++ spelling ++ behind) (⟨token, position + blanks.length⟩ :: others) rest

/-! ### Reading one token -/

theorem take_mem_spellings {cs : List Char} {s : Symbol} {n : Nat}
    (h : readSymbol? cs = some (s, n)) : cs.take n ∈ s.spellings ∧ n ≤ cs.length := by
  unfold readSymbol? at h
  split at h
  all_goals cases h
  all_goals simp [Symbol.spellings]

/-- What is read of a text literal is the text with its marks doubled and the closing mark. -/
theorem readText?_eq_some {cs held : List Char} {n : Nat} (h : readText? cs = some (held, n)) :
    ∃ behind, cs = doubled held ++ '"' :: behind ∧ n = (doubled held).length + 1 := by
  fun_induction readText? cs generalizing held n with
  | case1 => cases h
  | case2 rest ih =>
      obtain ⟨⟨inner, m⟩, found, same⟩ := Option.map_eq_some_iff.1 h
      cases same
      obtain ⟨behind, rfl, rfl⟩ := ih found
      exact ⟨behind, rfl, rfl⟩
  | case3 rest single =>
      cases h
      exact ⟨rest, rfl, rfl⟩
  | case4 c rest single other ih =>
      obtain ⟨⟨inner, m⟩, found, same⟩ := Option.map_eq_some_iff.1 h
      cases same
      obtain ⟨behind, rfl, rfl⟩ := ih found
      have front : doubled (c :: inner) = c :: doubled inner := by
        rw [doubled, List.flatMap_cons, if_neg other]
        rfl
      exact ⟨behind, by rw [front]; rfl, by rw [front]; rfl⟩

theorem readNumber_spelled {c : Char} (rest : List Char) (digit : c.isDigit = true) :
    ∃ spelling behind, c :: rest = spelling ++ behind ∧ spelling.length = (readNumber (c :: rest)).2 ∧
      (readNumber (c :: rest)).1.Spelled spelling := by
  have split : c :: rest = (c :: rest).takeWhile Char.isDigit ++ (c :: rest).dropWhile Char.isDigit :=
    List.takeWhile_append_dropWhile.symm
  have ne : (c :: rest).takeWhile Char.isDigit ≠ [] := by
    rw [List.takeWhile_cons_of_pos digit]
    exact List.cons_ne_nil _ _
  have all : ∀ d ∈ (c :: rest).takeWhile Char.isDigit, d.isDigit = true := fun d mem =>
    List.mem_takeWhile_imp mem
  unfold readNumber
  dsimp only
  split
  · next others point =>
    refine ⟨(c :: rest).takeWhile Char.isDigit ++ '.' :: others.takeWhile Char.isDigit,
      others.dropWhile Char.isDigit, ?_, ?_, ?_⟩
    · rw [List.append_assoc, List.cons_append, List.takeWhile_append_dropWhile, ← point]
      exact split
    · simp only [List.length_append, List.length_cons]
      omega
    · exact Token.Spelled.fraction ne all fun d mem => List.mem_takeWhile_imp mem
  · exact ⟨_, _, split, rfl, Token.Spelled.whole ne all⟩

theorem isWordChar_of_isAlpha {c : Char} (h : c.isAlpha = true) : isWordChar c = true := by
  rw [isWordChar, Text.isAlphanum_of_isAlpha h, Bool.true_or]

theorem readWord_spelled {c : Char} {rest : List Char} (alpha : c.isAlpha = true) :
    ∃ spelling behind, c :: rest = spelling ++ behind ∧ spelling.length = (readWord (c :: rest)).2 ∧
      (readWord (c :: rest)).1.Spelled spelling ∧ Maximal spelling behind := by
  have first := isWordChar_of_isAlpha alpha
  have word : IsWord ((c :: rest).takeWhile isWordChar) :=
    { head := ⟨c, by rw [List.takeWhile_cons_of_pos first]; rfl, alpha⟩
      all := fun d mem => List.mem_takeWhile_imp mem }
  refine ⟨(c :: rest).takeWhile isWordChar, (c :: rest).dropWhile isWordChar, ?_, rfl, ?_, ?_⟩
  · exact List.takeWhile_append_dropWhile.symm
  · exact Token.Spelled.word word
  · intro _ d mem
    exact Text.head_dropWhile mem

theorem maximal_of_head {c : Char} {rest spelling behind : List Char}
    (split : c :: rest = spelling ++ behind) (h : c.isAlpha = false) : Maximal spelling behind := by
  rintro ⟨d, head, alpha⟩
  cases spelling with
  | nil => cases head
  | cons e others =>
      cases head
      cases split
      rw [h] at alpha
      cases alpha

theorem Token.Spelled.ne_nil {token : Token} {spelling : List Char} (h : token.Spelled spelling) :
    spelling ≠ [] := by
  cases h with
  | whole ne all => exact ne
  | fraction ne all more => exact List.append_ne_nil_of_left_ne_nil ne _
  | text held => exact List.cons_ne_nil _ _
  | word word =>
      rintro rfl
      obtain ⟨c, mem, _⟩ := word.head
      cases mem
  | @symbol s cs mem =>
      rintro rfl
      cases s <;> simp [Symbol.spellings] at mem

/-- A token that is read was spelled out at the front of the text. -/
theorem readToken_spelled {c : Char} {rest : List Char} {token : Token} {n : Nat}
    (h : readToken c rest = .ok (token, n)) :
    ∃ spelling behind, c :: rest = spelling ++ behind ∧ spelling.length = n ∧
      token.Spelled spelling ∧ Maximal spelling behind := by
  unfold readToken at h
  split at h
  · next digit =>
    obtain ⟨spelling, behind, split, length, spelled⟩ := readNumber_spelled rest digit
    have same : readNumber (c :: rest) = (token, n) := Except.ok.inj h
    rw [same] at length spelled
    exact ⟨spelling, behind, split, length, spelled,
      maximal_of_head split (Text.isAlpha_of_isDigit digit)⟩
  · next digit =>
    split at h
    · next alpha =>
      cases h
      exact readWord_spelled alpha
    · next alpha =>
      have plain : c.isAlpha = false := Bool.eq_false_iff.2 alpha
      split at h
      · next mark =>
        subst mark
        split at h
        · next held m found =>
          cases h
          obtain ⟨behind, rfl, rfl⟩ := readText?_eq_some found
          have split : '"' :: (doubled held ++ '"' :: behind) =
              '"' :: doubled held ++ ['"'] ++ behind := by
            simp
          exact ⟨_, behind, split, by simp, Token.Spelled.text held, maximal_of_head split plain⟩
        · cases h
      · split at h
        · next s m found =>
          cases h
          obtain ⟨mem, short⟩ := take_mem_spellings found
          have split : c :: rest = (c :: rest).take n ++ (c :: rest).drop n :=
            (List.take_append_drop n (c :: rest)).symm
          exact ⟨_, _, split, List.length_take_of_le short, Token.Spelled.symbol mem,
            maximal_of_head split plain⟩
        · cases h

/-- The text that is left behind a token is what follows its spelling, and the spelling follows blanks. -/
theorem exists_spelled_front {cs rest : List Char} {c : Char} {token : Token} {n : Nat}
    (front : cs.dropWhile Text.isBlank = c :: rest) (read : readToken c rest = .ok (token, n)) :
    ∃ spelling, cs = cs.takeWhile Text.isBlank ++ spelling ++ rest.drop (n - 1) ∧
      spelling.length = n ∧ token.Spelled spelling ∧ Maximal spelling (rest.drop (n - 1)) := by
  obtain ⟨spelling, others, split, rfl, spelled, maximal⟩ := readToken_spelled read
  -- A spelling is not empty, so what is dropped behind its first character is the rest of it.
  have dropped : rest.drop (spelling.length - 1) = others := by
    obtain ⟨d, more, rfl⟩ := List.exists_cons_of_ne_nil spelled.ne_nil
    cases split
    exact List.drop_left
  rw [dropped]
  refine ⟨spelling, ?_, rfl, spelled, maximal⟩
  rw [List.append_assoc, ← split, ← front, List.takeWhile_append_dropWhile]

/-- The lexemes of a text are spelled out in it, one behind the other. If the whole text can be read, there
are only blanks behind them. -/
theorem laid_lexemesFrom_ending (position : Nat) (cs : List Char) :
    ∃ rest, Laid position cs (lexemesFrom position cs).1 rest ∧
      ∀ finish, (lexemesFrom position cs).2 = .complete finish →
        (∀ b ∈ rest, Text.isBlank b = true) ∧ finish = position + cs.length := by
  fun_induction lexemesFrom position cs with
  | case1 position cs start ended =>
      refine ⟨cs, Laid.nil position cs, fun finish ending => ?_⟩
      have blank := List.dropWhile_eq_nil_iff.1 ended
      have all : cs.takeWhile Text.isBlank = cs := List.takeWhile_eq_self_iff.2 blank
      cases ending
      exact ⟨blank, congrArg (position + List.length ·) all⟩
  | case2 position cs start c rest found fault broken =>
      refine ⟨cs, Laid.nil position cs, fun finish ending => ?_⟩
      cases ending
  | case3 position cs start c rest found token n read behind ih =>
      obtain ⟨final, later, whole⟩ := ih
      obtain ⟨spelling, text, rfl, spelled, maximal⟩ := exists_spelled_front found read
      have laid := Laid.cons (fun b mem => List.mem_takeWhile_imp mem) spelled maximal later
      rw [← text] at laid
      refine ⟨final, laid, fun finish ending => ?_⟩
      obtain ⟨blank, rfl⟩ := whole finish ending
      have length := congrArg List.length text
      rw [List.length_append, List.length_append] at length
      exact ⟨blank, by omega⟩

theorem laid_lexemesFrom (position : Nat) (cs : List Char) :
    ∃ rest, Laid position cs (lexemesFrom position cs).1 rest :=
  let ⟨rest, laid, _⟩ := laid_lexemesFrom_ending position cs
  ⟨rest, laid⟩

/-- The positions of the lexemes of a text and of what stands behind them increase. -/
theorem lexemesFrom_increasing (position : Nat) (cs : List Char) :
    let split := lexemesFrom position cs
    (split.1.map Lexeme.position ++ [split.2.position]).Pairwise (· < ·) ∧
      ∀ p ∈ split.1.map Lexeme.position ++ [split.2.position], position ≤ p := by
  fun_induction lexemesFrom position cs with
  | case1 position cs start ended => simp [Ending.position, start]
  | case2 position cs start c rest found fault broken => simp [Ending.position, start]
  | case3 position cs start c rest found token n read behind ih =>
      obtain ⟨spelling, others, _, rfl, spelled, _⟩ := readToken_spelled read
      have taken : 0 < spelling.length := List.length_pos_iff.2 spelled.ne_nil
      have reached : position ≤ start := Nat.le_add_right _ _
      refine ⟨List.pairwise_cons.2 ⟨fun p mem => ?_, ih.1⟩, fun p mem => ?_⟩
      · change start < p
        have later := ih.2 p mem
        omega
      · rcases List.mem_cons.1 mem with rfl | mem
        · exact reached
        · have later := ih.2 p mem
          omega

/-! ### Reading spellings backwards -/

/-- Spellings can be parted between two lexemes. -/
theorem Laid.split {position : Nat} {cs rest : List Char} {front back : List Lexeme}
    (h : Laid position cs (front ++ back) rest) :
    ∃ place middle, Laid position cs front middle ∧ Laid place middle back rest := by
  induction front generalizing position cs with
  | nil => exact ⟨position, cs, Laid.nil position cs, h⟩
  | cons lexeme others ih =>
      cases h with
      | cons blank spelled maximal later =>
          obtain ⟨place, middle, first, second⟩ := ih later
          exact ⟨place, middle, Laid.cons blank spelled maximal first, second⟩

/-- What spells out some lexemes ends with a spelling of the last one. -/
theorem Laid.exists_front {position : Nat} {cs rest : List Char} {lexemes : List Lexeme}
    (h : Laid position cs lexemes rest) :
    ∃ front, cs = front ++ rest ∧ (lexemes = [] → front = []) ∧
      ∀ lexeme ∈ lexemes.getLast?, ∃ before spelling, front = before ++ spelling ∧
        lexeme.token.Spelled spelling := by
  induction h with
  | nil position rest => exact ⟨[], rfl, fun _ => rfl, by simp⟩
  | @cons position token blanks spelling behind rest others blank spelled maximal later ih =>
      obtain ⟨front, rfl, empty, last⟩ := ih
      refine ⟨blanks ++ spelling ++ front, by simp, by simp, ?_⟩
      intro lexeme mem
      by_cases single : others = []
      · subst single
        cases mem
        rw [empty rfl, List.append_nil]
        exact ⟨blanks, spelling, rfl, spelled⟩
      · have later : lexeme ∈ others.getLast? := by
          rw [List.getLast?_cons, List.getLast?_eq_some_getLast single] at mem
          rw [List.getLast?_eq_some_getLast single]
          exact mem
        obtain ⟨before, word, rfl, spelled⟩ := last lexeme later
        exact ⟨blanks ++ spelling ++ before, word, by simp, spelled⟩

theorem isUpper_or_isDigit_of_isReferenceWord {word : List Char} (h : isReferenceWord word = true)
    {c : Char} (mem : c ∈ word) : c.isUpper = true ∨ c.isDigit = true := by
  simp only [isReferenceWord, Bool.and_eq_true, List.all_eq_true] at h
  rw [← List.takeWhile_append_dropWhile (p := Char.isUpper) (l := word), List.mem_append] at mem
  rcases mem with letter | digit
  · exact Or.inl (List.mem_takeWhile_imp letter)
  · exact Or.inr (h.2 c digit)

/-- A reference is spelled with letters and digits, in either case. -/
theorem Token.Spelled.cell {ref : String} {spelling : List Char}
    (h : (Token.cell ref).Spelled spelling) :
    spelling.map Char.toUpper = ref.toList ∧ (∃ c ∈ spelling.head?, c.isAlpha = true) ∧
      ∀ c ∈ spelling, c.isAlphanum = true := by
  generalize same : Token.cell ref = token at h
  cases h with
  | whole ne all => cases same
  | fraction ne all more => cases same
  | text held => cases same
  | symbol mem => cases same
  | word word =>
      unfold Token.ofWord at same
      split at same
      · next form =>
        cases same
        refine ⟨String.toList_ofList.symm, word.head, ?_⟩
        intro c mem
        rcases isUpper_or_isDigit_of_isReferenceWord form (List.mem_map_of_mem mem) with
          upper | digit
        · have alpha := Text.isAlpha_of_isUpper upper
          rw [Text.isAlpha_toUpper] at alpha
          exact Text.isAlphanum_of_isAlpha alpha
        · rw [Text.isDigit_toUpper] at digit
          exact Text.isAlphanum_of_isDigit digit
      · cases same

theorem Token.Spelled.mem_spellings {s : Symbol} {spelling : List Char}
    (h : (Token.symbol s).Spelled spelling) : spelling ∈ s.spellings := by
  generalize same : Token.symbol s = token at h
  cases h with
  | whole ne all => cases same
  | fraction ne all more => cases same
  | text held => cases same
  | symbol mem =>
      cases same
      exact mem
  | word word =>
      unfold Token.ofWord at same
      split at same
      · cases same
      · cases same

/-- A symbol other than the colon ends with a character that is no colon either. -/
theorem Token.Spelled.symbol_getLast {s : Symbol} {spelling : List Char}
    (h : (Token.symbol s).Spelled spelling) (ne : s ≠ .colon) :
    ∀ c ∈ spelling.getLast?, c.isAlphanum = false ∧ Text.isBlank c = false ∧ c ≠ ':' := by
  have all : (s.spellings.all fun word => word.getLast?.all fun c =>
      !c.isAlphanum && !Text.isBlank c && c != ':') = true := by
    cases s with
    | colon => exact absurd rfl ne
    | _ => decide
  intro c mem
  have here := List.all_eq_true.1 all spelling h.mem_spellings
  rw [Option.mem_def.1 mem] at here
  simpa [and_assoc] using here

theorem Token.Spelled.colon {spelling : List Char} (h : (Token.symbol .colon).Spelled spelling) :
    spelling = [':'] :=
  List.mem_singleton.1 h.mem_spellings

/-- No symbol ends with a letter or a digit. -/
theorem Token.Spelled.symbol_isAlphanum {s : Symbol} {spelling : List Char}
    (h : (Token.symbol s).Spelled spelling) : ∀ c ∈ spelling.getLast?, c.isAlphanum = false := by
  intro c mem
  by_cases colon : s = .colon
  · subst colon
    rw [h.colon] at mem
    cases mem
    decide
  · exact (h.symbol_getLast colon c mem).1

end FormulaSheet
