import FormulaSheet.Proofs.Grammar.Completeness
import FormulaSheet.Proofs.Lexeme.Coverage
import FormulaSheet.Sheet.Engine

/-!
# Texts made of spellings

Tokens that are written one behind the other, with blanks between each two of them, are read again as the
same tokens. A blank ends every spelling: it is no digit, no character of words, no second mark of a text
and no second character of a symbol, so no token takes up anything of the next one.

* `Token.spelled_iff_isWrittenAs`: the spellings of a token are the texts that it is written as.
* `readToken_of_spelled`: a spelling in front of a blank is read as its token.
* `lexemesFrom_spread` goes over the whole text, and `lexemes_spread` is the statement about it. A formula
  that is one text literal is a case of it: its value is the text between the marks.
-/

namespace FormulaSheet

open Text (isBlank)

/-! ### Spellings and what is written -/

/-- A token is spelled by what it is written as, and by nothing else. -/
theorem Token.spelled_iff_isWrittenAs {token : Token} {cs : List Char} :
    token.Spelled cs ↔ token.IsWrittenAs cs := by
  refine ⟨Token.Spelled.isWrittenAs, fun written => ?_⟩
  cases token with
  | number x =>
      obtain ⟨⟨whole, fraction, numeral⟩, read⟩ := written
      rw [Number.read?_of_isNumeral numeral] at read
      cases read
      cases numeral with
      | integral ne all => exact .whole ne all
      | pointed ne all more => exact .fraction ne all more
  | text s =>
      have same : cs = '"' :: doubled s.toList ++ ['"'] := written
      rw [same]
      have spelled := Token.Spelled.text s.toList
      rwa [String.ofList_toList] at spelled
  | cell ref =>
      obtain ⟨word, upper, form⟩ := written
      have spelled := Token.Spelled.word word
      rwa [Token.ofWord, if_pos (isReferenceWord_map_toUpper.2 form), upper,
        String.ofList_toList] at spelled
  | name ident =>
      obtain ⟨word, upper, form⟩ := written
      have spelled := Token.Spelled.word word
      rwa [Token.ofWord, if_neg fun other => form (isReferenceWord_map_toUpper.1 other), upper,
        String.ofList_toList] at spelled
  | symbol s => exact .symbol written

/-- No spelling starts with a blank. -/
theorem Token.Spelled.isBlank_head {token : Token} {c : Char} {more : List Char}
    (h : token.Spelled (c :: more)) : isBlank c = false := by
  generalize spelling : c :: more = cs at h
  cases h with
  | whole ne all =>
      exact Text.isBlank_of_isAlphanum (Text.isAlphanum_of_isDigit (all c (spelling ▸ List.mem_cons_self)))
  | @fraction digits others ne all rest =>
      obtain ⟨d, front, rfl⟩ := List.exists_cons_of_ne_nil ne
      cases spelling
      exact Text.isBlank_of_isAlphanum (Text.isAlphanum_of_isDigit (all c List.mem_cons_self))
  | text held =>
      cases spelling
      decide
  | word word =>
      obtain ⟨d, head, alpha⟩ := word.head
      rw [← spelling] at head
      cases head
      exact Text.isBlank_of_isAlphanum (Text.isAlphanum_of_isAlpha alpha)
  | @symbol s _ mem =>
      have all : (s.spellings.all fun word => word.head?.all fun d => !isBlank d) = true := by
        cases s <;> decide
      have here := List.all_eq_true.1 all _ mem
      rw [← spelling] at here
      simpa using here

/-- A symbol starts with no digit, no letter and no mark of a text. -/
theorem Symbol.head_of_mem {s : Symbol} {cs : List Char} (mem : cs ∈ s.spellings) {c : Char}
    (head : cs.head? = some c) : ¬ c.isDigit = true ∧ ¬ c.isAlpha = true ∧ ¬ c = '"' := by
  have all : (s.spellings.all fun word => word.head?.all fun d =>
      !d.isDigit && !d.isAlpha && d != '"') = true := by
    cases s <;> decide
  have here := List.all_eq_true.1 all _ mem
  rw [head] at here
  simpa [and_assoc] using here

/-! ### Reading a spelling in front of a blank -/

/-- A mark that is not followed by another one closes a literal. -/
theorem readText?_closing {rest : List Char} (h : rest.head? ≠ some '"') :
    readText? ('"' :: rest) = some ([], 1) := by
  rw [readText?.eq_3 _ _ fun others _ same => h (by rw [same]; rfl), if_pos rfl]

theorem readText?_cons_of_ne {c : Char} (h : c ≠ '"') (rest : List Char) :
    readText? (c :: rest) = (readText? rest).map fun (held, n) => (c :: held, n + 1) := by
  rw [readText?.eq_3 _ _ fun _ same _ => h same, if_neg h]

section Front

variable {behind : List Char} (apart : ∀ d ∈ behind.head?, isBlank d = true)
include apart

/-- A class without blanks ends at the end of the spelling. -/
theorem head_of_apart {p : Char → Bool} (other : ∀ d, isBlank d = true → p d = false) :
    ∀ d ∈ behind.head?, p d = false :=
  fun d mem => other d (apart d mem)

theorem isDigit_of_apart : ∀ d ∈ behind.head?, d.isDigit = false := by
  refine head_of_apart apart fun d blank => ?_
  have other := Text.isAlphanum_of_isBlank blank
  rw [Char.isAlphanum, Bool.or_eq_false_iff] at other
  exact other.2

/-- The character behind a spelling is not a certain one that is no blank. -/
theorem ne_of_apart {d : Char} {rest : List Char} (split : behind = d :: rest) {e : Char}
    (solid : isBlank e = false) : d ≠ e := by
  subst split
  rintro rfl
  rw [apart d rfl] at solid
  cases solid

theorem readNumber_whole {digits : List Char} (all : ∀ c ∈ digits, c.isDigit = true) :
    readNumber (digits ++ behind) = (.number (Number.ofDigits false digits [] 0), digits.length) := by
  unfold readNumber
  rw [Text.takeWhile_append_of_head all (isDigit_of_apart apart),
    Text.dropWhile_append_of_head all (isDigit_of_apart apart)]
  split
  · exact absurd rfl (ne_of_apart apart rfl (e := '.') (by decide))
  · rfl

theorem readNumber_fraction {digits others : List Char} (all : ∀ c ∈ digits, c.isDigit = true)
    (more : ∀ c ∈ others, c.isDigit = true) :
    readNumber (digits ++ '.' :: others ++ behind) =
      (.number (Number.ofDigits false digits others 0), (digits ++ '.' :: others).length) := by
  have point : ∀ c ∈ ('.' :: (others ++ behind)).head?, c.isDigit = false := by
    rintro _ ⟨⟩
    decide
  have fraction := Text.takeWhile_append_of_head more (isDigit_of_apart apart)
  unfold readNumber
  rw [List.append_assoc, List.cons_append, Text.takeWhile_append_of_head all point,
    Text.dropWhile_append_of_head all point]
  simp only [fraction, List.length_append, List.length_cons]
  rw [Nat.add_assoc, Nat.add_comm 1]

theorem readWord_of_isWord {cs : List Char} (word : IsWord cs) :
    readWord (cs ++ behind) = (Token.ofWord (cs.map Char.toUpper), cs.length) := by
  have stop := head_of_apart apart fun d => isWordChar_of_isBlank
  rw [readWord, Text.takeWhile_append_of_head word.all stop]

/-- What stands between the marks of a literal is read back, if no third mark follows the last one. -/
theorem readText?_doubled (held : List Char) :
    readText? (doubled held ++ '"' :: behind) = some (held, (doubled held).length + 1) := by
  induction held with
  | nil =>
      refine readText?_closing fun mark => ?_
      have blank := apart _ mark
      revert blank
      decide
  | cons c rest ih =>
      by_cases mark : c = '"'
      · subst mark
        have front : doubled ('"' :: rest) = '"' :: '"' :: doubled rest := rfl
        rw [front, List.cons_append, List.cons_append, readText?, ih]
        rfl
      · have front : doubled (c :: rest) = c :: doubled rest := by
          rw [doubled, List.flatMap_cons, if_neg mark]
          rfl
        rw [front, List.cons_append, readText?_cons_of_ne mark, ih]
        rfl

theorem readSymbol?_of_mem {s : Symbol} {cs : List Char} (mem : cs ∈ s.spellings) :
    readSymbol? (cs ++ behind) = some (s, cs.length) := by
  have single : ∀ e, isBlank e = false → ∀ rest, behind ≠ e :: rest := fun e solid rest split =>
    ne_of_apart apart split solid rfl
  have star := single '*' (by decide)
  have equal := single '=' (by decide)
  have greater := single '>' (by decide)
  cases s with
  | times =>
      obtain rfl := List.mem_singleton.1 mem
      simp [readSymbol?]
  | less =>
      obtain rfl := List.mem_singleton.1 mem
      simp [readSymbol?]
  | greater =>
      obtain rfl := List.mem_singleton.1 mem
      simp [readSymbol?]
  | power =>
      simp only [Symbol.spellings, List.mem_cons, List.not_mem_nil, or_false] at mem
      rcases mem with rfl | rfl
      · rfl
      · rfl
  | _ =>
      obtain rfl := List.mem_singleton.1 mem
      rfl

/-- A spelling in front of a blank, or at the end of the text, is read as its token. -/
theorem readToken_of_spelled {token : Token} {c : Char} {more : List Char}
    (h : token.Spelled (c :: more)) :
    readToken c (more ++ behind) = .ok (token, (c :: more).length) := by
  generalize spelling : c :: more = cs at h
  unfold readToken
  rw [← List.cons_append, spelling]
  cases h with
  | whole ne all =>
      have digit := all c (spelling ▸ List.mem_cons_self)
      rw [if_pos digit, readNumber_whole apart all]
  | @fraction digits others ne all rest =>
      obtain ⟨d, front, rfl⟩ := List.exists_cons_of_ne_nil ne
      obtain rfl : c = d := (List.cons.inj spelling).1
      rw [if_pos (all c List.mem_cons_self), readNumber_fraction apart all rest]
  | text held =>
      obtain ⟨rfl, rfl⟩ := List.cons.inj spelling
      have read := readText?_doubled apart held
      have whole : (doubled held).append ['"'] ++ behind = doubled held ++ '"' :: behind := by simp
      rw [if_neg (by decide), if_neg (by decide), if_pos rfl, whole, read]
      simp
  | word word =>
      obtain ⟨d, head, alpha⟩ := word.head
      rw [← spelling] at head
      cases head
      have digit : ¬ c.isDigit = true := fun digit => by
        rw [Text.isAlpha_of_isDigit digit] at alpha
        cases alpha
      rw [if_neg digit, if_pos alpha, readWord_of_isWord apart word]
  | @symbol s _ mem =>
      have read := readSymbol?_of_mem apart mem
      obtain ⟨digit, alpha, mark⟩ := Symbol.head_of_mem mem (c := c) (by rw [← spelling]; rfl)
      rw [if_neg digit, if_neg alpha, if_neg mark, read]

end Front

/-! ### Whole texts -/

/-- A token and one of the texts that it is written as. -/
structure Spelling where
  token : Token
  written : List Char
  isWritten : token.IsWrittenAs written

/-- A spelling of a token, as such. -/
def Spelling.of {token : Token} {cs : List Char} (h : token.Spelled cs) : Spelling :=
  ⟨token, cs, h.isWrittenAs⟩

/-- Spellings one behind the other, each with its gap behind it. -/
def spread (items : List (Spelling × List Char)) : List Char :=
  items.flatMap fun item => item.1.written ++ item.2

/-- The gaps behind spellings are blank, and only the last one may be empty. -/
structure AreApart (items : List (Spelling × List Char)) : Prop where
  blank : ∀ item ∈ items, ∀ b ∈ item.2, isBlank b = true
  nonempty : ∀ item ∈ items.dropLast, item.2 ≠ []

/-- The lexemes of a text that starts at `start` with no blank, and what stands behind them. -/
def lexemesAt (start : Nat) : List Char → List Lexeme × Ending
  | [] => ([], .complete start)
  | c :: rest =>
    match readToken c rest with
    | .error fault => ([], .broken ⟨fault, start⟩)
    | .ok (token, n) =>
      let behind := lexemesFrom (start + n) (rest.drop (n - 1))
      (⟨token, start⟩ :: behind.1, behind.2)

theorem lexemesFrom_eq (position : Nat) (cs : List Char) :
    lexemesFrom position cs =
      lexemesAt (position + (cs.takeWhile isBlank).length) (cs.dropWhile isBlank) := by
  rw [lexemesFrom]
  split
  · next ended =>
    rw [ended]
    rfl
  · next c rest found =>
    rw [found]
    rfl

/-- Blanks in front of a text move its lexemes, and nothing else. -/
theorem lexemesFrom_blanks {blanks : List Char} (blank : ∀ b ∈ blanks, isBlank b = true)
    (position : Nat) (cs : List Char) :
    lexemesFrom position (blanks ++ cs) = lexemesFrom (position + blanks.length) cs := by
  rw [lexemesFrom_eq, lexemesFrom_eq, List.takeWhile_append_of_pos blank,
    List.dropWhile_append_of_pos blank, List.length_append, Nat.add_assoc]

/-- The first spelling is read, and then the text behind its gap. -/
theorem lexemesFrom_spelling (s : Spelling) {gap : List Char} (blank : ∀ b ∈ gap, isBlank b = true)
    {behind : List Char} (apart : gap = [] → behind = []) (position : Nat) :
    lexemesFrom position (s.written ++ gap ++ behind) =
      (⟨s.token, position⟩ :: (lexemesFrom (position + (s.written ++ gap).length) behind).1,
        (lexemesFrom (position + (s.written ++ gap).length) behind).2) := by
  have spelled := Token.spelled_iff_isWrittenAs.2 s.isWritten
  obtain ⟨c, more, split⟩ := List.exists_cons_of_ne_nil spelled.ne_nil
  rw [split] at spelled ⊢
  have stop : ∀ d ∈ (gap ++ behind).head?, isBlank d = true := by
    intro d mem
    cases gap with
    | nil =>
        rw [apart rfl] at mem
        cases mem
    | cons b rest =>
        cases mem
        exact blank d List.mem_cons_self
  rw [List.append_assoc, List.cons_append,
    lexemesFrom_cons spelled.isBlank_head (readToken_of_spelled stop spelled), List.length_cons,
    Nat.add_sub_cancel, List.drop_left, lexemesFrom_blanks blank, List.length_append, List.length_cons,
    Nat.add_assoc position]

theorem AreApart.tail {item : Spelling × List Char} {rest : List (Spelling × List Char)}
    (h : AreApart (item :: rest)) : AreApart rest where
  blank other mem := h.blank other (List.mem_cons_of_mem item mem)
  nonempty other mem := h.nonempty other <| by
    cases rest with
    | nil => cases mem
    | cons next others => exact List.mem_cons_of_mem item mem

/-- Spellings with blanks between them are read as their tokens, up to the end of the text. -/
theorem lexemesFrom_spread {items : List (Spelling × List Char)} (h : AreApart items)
    (position : Nat) :
    (lexemesFrom position (spread items)).1.map Lexeme.token = items.map (·.1.token) ∧
      (lexemesFrom position (spread items)).2 = .complete (position + (spread items).length) := by
  induction items generalizing position with
  | nil =>
      rw [lexemesFrom]
      exact ⟨rfl, rfl⟩
  | cons item rest ih =>
      have apart : item.2 = [] → spread rest = [] := by
        intro empty
        cases rest with
        | nil => rfl
        | cons next others => exact absurd empty (h.nonempty item List.mem_cons_self)
      have split : spread (item :: rest) = item.1.written ++ item.2 ++ spread rest := rfl
      obtain ⟨tokens, ending⟩ := ih h.tail (position + (item.1.written ++ item.2).length)
      rw [split, lexemesFrom_spelling item.1 (h.blank item List.mem_cons_self) apart]
      refine ⟨congrArg (item.1.token :: ·) tokens, ?_⟩
      rw [ending, List.length_append, List.length_append, List.length_append, Nat.add_assoc]

/-! ### Text literals as formulas -/

/-- The formula that consists of a text literal. -/
def textFormula (held : String) : String :=
  String.ofList ('=' :: '"' :: doubled held.toList ++ ['"'])

namespace Engine

variable {σ : Type} (engine : Engine σ)

theorem parseFormula_textFormula (held : String) :
    engine.parseFormula (textFormula held) = .ok (.text held) := by
  let spelling : Spelling := ⟨.text held, '"' :: doubled held.toList ++ ['"'], rfl⟩
  have body : formulaBody? (textFormula held) = some (String.ofList spelling.written) := by
    rw [formulaBody?, textFormula, String.toList_ofList]
    rfl
  have apart : AreApart [(spelling, [])] :=
    { blank := by simp
      nonempty := by simp }
  have whole : spread [(spelling, [])] = spelling.written := by simp [spread]
  obtain ⟨tokens, ending⟩ := lexemesFrom_spread apart 0
  rw [whole] at tokens ending
  rw [parseFormula, body, Option.getD_some, parse_eq_ok_iff, lexemes, String.toList_ofList, tokens]
  exact ⟨⟨_, ending⟩, .primary_expression (.text held)⟩

/-- A text in marks has itself as its value, if expressions may have any level at all. -/
theorem evaluate_textFormula (sheet : Sheet) (held : String) :
    engine.evaluate sheet (textFormula held) =
      if engine.limits.evalDepth ≤ 0 then throw (.deepExpression engine.limits.evalDepth)
      else pure (.text held) := by
  rw [evaluate, parseFormula_textFormula]
  rfl

end Engine

/-- Tokens that are written one behind the other, with blanks between each two of them and perhaps at both
ends, are read as the same tokens up to the end of the text. The value of a formula that consists of a
text between marks, with its own marks doubled, is this text. -/
theorem lexemes_spread :
    (∀ (front : List Char) (items : List (Spelling × List Char)), (∀ b ∈ front, isBlank b = true) →
      AreApart items →
        (lexemes (String.ofList (front ++ spread items))).1.map Lexeme.token =
            items.map (·.1.token) ∧
          (lexemes (String.ofList (front ++ spread items))).2 =
            .complete (front ++ spread items).length) ∧
      ∀ {σ : Type} (engine : Engine σ) (sheet : Sheet) (held : String),
        engine.evaluate sheet (textFormula held) =
          if engine.limits.evalDepth ≤ 0 then throw (.deepExpression engine.limits.evalDepth)
          else pure (.text held) := by
  refine ⟨fun front items blank apart => ?_, fun engine => engine.evaluate_textFormula⟩
  obtain ⟨tokens, ending⟩ := lexemesFrom_spread apart (0 + front.length)
  rw [lexemes, String.toList_ofList, lexemesFrom_blanks blank]
  refine ⟨tokens, ?_⟩
  rw [ending, Nat.zero_add, List.length_append]

/-- Texts that end and start with marks, symbols that would make up another one, and a word behind a
number. -/
def touchingItems : List (Spelling × List Char) :=
  [(.of (.text ['a', '"']), [' ']), (.of (.text ['"', '\n']), ['\t']),
    (⟨.symbol .less, ['<'], List.mem_singleton_self _⟩, [' ']),
    (⟨.symbol .equal, ['='], List.mem_singleton_self _⟩, [' ']),
    (⟨.symbol .power, ['*', '*'], List.mem_cons_self⟩, ['\n']),
    (⟨.symbol .times, ['*'], List.mem_singleton_self _⟩, [' ']),
    (.of (Token.Spelled.whole (List.cons_ne_nil '2' []) (by simp)), [' ', ' ']),
    (.of (.word (isWord_cons (by decide : 'a'.isAlpha = true)
      (by decide : ['1'].all isWordChar = true))), [])]

theorem lexemes_spread_touching :
    (∀ b ∈ [' '], isBlank b = true) ∧ AreApart touchingItems ∧
      (lexemes (String.ofList ([' '] ++ spread touchingItems))).1.map Lexeme.token =
          [.text "a\"", .text "\"\n", .symbol .less, .symbol .equal, .symbol .power, .symbol .times,
            .number (Number.ofDigits false ['2'] [] 0), .cell "A1"] ∧
        (lexemes (String.ofList ([' '] ++ spread touchingItems))).2 = .complete 27 := by
  have blank : ∀ b ∈ [' '], isBlank b = true := List.all_eq_true.1 (by decide)
  have gaps : (touchingItems.all fun item => item.2.all isBlank) = true := by decide
  have apart : AreApart touchingItems :=
    { blank := fun item mem => List.all_eq_true.1 (List.all_eq_true.1 gaps item mem)
      nonempty := by decide }
  obtain ⟨tokens, ending⟩ := lexemes_spread.1 [' '] touchingItems blank apart
  exact ⟨blank, apart, tokens.trans rfl, ending.trans rfl⟩

end FormulaSheet
