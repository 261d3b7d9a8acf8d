import FormulaSheet.Proofs.Grammar.Readers
import FormulaSheet.Proofs.Lexeme.Spelling
import FormulaSheet.Proofs.Limit.Parser

/-!
# The first place where a text is no formula

An error tells the first place where a text stops being the start of a formula. The tokens in front of it
can be continued to a formula, and with the token there they cannot. The end of the text counts as a token
here. A name is an exception: it may always be called, so it is the token behind it that does not fit.

* `parseLexemes_eq_error` gives the place of an error among the lexemes, and all other lexemes with which
  it would have been the same.
* `not_isFront_of_same` concludes that no formula starts with these lexemes: it would be read.
* `parse_error_place` has both for the positions in a text.
-/

namespace FormulaSheet

/-- Some formula starts with these tokens, where its end counts as a token behind all others. -/
def IsFront (tokens : List (Option Token)) : Prop :=
  ∃ ts, Phrase.expression.Accepts ts ∧ tokens <+: ts.map some ++ [none]

/-- The tokens of some lexemes and the end behind them, unless the place is unreadable, with their
positions. -/
def itemsOf : List Lexeme → Ending → List (Option Token × Nat)
  | [], .complete position => [(none, position)]
  | [], .broken _ => []
  | lexeme :: rest, ending => (some lexeme.token, lexeme.position) :: itemsOf rest ending

/-- The tokens of a text and the end behind them, unless there is an unreadable place, with their
positions. -/
def items (text : String) : List (Option Token × Nat) :=
  itemsOf (lexemes text).1 (lexemes text).2

/-- An item at a position, with those that start before and behind it. -/
structure SplitAt (all : List (Option Token × Nat)) (position : Nat)
    (before : List (Option Token × Nat)) (here : Option Token × Nat)
    (after : List (Option Token × Nat)) : Prop where
  split : all = before ++ here :: after
  before_lt : ∀ item ∈ before, item.2 < position
  here_eq : here.2 = position
  after_gt : ∀ item ∈ after, position < item.2

/-! ### Formulas that start with some tokens -/

theorem isFront_of_begins {ts : List Token} (h : Phrase.expression.Begins ts) :
    IsFront (ts.map some) := by
  obtain ⟨more, accepted⟩ := h
  refine ⟨ts ++ more, accepted, ?_⟩
  rw [List.map_append, List.append_assoc]
  exact List.prefix_append _ _

theorem begins_of_isFront {ts : List Token} (h : IsFront (ts.map some)) :
    Phrase.expression.Begins ts := by
  obtain ⟨us, accepted, front⟩ := h
  rcases List.prefix_concat_iff.1 front with whole | inside
  · have mem : none ∈ ts.map some := whole ▸ List.mem_append_right _ List.mem_cons_self
    simp at mem
  · obtain ⟨more, same⟩ := inside
    obtain ⟨vs, ws, rfl, first, rfl⟩ := List.map_eq_append_iff.1 same.symm
    obtain rfl := (List.map_inj_right fun _ _ => Option.some.inj).1 first
    exact ⟨ws, accepted⟩

theorem accepts_of_isFront_end {ts : List Token} (h : IsFront (ts.map some ++ [none])) :
    Phrase.expression.Accepts ts := by
  obtain ⟨us, accepted, front⟩ := h
  rcases List.prefix_concat_iff.1 front with whole | inside
  · have same := List.append_cancel_right whole
    obtain rfl := (List.map_inj_right fun _ _ => Option.some.inj).1 same
    exact accepted
  · have mem : none ∈ us.map some := inside.subset (List.mem_append_right _ List.mem_cons_self)
    simp at mem

/-! ### The place among the lexemes -/

/-- Goes on behind a whole expression, where nothing may stand. -/
def atEnd (e : Expr) : Reading Expr
  | _, [] => .ok (e, [])
  | _, lexeme :: _ => .error (.grammar (.trailing lexeme.token) lexeme.position)

/-- Reads a whole formula and leaves nothing. -/
def wholeFormula (limit : Int) : Reading Expr := fun ending input =>
  (parseLexemes limit input ending).map fun e => (e, [])

theorem wholeFormula_of_settled {limit : Int} {ending : Ending} {input : List Lexeme}
    (settled : proceed ending input = .ok ()) :
    wholeFormula limit ending input = (do
      let (e, rest) ← outcome (reader ending limit limit.toNat .expression input)
      atEnd e ending rest) := by
  rw [wholeFormula, parseLexemes, settled, ok_bind]
  cases reader ending limit limit.toNat .expression input with
  | error error => rfl
  | ok reply =>
      obtain ⟨e, rest, shorter⟩ := reply
      cases rest with
      | nil => rfl
      | cons lexeme more => rfl

theorem wholeFormula_ahead (limit : Int) (ending : Ending) (input : List Lexeme) :
    OneAhead (wholeFormula limit) ending input Phrase.expression.Accepts Phrase.expression.Begins := by
  cases settled : proceed ending input with
  | error error =>
      obtain ⟨rfl, place, rfl, rfl⟩ := exists_of_proceed_eq_error settled
      have nothing := Phrase.expression.begins_nil
      refine .fails (.token place) [] [] rfl (.token rfl rfl) nothing fun ending' rest' same => ?_
      cases same
      rfl
  | ok _ =>
      refine .bind atEnd (fun ending' input' same => ?_)
        (reader_ahead limit limit.toNat .expression ending input settled) (fun ts begun => begun) ?_
      · exact wholeFormula_of_settled (same.proceed_eq.trans settled)
      · intro e used rest _ settled accepted
        have whole : Phrase.expression.Accepts (used.map Lexeme.token) := accepted
        rw [← List.append_nil (used.map Lexeme.token)] at whole
        cases rest with
        | nil =>
            refine .ret e settled whole ?_
            rintro _ _ ⟨⟩
            rfl
        | cons lexeme more =>
            refine .fail (fun _ => .trailing lexeme.token) (fun _ _ => nofun) settled whole.begins ?_
            rintro _ _ ⟨⟩
            rfl

/-- The place of an error: the lexemes in front of it begin an expression, and the error is the same for
all lexemes with the same front there. -/
theorem parseLexemes_eq_error {limit : Int} {input : List Lexeme} {ending : Ending} {error : SyntaxError}
    (h : parseLexemes limit input ending = .error error) (shallow : ∀ n, error ≠ .tooDeep n) :
    ∃ used rest, input = used ++ rest ∧ BlamedAt ending used rest error ∧
      Phrase.expression.Begins (used.map Lexeme.token) ∧
      ∀ ending' rest', SameFront ending rest ending' rest' →
        parseLexemes limit (used ++ rest') ending' = .error error := by
  have failed : wholeFormula limit ending input = .error error := map_eq_error.2 h
  cases wholeFormula_ahead limit ending input with
  | returns a used rest split settled accepted result =>
      have returned := result ending rest (.refl _ _)
      rw [← split, failed] at returned
      cases returned
  | fails other used rest split blamed begun result =>
      have same := result ending rest (.refl _ _)
      rw [← split, failed] at same
      cases same
      exact ⟨used, rest, split, blamed, begun, fun ending' rest' same =>
        map_eq_error.1 (result ending' rest' same)⟩
  | stops n stopped =>
      rw [failed] at stopped
      cases stopped
      exact absurd rfl (shallow n)

/-- Lexemes in which an error is found are not accepted under any limit. -/
theorem not_accepts_of_parseLexemes_eq_error {limit : Int} {input : List Lexeme} {position : Nat}
    {error : SyntaxError} (h : parseLexemes limit input (.complete position) = .error error)
    (shallow : ∀ n, error ≠ .tooDeep n) :
    ¬ Phrase.expression.Accepts (input.map Lexeme.token) := by
  rintro ⟨n, e, derived⟩
  have wide : n ≤ (max limit n).toNat := by omega
  have read := parseLexemes_eq (derived.mono wide) (.complete position)
  rcases parseLexemes_agrees (le_max_left limit n) input (.complete position) with
    ⟨other, failed, deep⟩ | same
  · rw [h] at failed
    cases failed
    exact shallow limit deep
  · rw [h, read] at same
    cases same

/-- No formula starts with the lexemes in front of an error and the one at its place. -/
theorem not_isFront_of_same {limit : Int} {ending : Ending} {used rest : List Lexeme}
    {error : SyntaxError} (settled : proceed ending rest = .ok ())
    (result : ∀ ending' rest', SameFront ending rest ending' rest' →
      parseLexemes limit (used ++ rest') ending' = .error error) (shallow : ∀ n, error ≠ .tooDeep n) :
    ¬ IsFront ((used.map Lexeme.token).map some ++ [(found ending rest).1]) := by
  intro front
  cases rest with
  | nil =>
      cases ending with
      | broken unreadable => cases settled
      | complete position =>
          have failed := result (.complete position) [] (.refl _ _)
          rw [List.append_nil] at failed
          exact not_accepts_of_parseLexemes_eq_error failed shallow (accepts_of_isFront_end front)
  | cons lexeme more =>
      have begun : Phrase.expression.Begins (used.map Lexeme.token ++ [lexeme.token]) := by
        refine begins_of_isFront ?_
        rw [List.map_append]
        exact front
      obtain ⟨later, accepted⟩ := begun
      -- The positions of the lexemes behind the place do not matter.
      have failed := result (.complete 0) (lexeme :: later.map fun token => ⟨token, 0⟩)
        (.cons _ _ lexeme _ _)
      refine not_accepts_of_parseLexemes_eq_error failed shallow ?_
      simpa [Function.comp_def] using accepted

/-! ### The place in a text -/

/-- Lexemes as items, without what stands behind them. -/
def itemsOfTokens (used : List Lexeme) : List (Option Token × Nat) :=
  used.map fun lexeme => (some lexeme.token, lexeme.position)

theorem map_fst_itemsOfTokens (used : List Lexeme) :
    (itemsOfTokens used).map Prod.fst = (used.map Lexeme.token).map some := by
  simp [itemsOfTokens]

theorem itemsOf_append (used rest : List Lexeme) (ending : Ending) :
    itemsOf (used ++ rest) ending = itemsOfTokens used ++ itemsOf rest ending := by
  induction used with
  | nil => rfl
  | cons lexeme more ih => exact congrArg (_ :: ·) ih

/-- The item at a place that can be read. -/
theorem exists_itemsOf_eq_cons {ending : Ending} {rest : List Lexeme}
    (settled : proceed ending rest = .ok ()) :
    ∃ after, itemsOf rest ending = found ending rest :: after := by
  cases rest with
  | nil =>
      cases ending with
      | broken error => cases settled
      | complete position => exact ⟨[], rfl⟩
  | cons lexeme more => exact ⟨itemsOf more ending, rfl⟩

theorem positions_itemsOf (input : List Lexeme) (ending : Ending) :
    (itemsOf input ending).map Prod.snd <+: input.map Lexeme.position ++ [ending.position] := by
  induction input with
  | nil =>
      cases ending with
      | complete position => exact List.prefix_rfl
      | broken error => exact List.nil_prefix
  | cons lexeme rest ih => exact (List.prefix_cons_inj _).2 ih

/-- The items of a text stand one behind the other. -/
theorem pairwise_items (text : String) : (items text).Pairwise fun item later => item.2 < later.2 := by
  have increasing := (lexemesFrom_increasing 0 text.toList).1
  have inside := (positions_itemsOf (lexemes text).1 (lexemes text).2).sublist
  exact List.pairwise_map.1 (increasing.sublist inside)

/-- An unreadable place stands behind all tokens that have been read. -/
theorem position_lt_of_broken {text : String} {error : TokenError}
    (broken : (lexemes text).2 = .broken error) {lexeme : Lexeme} (mem : lexeme ∈ (lexemes text).1) :
    lexeme.position < error.position := by
  have increasing := (lexemesFrom_increasing 0 text.toList).1
  have last : (lexemesFrom 0 text.toList).2 = .broken error := broken
  rw [last] at increasing
  exact (List.pairwise_append.1 increasing).2.2 _ (List.mem_map_of_mem mem) _ List.mem_cons_self

theorem splitAt_of_pairwise {before after : List (Option Token × Nat)} {here : Option Token × Nat}
    (increasing : (before ++ here :: after).Pairwise fun item later => item.2 < later.2) :
    SplitAt (before ++ here :: after) here.2 before here after := by
  obtain ⟨_, second, across⟩ := List.pairwise_append.1 increasing
  exact
    { split := rfl
      before_lt := fun item mem => across item mem here List.mem_cons_self
      here_eq := rfl
      after_gt := (List.pairwise_cons.1 second).1 }

/-- An error about a token or the end of a text is reported at the first item that no formula has behind
the items in front of it, or, if a name is not called, one item further in front. An unreadable place is
reported if the tokens in front of it begin a formula. -/
theorem parse_error_place (limit : Int) (text : String) :
    (∀ fault position, parse limit text = .error (.grammar fault position) →
      ∃ before here after, SplitAt (items text) position before here after ∧
        IsFront (before.map Prod.fst) ∧
        ((∀ ident, fault ≠ .notCalled ident) → ¬ IsFront ((before ++ [here]).map Prod.fst)) ∧
        ∀ ident, fault = .notCalled ident → ∃ next later, after = next :: later ∧
          ¬ IsFront ((before ++ [here, next]).map Prod.fst)) ∧
    ∀ error, parse limit text = .error (.token error) →
      (lexemes text).2 = .broken error ∧ (∀ item ∈ items text, item.2 < error.position) ∧
        IsFront ((items text).map Prod.fst) := by
  have increasing := pairwise_items text
  refine ⟨fun fault position h => ?_, fun error h => ?_⟩
  · have h : parseLexemes limit (lexemes text).1 (lexemes text).2 = _ := h
    obtain ⟨used, rest, split, blamed, begun, result⟩ := parseLexemes_eq_error h fun n => nofun
    have parts : items text = itemsOfTokens used ++ itemsOf rest (lexemes text).2 := by
      rw [items, split, itemsOf_append]
    cases blamed with
    | here settled other =>
        obtain ⟨after, same⟩ := exists_itemsOf_eq_cons settled
        rw [same] at parts
        have dead := not_isFront_of_same settled result fun n => nofun
        rw [parts] at increasing ⊢
        refine ⟨_, _, after, splitAt_of_pairwise increasing, ?_, fun _ => ?_, fun ident same => ?_⟩
        · rw [map_fst_itemsOfTokens]
          exact isFront_of_begins begun
        · rw [List.map_append, map_fst_itemsOfTokens]
          exact dead
        · exact absurd same (other ident)
    | @name ident before lexeme settled last =>
        subst last
        obtain ⟨after, same⟩ := exists_itemsOf_eq_cons settled
        have dead := not_isFront_of_same settled result fun n => nofun
        have parts : items text = itemsOfTokens before ++
            (some lexeme.token, lexeme.position) :: found (lexemes text).2 rest :: after := by
          rw [parts, same]
          simp [itemsOfTokens]
        rw [parts] at increasing ⊢
        refine ⟨_, _, _, splitAt_of_pairwise increasing, ?_, fun other => absurd rfl (other ident),
          fun _ _ => ⟨_, after, rfl, ?_⟩⟩
        · rw [map_fst_itemsOfTokens]
          rw [List.map_append] at begun
          exact isFront_of_begins begun.of_append
        · simpa [itemsOfTokens, Function.comp_def] using dead
  · have h : parseLexemes limit (lexemes text).1 (lexemes text).2 = _ := h
    obtain ⟨used, rest, split, blamed, begun, _⟩ := parseLexemes_eq_error h fun n => nofun
    cases blamed with
    | token broken nothing =>
        subst nothing
        have parts : items text = itemsOfTokens used := by
          rw [items, split, broken, itemsOf_append, itemsOf, List.append_nil]
        rw [parts]
        refine ⟨broken, fun item mem => ?_, ?_⟩
        · obtain ⟨lexeme, inside, rfl⟩ := List.mem_map.1 mem
          exact position_lt_of_broken broken (split ▸ List.mem_append_left _ inside)
        · rw [map_fst_itemsOfTokens]
          exact isFront_of_begins begun

/-- A name behind an operator that is not called, a parenthesis that is not closed, and a character that
starts no token where a range is not complete. -/
theorem parse_error_place_uncalled :
    (∃ before here next later, SplitAt (items "A1+FOO B2") 3 before here (next :: later) ∧
        IsFront (before.map Prod.fst) ∧ ¬ IsFront ((before ++ [here, next]).map Prod.fst)) ∧
      (∃ before here after, SplitAt (items "(A1") 3 before here after ∧
        IsFront (before.map Prod.fst) ∧ ¬ IsFront ((before ++ [here]).map Prod.fst)) ∧
      items "A1:$" = [(some (.cell "A1"), 0), (some (.symbol .colon), 2)] ∧
        IsFront [some (.cell "A1"), some (.symbol .colon)] := by
  have uncalled : parse 9 "A1+FOO B2" = .error (.grammar (.notCalled "FOO") 3) :=
    (map_eq_error (f := fun _ => ())).1 (by decide +kernel)
  have unclosed : parse 9 "(A1" = .error (.grammar (.unclosed none) 3) :=
    (map_eq_error (f := fun _ => ())).1 (by decide +kernel)
  have unreadable : parse 9 "A1:$" = .error (.token ⟨.unexpected '$', 3⟩) :=
    (map_eq_error (f := fun _ => ())).1 (by decide +kernel)
  have tokens : items "A1:$" = [(some (.cell "A1"), 0), (some (.symbol .colon), 2)] := by
    decide +kernel
  obtain ⟨before, here, _, place, begun, _, name⟩ := (parse_error_place 9 _).1 _ _ uncalled
  obtain ⟨next, later, rfl, dead⟩ := name "FOO" rfl
  obtain ⟨before', here', after', place', begun', dead', _⟩ := (parse_error_place 9 _).1 _ _ unclosed
  have front := ((parse_error_place 9 _).2 _ unreadable).2.2
  rw [tokens] at front
  exact ⟨⟨before, here, next, later, place, begun, dead⟩,
    ⟨before', here', after', place', begun', dead' fun ident => nofun⟩, tokens, front⟩

end FormulaSheet
