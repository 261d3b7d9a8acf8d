import FormulaSheet.Proofs.Grammar.Lookahead
import FormulaSheet.Proofs.Grammar.Soundness

/-!
# What derives from the grammar is read

The readers look one token ahead. A phrase at the front of some lexemes is therefore read as a whole
if the token behind it could not go on with it (`Phrase.EndsBefore`). Every part of the reader has a
lemma that says so (`CompleteReader`), and that nothing but an unreadable place right behind the phrase
is reported then.

A level of operators is a loop that carries its left operand along, while the grammar recurs on the
left. `leftAssociative_chained` goes through a derivation from its first operand on and shows that the
loop arrives behind every operand with the tree that the grammar gives to it.

* `reader_complete` is the induction on the levels of nesting.
* `parse_eq_ok_iff` is the statement about whole formulas, in both directions.
-/

namespace FormulaSheet

/-- What was read and the lexemes behind it, without the evidence that something was read. -/
def outcome {α : Type} {input : List Lexeme} (read : Except SyntaxError (Reply α input)) :
    Except SyntaxError (α × List Lexeme) :=
  read.map fun reply => (reply.result, reply.rest)

/-- The outcome of reading `a` in front of `rest`: nothing but an unreadable place right behind it is
an error. -/
def readBefore {α : Type} (ending : Ending) (a : α) (rest : List Lexeme) :
    Except SyntaxError (α × List Lexeme) := do
  proceed ending rest
  return (a, rest)

theorem proceed_complete (position : Nat) (rest : List Lexeme) :
    proceed (.complete position) rest = .ok () := by
  cases rest <;> rfl

theorem proceed_cons (ending : Ending) (lexeme : Lexeme) (rest : List Lexeme) :
    proceed ending (lexeme :: rest) = .ok () := rfl

theorem proceed_append_cons (ending : Ending) (front : List Lexeme) (lexeme : Lexeme)
    (rest : List Lexeme) : proceed ending (front ++ lexeme :: rest) = .ok () := by
  cases front <;> rfl

theorem readBefore_cons {α : Type} (ending : Ending) (a : α) (lexeme : Lexeme)
    (rest : List Lexeme) : readBefore ending a (lexeme :: rest) = .ok (a, lexeme :: rest) := rfl

theorem readBefore_bind {α β : Type} (ending : Ending) (a : α) (rest : List Lexeme)
    (f : α × List Lexeme → Except SyntaxError β) :
    readBefore ending a rest >>= f = (do
      proceed ending rest
      f (a, rest)) := by
  unfold readBefore
  cases proceed ending rest with
  | error fault => rfl
  | ok _ => rfl

theorem outcome_proceed {α : Type} {ending : Ending} {input rest : List Lexeme} (a : α)
    (shorter : rest.length < input.length) :
    outcome (do
      proceed ending rest
      return (⟨a, rest, shorter⟩ : Reply α input)) = readBefore ending a rest := by
  unfold readBefore
  cases proceed ending rest with
  | error fault => rfl
  | ok _ => rfl

/-- Whatever derives as a phrase of a kind is read if it ends where the phrase does. -/
def CompleteReader (ending : Ending) (n : Nat) (phrase : Phrase) (read : Reader Expr) : Prop :=
  ∀ {used rest : List Lexeme} {e : Expr}, Derives n phrase (used.map Lexeme.token) e →
    phrase.EndsBefore rest → outcome (read (used ++ rest)) = readBefore ending e rest

/-- There is no unreadable place right in front of lexemes that derive as a phrase. -/
theorem Derives.proceed_eq {n : Nat} {phrase : Phrase} {used : List Lexeme} {e : Expr}
    (h : Derives n phrase (used.map Lexeme.token) e) (ending : Ending) (rest : List Lexeme) :
    proceed ending (used ++ rest) = .ok () := by
  obtain ⟨lexeme, others, rfl, _⟩ := h.exists_cons
  rfl

section Reading

variable {ending : Ending} {n : Nat}

/-! ### Operators that associate to the left -/

/-- A chain of operators, without the bound on the lexemes behind it. -/
def links (ending : Ending) (level : Level) (operand : Reader Expr) (left : Expr)
    (input : List Lexeme) : Except SyntaxError (Expr × List Lexeme) :=
  (chain ending level operand left input).map Subtype.val

theorem links_symbol {level : Level} {s : Symbol} {op : BinaryOp}
    (symbol : level.operator? s = some op) (operand : Reader Expr) (left : Expr) (position : Nat)
    (rest : List Lexeme) :
    links ending level operand left (⟨.symbol s, position⟩ :: rest) = (do
      proceed ending rest
      let (right, behind) ← outcome (operand rest)
      links ending level operand (.binary op left right) behind) := by
  have found : operatorAt? level (.symbol s) = some op := symbol
  unfold links
  rw [chain]
  split
  · next unmatched => rw [found] at unmatched; cases unmatched
  · next other matched =>
    rw [found] at matched
    cases matched
    cases proceed ending rest with
    | error fault => rfl
    | ok _ =>
        cases operand rest with
        | error fault => rfl
        | ok right =>
            simp only [outcome, Except.map, bind, Except.bind]
            cases chain ending level operand (.binary op left right.result) right.rest with
            | error fault => rfl
            | ok reply => rfl

theorem links_of_endsBefore {level : Level} {ls : List Level} {rest : List Lexeme}
    (stop : (Phrase.levels (level :: ls)).EndsBefore rest) (operand : Reader Expr) (e : Expr) :
    links ending level operand e rest = .ok (e, rest) := by
  unfold links
  cases rest with
  | nil => rw [chain]; rfl
  | cons lexeme more =>
      obtain ⟨token, position⟩ := lexeme
      rw [chain]
      split
      · rfl
      · next op matched =>
        obtain ⟨s, rfl, symbol⟩ := operatorAt?_eq_some matched
        exact absurd (Or.inr (Or.inr ⟨level, List.mem_cons_self, op, symbol⟩))
          (stop s position more rfl)

theorem outcome_leftAssociative (level : Level) (operand : Reader Expr) (input : List Lexeme) :
    outcome (leftAssociative ending level operand input) = (do
      let (first, rest) ← outcome (operand input)
      links ending level operand first rest) := by
  unfold leftAssociative links
  cases operand input with
  | error fault => rfl
  | ok first =>
      simp only [outcome, Except.map, bind, Except.bind]
      cases chain ending level operand first.result first.rest with
      | error fault => rfl
      | ok reply => rfl

/-- Behind what derives on a level, the loop of the level goes on with the tree of the derivation. -/
theorem leftAssociative_chained {level : Level} {ls : List Level} {operand : Reader Expr}
    (new : level ∉ ls) (complete : CompleteReader ending n (.levels ls) operand)
    {used rest : List Lexeme} {e : Expr}
    (h : Derives n (.levels (level :: ls)) (used.map Lexeme.token) e)
    (stop : (Phrase.levels ls).EndsBefore rest) :
    outcome (leftAssociative ending level operand (used ++ rest)) = (do
      proceed ending rest
      links ending level operand e rest) := by
  generalize same : Phrase.levels (level :: ls) = phrase at h
  generalize tokens : used.map Lexeme.token = ts at h
  induction h generalizing used rest with
  | tighter h ih =>
      cases same
      subst tokens
      rw [outcome_leftAssociative, complete h stop, readBefore_bind]
  | chained left symbol right ihLeft ihRight =>
      cases same
      obtain ⟨front, back, rfl, rfl, later⟩ := List.map_eq_append_iff.1 tokens
      obtain ⟨⟨token, position⟩, behind, rfl, rfl, rfl⟩ := List.map_eq_cons_iff.1 later
      have before := ihLeft complete (Phrase.endsBefore_symbol
        (Phrase.not_goesOn_tighter new symbol) position (behind ++ rest)) rfl rfl
      rw [List.append_assoc, List.cons_append, before, proceed_cons, ok_bind,
        links_symbol symbol, right.proceed_eq, ok_bind, complete right stop, readBefore_bind]
  | base | power | operand | sign | number | text | cell | range | parens | call => cases same

theorem levels_complete {operand : Reader Expr} (complete : CompleteReader ending n (.levels []) operand)
    {ls : List Level} (nodup : ls.Nodup) :
    CompleteReader ending n (.levels ls) (ls.foldr (leftAssociative ending) operand) := by
  induction ls with
  | nil => exact complete
  | cons level rest ih =>
      obtain ⟨new, others⟩ := List.nodup_cons.1 nodup
      intro used behind e h stop
      have whole := leftAssociative_chained new (ih others) h (stop.mono fun s => .of_tail)
      rw [links_of_endsBefore stop] at whole
      exact whole

/-! ### Calls and parentheses -/

/-- A closing parenthesis behind `a` is read with it. -/
theorem closing_bind {α : Type} (a : α) (position : Nat) (rest : List Lexeme) :
    (do
      let final ← (closing ending (⟨.symbol .closeParen, position⟩ :: rest)).map Subtype.val
      return (a, final)) = readBefore ending a rest := by
  rw [closing, readBefore]
  cases proceed ending rest with
  | error fault => rfl
  | ok _ => rfl

theorem moreArguments_comma (argument : Reader Expr) (position : Nat) (rest : List Lexeme) :
    (moreArguments ending argument (⟨.symbol .comma, position⟩ :: rest)).map Subtype.val = (do
      proceed ending rest
      let (next, behind) ← outcome (argument rest)
      let (others, final) ← (moreArguments ending argument behind).map Subtype.val
      return (next :: others, final)) := by
  rw [moreArguments]
  cases proceed ending rest with
  | error fault => rfl
  | ok _ =>
      cases argument rest with
      | error fault => rfl
      | ok next =>
          simp only [outcome, Except.map, bind, Except.bind]
          cases moreArguments ending argument next.rest with
          | error fault => rfl
          | ok reply => rfl

/-- What stands behind an argument does not go on with it. -/
theorem endsBefore_arguments {args : List (List Token × Expr)} {used : List Lexeme}
    (tokens : used.map Lexeme.token = args.flatMap fun arg => .symbol .comma :: arg.1)
    (phrase : Phrase) (position : Nat) (rest : List Lexeme) :
    phrase.EndsBefore (used ++ ⟨.symbol .closeParen, position⟩ :: rest) := by
  cases args with
  | nil =>
      rw [List.flatMap_nil, List.map_eq_nil_iff] at tokens
      subst tokens
      exact Phrase.endsBefore_symbol (Phrase.not_goesOn_closing (Or.inl rfl)) position rest
  | cons arg args =>
      obtain ⟨⟨token, place⟩, more, rfl, rfl, _⟩ := List.map_eq_cons_iff.1 tokens
      exact Phrase.endsBefore_symbol (Phrase.not_goesOn_closing (Or.inr rfl)) place _

/-- Arguments with a comma in front of each are read up to the closing parenthesis. -/
theorem moreArguments_complete {argument : Reader Expr}
    (complete : CompleteReader ending n .expression argument) {args : List (List Token × Expr)}
    (derived : ∀ arg ∈ args, Derives n .expression arg.1 arg.2) {used : List Lexeme}
    (tokens : used.map Lexeme.token = args.flatMap fun arg => .symbol .comma :: arg.1)
    (position : Nat) (rest : List Lexeme) :
    (moreArguments ending argument (used ++ ⟨.symbol .closeParen, position⟩ :: rest)).map
        Subtype.val = .ok (args.map Prod.snd, ⟨.symbol .closeParen, position⟩ :: rest) := by
  induction args generalizing used with
  | nil =>
      rw [List.flatMap_nil, List.map_eq_nil_iff] at tokens
      subst tokens
      rw [List.nil_append, moreArguments]
      · rfl
      · simp
  | cons arg args ih =>
      rw [List.flatMap_cons, List.cons_append] at tokens
      obtain ⟨⟨token, place⟩, more, rfl, rfl, inner⟩ := List.map_eq_cons_iff.1 tokens
      obtain ⟨front, back, rfl, first, later⟩ := List.map_eq_append_iff.1 inner
      have here : Derives n .expression (front.map Lexeme.token) arg.2 :=
        first ▸ derived arg List.mem_cons_self
      have others := ih (fun arg mem => derived arg (List.mem_cons_of_mem _ mem)) later
      have read := complete here (endsBefore_arguments later _ position rest)
      rw [List.cons_append, moreArguments_comma, List.append_assoc, here.proceed_eq, ok_bind, read,
        readBefore_bind]
      simp only [proceed_append_cons, ok_bind, others]
      rfl

theorem outcome_arguments {argument : Reader Expr} {input : List Lexeme}
    (h : ∀ position more, input ≠ ⟨.symbol .closeParen, position⟩ :: more) :
    outcome (arguments ending argument input) = (do
      let (first, rest) ← outcome (argument input)
      let (others, rest) ← (moreArguments ending argument rest).map Subtype.val
      let rest ← (closing ending rest).map Subtype.val
      return (first :: others, rest)) := by
  rw [arguments]
  · cases argument input with
    | error fault => rfl
    | ok first =>
        simp only [outcome, Except.map, bind, Except.bind]
        cases moreArguments ending argument first.rest with
        | error fault => rfl
        | ok reply =>
            simp only
            cases closing ending reply.1.2 with
            | error fault => rfl
            | ok final => rfl
  · exact h

theorem arguments_complete {argument : Reader Expr}
    (complete : CompleteReader ending n .expression argument) {args : List (List Token × Expr)}
    (derived : ∀ arg ∈ args, Derives n .expression arg.1 arg.2) {used : List Lexeme}
    (tokens : used.map Lexeme.token = separated args) (position : Nat) (rest : List Lexeme) :
    outcome (arguments ending argument (used ++ ⟨.symbol .closeParen, position⟩ :: rest)) =
      readBefore ending (args.map Prod.snd) rest := by
  cases args with
  | nil =>
      rw [separated, List.map_nil, List.intercalate_nil, List.map_eq_nil_iff] at tokens
      subst tokens
      rw [List.nil_append, arguments]
      exact outcome_proceed _ _
  | cons arg args =>
      rw [separated_cons] at tokens
      obtain ⟨front, back, rfl, first, later⟩ := List.map_eq_append_iff.1 tokens
      have here : Derives n .expression (front.map Lexeme.token) arg.2 :=
        first ▸ derived arg List.mem_cons_self
      have others := moreArguments_complete complete
        (fun arg mem => derived arg (List.mem_cons_of_mem _ mem)) later position rest
      have read := complete here (endsBefore_arguments later _ position rest)
      -- An argument does not start with the parenthesis that closes the call.
      have start : ∀ place more, front ++ (back ++ ⟨.symbol .closeParen, position⟩ :: rest) ≠
          ⟨.symbol .closeParen, place⟩ :: more := by
        obtain ⟨lexeme, others, rfl, start⟩ := here.exists_cons
        rintro place more ⟨⟩
        rcases start _ rfl with opening | ⟨sign, symbol⟩
        · cases opening
        · cases symbol
      rw [List.append_assoc, outcome_arguments start, read, readBefore_bind]
      simp only [proceed_append_cons, ok_bind, others]
      exact closing_bind _ position rest

/-! ### One level of nesting -/

/-- The readers for nested parts read what derives with one level of nesting less. -/
def CompleteBelow (ending : Ending) (n : Nat) (below : Option (Part → Reader Expr)) : Prop :=
  ∀ m, n = m + 1 → ∃ readers, below = some readers ∧
    ∀ part : Part, CompleteReader ending m part.phrase (readers part)

variable {limit : Int} {below : Option (Part → Reader Expr)}

theorem CompleteBelow.nested (complete : CompleteBelow ending (n + 1) below) (limit : Int) :
    ∃ readers, nested limit below = .ok readers ∧
      ∀ part : Part, CompleteReader ending n part.phrase (readers part) := by
  obtain ⟨readers, rfl, each⟩ := complete n rfl
  exact ⟨readers, rfl, each⟩

theorem outcome_rangeOrCell {start : String} {lexeme : Lexeme} {rest : List Lexeme}
    (stop : Phrase.primary.EndsBefore rest) :
    outcome (rangeOrCell ending start rest : Except SyntaxError (Reply Expr (lexeme :: rest))) =
      .ok (.cell start, rest) := by
  rw [rangeOrCell]
  · rfl
  · rintro position finish place more rfl
    exact stop _ _ _ rfl rfl
  · rintro position more rfl
    exact stop _ _ _ rfl rfl

theorem outcome_enclosed {readers : Part → Reader Expr} (found : nested limit below = .ok readers)
    {lexeme : Lexeme} (rest : List Lexeme) :
    outcome (enclosed ending limit below rest : Except SyntaxError (Reply Expr (lexeme :: rest))) =
      (do
        let (inner, behind) ← outcome (readers .expression rest)
        let final ← (closing ending behind).map Subtype.val
        return (inner, final)) := by
  unfold enclosed
  rw [found, ok_bind]
  cases readers .expression rest with
  | error fault => rfl
  | ok inner =>
      simp only [outcome, Except.map, bind, Except.bind]
      cases closing ending inner.rest with
      | error fault => rfl
      | ok final => rfl

theorem outcome_callOf {readers : Part → Reader Expr} (found : nested limit below = .ok readers)
    (ident : String) {lexeme : Lexeme} (position : Nat) (rest : List Lexeme) :
    outcome (callOf ending limit below ident (⟨.symbol .openParen, position⟩ :: rest) :
        Except SyntaxError (Reply Expr (lexeme :: _))) =
      (do
        proceed ending rest
        let (args, behind) ← outcome (arguments ending (readers .expression) rest)
        return (.call ident args, behind)) := by
  rw [callOf, found]
  cases proceed ending rest with
  | error fault => rfl
  | ok _ =>
      rw [ok_bind, ok_bind, ok_bind]
      cases arguments ending (readers .expression) rest with
      | error fault => rfl
      | ok args => rfl

theorem outcome_sign {readers : Part → Reader Expr} (found : nested limit below = .ok readers)
    {s : Symbol} {sign : Sign} (symbol : Sign.ofSymbol? s = some sign) (position : Nat)
    (rest : List Lexeme) :
    outcome (signed ending limit below (⟨.symbol s, position⟩ :: rest)) =
      (do
        proceed ending rest
        let (operand, behind) ← outcome (readers .operand rest)
        return (.unary sign operand, behind)) := by
  rw [signed]
  split
  · next other matched =>
    rw [symbol] at matched
    cases matched
    rw [found]
    cases proceed ending rest with
    | error fault => rfl
    | ok _ =>
        rw [ok_bind, ok_bind, ok_bind]
        cases readers .operand rest with
        | error fault => rfl
        | ok operand => rfl
  · next unmatched =>
    rw [symbol] at unmatched
    cases unmatched

theorem primary_complete (complete : CompleteBelow ending n below) :
    CompleteReader ending n .primary (primary ending limit below) := by
  intro used rest e h stop
  generalize tokens : used.map Lexeme.token = ts at h
  cases h with
  | number | text =>
      obtain ⟨⟨token, position⟩, rfl, rfl⟩ := List.map_eq_singleton_iff.1 tokens
      exact outcome_proceed _ (Nat.lt_succ_self _)
  | cell ref =>
      obtain ⟨⟨token, position⟩, rfl, rfl⟩ := List.map_eq_singleton_iff.1 tokens
      simp only [List.cons_append, List.nil_append, primary, readBefore]
      cases proceed ending rest with
      | error fault => rfl
      | ok _ => exact outcome_rangeOrCell stop
  | range start finish =>
      obtain ⟨⟨token, position⟩, more, rfl, rfl, later⟩ := List.map_eq_cons_iff.1 tokens
      obtain ⟨⟨token, colon⟩, more, rfl, rfl, last⟩ := List.map_eq_cons_iff.1 later
      obtain ⟨⟨token, place⟩, rfl, rfl⟩ := List.map_eq_singleton_iff.1 last
      simp only [List.cons_append, List.nil_append, primary, proceed_cons, ok_bind, rangeOrCell]
      exact outcome_proceed _ _
  | parens h =>
      obtain ⟨⟨token, position⟩, more, rfl, rfl, later⟩ := List.map_eq_cons_iff.1 tokens
      obtain ⟨inner, last, rfl, rfl, final⟩ := List.map_eq_append_iff.1 later
      obtain ⟨⟨token, place⟩, rfl, rfl⟩ := List.map_eq_singleton_iff.1 final
      obtain ⟨readers, found, each⟩ := complete.nested limit
      have read := each .expression h
        (Phrase.endsBefore_symbol (Phrase.not_goesOn_closing (Or.inl rfl)) place rest)
      have shape : (⟨.symbol .openParen, position⟩ :: (inner ++ [⟨.symbol .closeParen, place⟩])) ++
          rest = ⟨.symbol .openParen, position⟩ ::
            (inner ++ ⟨.symbol .closeParen, place⟩ :: rest) := by simp
      rw [shape]
      simp only [primary, proceed_append_cons, ok_bind, outcome_enclosed found, read,
        readBefore_cons]
      exact closing_bind _ place rest
  | call ident args h =>
      obtain ⟨⟨token, position⟩, more, rfl, rfl, later⟩ := List.map_eq_cons_iff.1 tokens
      obtain ⟨⟨token, opening⟩, more, rfl, rfl, behind⟩ := List.map_eq_cons_iff.1 later
      obtain ⟨inner, last, rfl, inside, final⟩ := List.map_eq_append_iff.1 behind
      obtain ⟨⟨token, place⟩, rfl, rfl⟩ := List.map_eq_singleton_iff.1 final
      obtain ⟨readers, found, each⟩ := complete.nested limit
      have read := arguments_complete (each .expression) h inside place rest
      have shape : (⟨.name ident, position⟩ :: ⟨.symbol .openParen, opening⟩ ::
          (inner ++ [⟨.symbol .closeParen, place⟩])) ++ rest =
            ⟨.name ident, position⟩ :: ⟨.symbol .openParen, opening⟩ ::
              (inner ++ ⟨.symbol .closeParen, place⟩ :: rest) := by simp
      rw [shape]
      simp only [primary, proceed_cons, proceed_append_cons, ok_bind, outcome_callOf found, read,
        readBefore_bind]
      rfl

theorem signed_eq_primary {input : List Lexeme}
    (h : ∀ s position more, input = ⟨.symbol s, position⟩ :: more → Sign.ofSymbol? s = none) :
    signed ending limit below input = primary ending limit below input := by
  unfold signed
  split
  · next s position more =>
    rw [h s position more rfl]
  · rfl

theorem signed_complete (complete : CompleteBelow ending n below) :
    CompleteReader ending n .signed (signed ending limit below) := by
  intro used rest e h stop
  generalize tokens : used.map Lexeme.token = ts at h
  cases h with
  | operand h =>
      subst tokens
      obtain ⟨lexeme, others, rfl, _⟩ := h.exists_cons
      rw [signed_eq_primary]
      · exact primary_complete complete h stop
      · rintro s position more ⟨⟩
        exact h.ofSymbol?_eq_none
  | sign symbol h =>
      obtain ⟨⟨token, position⟩, others, rfl, rfl, rfl⟩ := List.map_eq_cons_iff.1 tokens
      obtain ⟨readers, found, each⟩ := complete.nested limit
      rw [List.cons_append, outcome_sign found symbol, h.proceed_eq, ok_bind,
        each .operand h stop, readBefore_bind]
      rfl

/-- An operand that no power stands behind is the whole of what is read. -/
theorem outcome_raised_base {input rest : List Lexeme} {e : Expr}
    (base : outcome (signed ending limit below input) = readBefore ending e rest)
    (stop : (Phrase.levels []).EndsBefore rest) :
    outcome (raised ending limit below input) = readBefore ending e rest := by
  unfold raised
  cases read : signed ending limit below input with
  | error fault =>
      rw [read] at base
      exact base
  | ok reply =>
      rw [read] at base
      obtain ⟨settled, proceeds, same⟩ := bind_eq_ok.1 base.symm
      obtain ⟨a, behind, shorter⟩ := reply
      cases same
      rw [← base, ok_bind]
      split
      · next position more power =>
        exact absurd (Or.inr (Or.inl rfl)) (stop _ position more power)
      · rfl

theorem outcome_raised_power {readers : Part → Reader Expr} (found : nested limit below = .ok readers)
    {input rest : List Lexeme} {e : Expr} {position : Nat}
    (base : outcome (signed ending limit below input) = .ok (e, ⟨.symbol .power, position⟩ :: rest)) :
    outcome (raised ending limit below input) =
      (do
        proceed ending rest
        let (exponent, behind) ← outcome (readers .power rest)
        return (.binary .power e exponent, behind)) := by
  obtain ⟨⟨a, front, shorter⟩, read, same⟩ := map_eq_ok.1 base
  cases same
  unfold raised
  rw [read, found, ok_bind]
  split
  · next place more power =>
    cases power
    cases proceed ending rest with
    | error fault => rfl
    | ok _ =>
        rw [ok_bind, ok_bind, ok_bind]
        cases readers .power rest with
        | error fault => rfl
        | ok exponent => rfl
  · next unmatched => exact absurd rfl (unmatched position rest)

theorem raised_complete (complete : CompleteBelow ending n below) :
    CompleteReader ending n (.levels []) (raised ending limit below) := by
  intro used rest e h stop
  generalize tokens : used.map Lexeme.token = ts at h
  cases h with
  | base h =>
      subst tokens
      exact outcome_raised_base (signed_complete complete h (stop.mono fun s => Or.inl)) stop
  | power left right =>
      obtain ⟨front, more, rfl, rfl, later⟩ := List.map_eq_append_iff.1 tokens
      obtain ⟨⟨token, position⟩, back, rfl, rfl, rfl⟩ := List.map_eq_cons_iff.1 later
      obtain ⟨readers, found, each⟩ := complete.nested limit
      have stops : Phrase.signed.EndsBefore (⟨.symbol .power, position⟩ :: (back ++ rest)) :=
        Phrase.endsBefore_symbol (by simp [Phrase.GoesOn]) position _
      rw [List.append_assoc, List.cons_append,
        outcome_raised_power found (signed_complete complete left stops), right.proceed_eq, ok_bind,
        each .power right stop, readBefore_bind]
      rfl

theorem partReader_complete (complete : CompleteBelow ending n below) (part : Part) :
    CompleteReader ending n part.phrase (partReader ending limit below part) := by
  cases part with
  | expression => exact levels_complete (raised_complete complete) (by decide)
  | power => exact raised_complete complete
  | operand => exact signed_complete complete

/-- A reader for `n` levels of nesting reads whatever derives with at most `n` of them. -/
theorem reader_complete (n : Nat) (part : Part) :
    CompleteReader ending n part.phrase (reader ending limit n part) := by
  induction n generalizing part with
  | zero =>
      refine partReader_complete ?_ part
      rintro m ⟨⟩
  | succ n ih =>
      refine partReader_complete ?_ part
      rintro m ⟨⟩
      exact ⟨_, rfl, ih⟩

end Reading

/-- What is read of lexemes that derive as an expression, and nothing but the ending behind them. -/
theorem parseLexemes_eq {limit : Int} {input : List Lexeme} {e : Expr}
    (h : Derives limit.toNat .expression (input.map Lexeme.token) e) (ending : Ending) :
    parseLexemes limit input ending = (do
      proceed ending []
      return e) := by
  have read : outcome (reader ending limit limit.toNat .expression (input ++ [])) =
      readBefore ending e [] :=
    reader_complete limit.toNat .expression h (Phrase.endsBefore_nil _)
  have front := h.proceed_eq ending []
  rw [List.append_nil] at read front
  have target : (do
      proceed ending []
      return e) = (readBefore ending e []).map Prod.fst := by
    unfold readBefore
    cases proceed ending [] with
    | error fault => rfl
    | ok _ => rfl
  unfold parseLexemes
  rw [target, ← read, front, ok_bind]
  cases replied : reader ending limit limit.toNat .expression input with
  | error fault => rfl
  | ok reply =>
      rw [replied] at read
      obtain ⟨_, _, last⟩ := bind_eq_ok.1 read.symm
      have nothing : reply.rest = [] := (congrArg Prod.snd (Except.ok.inj last)).symm
      rw [ok_bind, nothing]
      rfl

/-- A text is a formula if and only if it can be split into tokens up to its end, and the tokens derive
as an expression with at most `limit` levels of nesting. The tree is that of the derivation. -/
theorem parse_eq_ok_iff {limit : Int} {text : String} {e : Expr} :
    parse limit text = .ok e ↔
      (∃ position, (lexemes text).2 = .complete position) ∧
        Derives limit.toNat .expression ((lexemes text).1.map Lexeme.token) e := by
  constructor
  · intro h
    have derived := derives_of_parse h
    refine ⟨?_, derived⟩
    have whole := parseLexemes_eq derived (lexemes text).2
    obtain ⟨_, settled, _⟩ := bind_eq_ok.1 (whole.symm.trans h)
    cases ending : (lexemes text).2 with
    | complete position => exact ⟨position, rfl⟩
    | broken error =>
        rw [ending] at settled
        cases settled
  · rintro ⟨⟨position, complete⟩, derived⟩
    have whole := parseLexemes_eq derived (lexemes text).2
    rw [complete, proceed_complete, ok_bind, ← complete] at whole
    exact whole

end FormulaSheet
