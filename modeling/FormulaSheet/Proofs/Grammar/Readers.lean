import FormulaSheet.Proofs.Grammar.Ahead
import FormulaSheet.Proofs.Grammar.Beginning
import FormulaSheet.Proofs.Grammar.Completeness

/-!
# The readers look one lexeme ahead

Every reader of a phrase takes tokens that are such a phrase, or fails behind tokens that begin one, and
decides by the lexeme in front of it (`Foresees`). Every part of the reader has a lemma that says so; it
puts the steps of the part one behind the other, under the condition that the readers for nested parts look
one lexeme ahead themselves (`ForeseesBelow`). The induction on the levels of nesting is `reader_ahead`.
-/

namespace FormulaSheet

/-- A reader of a phrase looks one lexeme ahead, wherever no unreadable place is in front of it. -/
def Foresees (phrase : Phrase) (read : Ending → Reader Expr) : Prop :=
  ∀ ending input, proceed ending input = .ok () →
    OneAhead (fun ending input => outcome (read ending input)) ending input phrase.Accepts phrase.Begins

/-- What stands behind the parts that follow a lexeme is shorter than the lexeme with all of them. -/
theorem length_lt_of_split {lexeme : Lexeme} {rest used behind : List Lexeme}
    (split : rest = used ++ behind) : behind.length < (lexeme :: rest).length := by
  subst split
  simp only [List.length_cons, List.length_append]
  omega

/-! ### Operators that associate to the left -/

theorem links_of_not_operator {ending : Ending} {level : Level} {operand : Reader Expr} {left : Expr}
    {lexeme : Lexeme} (noOperator : operatorAt? level lexeme.token = none) (rest : List Lexeme) :
    links ending level operand left (lexeme :: rest) = .ok (left, lexeme :: rest) := by
  rw [links, chain]
  split
  · rfl
  · next operator =>
    rw [noOperator] at operator
    cases operator

/-- Behind an operand, the loop of a level takes operators of the level with their right operands. -/
theorem links_ahead {level : Level} {ls : List Level} {operand : Ending → Reader Expr}
    (foresees : Foresees (.levels ls) operand) (left : Expr) {ts : List Token}
    (first : (Phrase.levels (level :: ls)).Accepts ts) (ending : Ending) (input : List Lexeme)
    (settled : proceed ending input = .ok ()) :
    OneAhead (fun ending input => links ending level (operand ending) left input) ending input
      (fun us => (Phrase.levels (level :: ls)).Accepts (ts ++ us))
      fun us => (Phrase.levels (level :: ls)).Begins (ts ++ us) := by
  induction length : input.length using Nat.strongRecOn generalizing left ts input with
  | ind n ih =>
    cases input with
    | nil =>
        refine .ret left settled (by simpa using first) ?_
        rintro _ _ ⟨⟩
        rw [links, chain]
        rfl
    | cons lexeme rest =>
        obtain ⟨token, position⟩ := lexeme
        cases operator : operatorAt? level token with
        | none =>
            refine .ret left settled (by simpa using first) ?_
            rintro _ _ ⟨⟩
            exact links_of_not_operator operator _
        | some op =>
            obtain ⟨s, rfl, symbol⟩ := operatorAt?_eq_some operator
            have embed : ∀ us, (Phrase.levels ls).Accepts us →
                (Phrase.levels (level :: ls)).Accepts (ts ++ [.symbol s] ++ us ++ []) := by
              intro us right
              simpa using first.chained symbol right
            refine .take _ (fun ending' rest' => links_symbol symbol _ left position rest') ?_ ?_
            · simpa using Phrase.Begins.within _ [] embed (Phrase.begins_nil _)
            · intro settled
              refine .bind (fun right ending behind =>
                links ending level (operand ending) (.binary op left right) behind)
                (fun _ _ _ => rfl) (foresees ending rest settled) (fun us begun => ?_) ?_
              · simpa using Phrase.Begins.within _ [] embed begun
              · intro right used behind split settled accepted
                have shorter : behind.length < n := length ▸ length_lt_of_split split
                have next := ih behind.length shorter (.binary op left right)
                  (first.chained symbol accepted) behind settled rfl
                exact next.mono (fun us => by simp) (fun us => by simp)

theorem leftAssociative_ahead {ls : List Level} {operand : Ending → Reader Expr}
    (foresees : Foresees (.levels ls) operand) (level : Level) :
    Foresees (.levels (level :: ls)) fun ending => leftAssociative ending level (operand ending) := by
  intro ending input settled
  refine .bind (fun first ending rest => links ending level (operand ending) first rest)
    (fun _ input' _ => outcome_leftAssociative level _ input') (foresees ending input settled) ?_ ?_
  · exact fun ts => Phrase.Begins.mono fun us => Phrase.Accepts.tighter
  · intro first used rest _ settled accepted
    exact links_ahead foresees first accepted.tighter ending rest settled

theorem levels_ahead {operand : Ending → Reader Expr} (foresees : Foresees (.levels []) operand)
    (ls : List Level) :
    Foresees (.levels ls) fun ending => ls.foldr (leftAssociative ending) (operand ending) := by
  induction ls with
  | nil => exact foresees
  | cons level rest ih => exact leftAssociative_ahead ih level

/-! ### Calls and parentheses -/

/-- Reads a closing parenthesis behind `a`. -/
def closed {α : Type} (a : α) : Reading α := fun ending input => do
  let final ← (closing ending input).map Subtype.val
  return (a, final)

theorem closed_ahead {α : Type} (a : α) {phrase : Phrase} {before : List Token}
    (accepted : phrase.Accepts (before ++ [.symbol .closeParen])) (ending : Ending)
    (input : List Lexeme) (settled : proceed ending input = .ok ()) :
    OneAhead (closed a) ending input (fun ts => phrase.Accepts (before ++ ts))
      fun ts => phrase.Begins (before ++ ts) := by
  obtain ⟨position, rest, rfl⟩ | other := startsWith_or (.symbol .closeParen) input
  · refine .take (fun _ behind => .ok (a, behind)) (fun _ _ => closing_bind a position _)
      accepted.begins fun settled => ?_
    exact .ret a settled accepted fun _ _ _ => rfl
  · have begun : phrase.Begins (before ++ []) := ⟨[.symbol .closeParen], by simpa using accepted⟩
    refine .fail .unclosed (fun _ _ => nofun) settled begun fun ending' input' same => ?_
    rw [closed, closing]
    · rfl
    · exact same.ne_cons other

/-- Behind an argument, the loop takes commas with an argument behind each. -/
theorem moreArguments_ahead {argument : Ending → Reader Expr}
    (foresees : Foresees .expression argument) {ts : List Token} (first : AcceptsArguments ts)
    (ending : Ending) (input : List Lexeme) (settled : proceed ending input = .ok ()) :
    OneAhead (fun ending input => (moreArguments ending (argument ending) input).map Subtype.val) ending
      input (fun us => AcceptsArguments (ts ++ us))
      fun us => ∃ more, AcceptsArguments (ts ++ us ++ more) := by
  induction length : input.length using Nat.strongRecOn generalizing ts input with
  | ind n ih =>
    obtain ⟨position, rest, rfl⟩ | other := startsWith_or (.symbol .comma) input
    · refine .take _ (fun ending' rest' => moreArguments_comma _ position rest') ?_ ?_
      · have next := first.more (Phrase.expression.accepts_text "")
        exact ⟨[.text ""], by simpa using next⟩
      · intro settled
        refine .bind (fun next ending behind => do
            let reply ← (moreArguments ending (argument ending) behind).map Subtype.val
            return (next :: reply.1, reply.2))
          (fun _ _ _ => rfl) (foresees ending rest settled) (fun us begun => ?_) ?_
        · obtain ⟨more, accepted⟩ := begun
          exact ⟨more, by simpa using first.more accepted⟩
        · intro next used behind split settled accepted
          have shorter : behind.length < n := length ▸ length_lt_of_split split
          have others := ih behind.length shorter (first.more accepted) behind settled rfl
          refine .bind (fun others _ final => .ok (next :: others, final)) (fun _ _ _ => rfl) others
            (fun us begun => by simpa using begun) fun others used' final _ settled accepted => ?_
          exact .ret (next :: others) settled (by simpa using accepted) fun _ _ _ => rfl
    · refine .ret [] settled (by simpa using first) fun ending' input' same => ?_
      rw [moreArguments]
      · rfl
      · exact same.ne_cons other

/-- Behind the opening parenthesis of a call, arguments are taken up to the closing one. -/
theorem arguments_ahead {argument : Ending → Reader Expr} (foresees : Foresees .expression argument)
    (ident : String) (ending : Ending) (input : List Lexeme) (settled : proceed ending input = .ok ()) :
    OneAhead (fun ending input => outcome (arguments ending (argument ending) input)) ending input
      (fun ts => Phrase.primary.Accepts (.name ident :: .symbol .openParen :: ts))
      fun ts => Phrase.primary.Begins (.name ident :: .symbol .openParen :: ts) := by
  obtain ⟨position, rest, rfl⟩ | other := startsWith_or (.symbol .closeParen) input
  · have call := accepts_call_nil ident
    refine .take (fun _ rest => .ok ([], rest)) (fun ending' rest' => ?_) call.begins fun settled => ?_
    · rw [arguments]
      exact outcome_proceed _ _
    · exact .ret [] settled call fun _ _ _ => rfl
  · refine .bind (fun first ending rest => do
        let reply ← (moreArguments ending (argument ending) rest).map Subtype.val
        closed (first :: reply.1) ending reply.2)
      (fun ending' input' same => ?_) (foresees ending input settled) (fun us begun => ?_) ?_
    · rw [outcome_arguments (same.ne_cons other)]
      rfl
    · obtain ⟨more, accepted⟩ := begun
      exact ⟨more ++ [.symbol .closeParen], by simpa using accepted.argument.call ident⟩
    · intro first used rest _ settled accepted
      refine .bind (fun others => closed (first :: others)) (fun _ _ _ => rfl)
        (moreArguments_ahead foresees accepted.argument ending rest settled) (fun us begun => ?_) ?_
      · obtain ⟨more, inner⟩ := begun
        exact ⟨more ++ [.symbol .closeParen], by simpa using inner.call ident⟩
      · intro others used' final _ settled inner
        have call := closed_ahead (first :: others) (inner.call ident) ending final settled
        exact call.mono (fun us => by simp) fun us => by simp

/-! ### One level of nesting -/

/-- Reads the second reference of a range. -/
def rangeEnd (start : String) : Reading Expr
  | ending, ⟨.cell finish, _⟩ :: rest => do
    proceed ending rest
    return (.range start finish, rest)
  | ending, rest => .error (.grammar .openRange (found ending rest).2)

theorem rangeEnd_of_not_cell (start : String) (ending : Ending) {input : List Lexeme}
    (other : ∀ finish position rest, input ≠ ⟨.cell finish, position⟩ :: rest) :
    rangeEnd start ending input = .error (.grammar .openRange (found ending input).2) := by
  rw [rangeEnd]
  exact other

theorem outcome_rangeOrCell_colon (start : String) {lexeme : Lexeme} (ending : Ending) (position : Nat)
    (rest : List Lexeme) :
    outcome (rangeOrCell ending start (⟨.symbol .colon, position⟩ :: rest) :
        Except SyntaxError (Reply Expr (lexeme :: _))) = (do
      proceed ending rest
      rangeEnd start ending rest) := by
  by_cases front : ∃ finish place more, rest = ⟨.cell finish, place⟩ :: more
  · obtain ⟨finish, place, more, rfl⟩ := front
    exact outcome_proceed _ _
  · have other : ∀ finish place more, rest ≠ ⟨.cell finish, place⟩ :: more :=
      fun finish place more same => front ⟨finish, place, more, same⟩
    rw [rangeEnd_of_not_cell start ending other, rangeOrCell]
    · cases proceed ending rest with
      | error error => rfl
      | ok _ => rfl
    · exact other

theorem rangeOrCell_ahead (start : String) (lexeme : Lexeme) (ending : Ending) (input : List Lexeme)
    (settled : proceed ending input = .ok ()) :
    OneAhead (fun ending rest => outcome (rangeOrCell ending start rest :
        Except SyntaxError (Reply Expr (lexeme :: rest)))) ending input
      (fun ts => Phrase.primary.Accepts (.cell start :: ts))
      fun ts => Phrase.primary.Begins (.cell start :: ts) := by
  have range (finish : String) :
      Phrase.primary.Accepts [.cell start, .symbol .colon, .cell finish] :=
    (Derives.range (n := 0) start finish).accepts
  obtain ⟨position, rest, rfl⟩ | other := startsWith_or (.symbol .colon) input
  · refine .take (rangeEnd start) (fun ending' rest' => outcome_rangeOrCell_colon start ending' _ rest')
      ⟨_, range ""⟩ fun settled => ?_
    by_cases last : ∃ finish place more, rest = ⟨.cell finish, place⟩ :: more
    · obtain ⟨finish, place, more, rfl⟩ := last
      refine .take (fun _ behind => .ok (.range start finish, behind)) (fun _ _ => rfl)
        (range finish).begins fun settled => ?_
      exact .ret _ settled (range finish) fun _ _ _ => rfl
    · refine .fail (fun _ => .openRange) (fun _ _ => nofun) settled ⟨_, range ""⟩ ?_
      intro ending' input' same
      refine rangeEnd_of_not_cell start ending' ?_
      rintro finish place more rfl
      cases same
      exact last ⟨finish, place, _, rfl⟩
  · have cell : Phrase.primary.Accepts [.cell start] := (Derives.cell (n := 0) start).accepts
    refine .ret (.cell start) settled cell fun ending' input' same => ?_
    have other := same.ne_cons other
    rw [rangeOrCell]
    · rfl
    · exact fun position finish place more => other position _
    · exact other

/-- The readers of nested parts look one lexeme ahead. -/
def ForeseesBelow (below : Option (Ending → Part → Reader Expr)) : Prop :=
  ∀ readers ∈ below, ∀ part : Part, Foresees part.phrase fun ending => readers ending part

variable {limit : Int} {below : Option (Ending → Part → Reader Expr)}

/-- Behind an opening parenthesis, an expression is taken up to the closing one. -/
theorem enclosed_ahead (foresees : ForeseesBelow below) (lexeme : Lexeme) (ending : Ending)
    (input : List Lexeme) (settled : proceed ending input = .ok ()) :
    OneAhead (fun ending rest => outcome (enclosed ending limit (below.map (· ending)) rest :
        Except SyntaxError (Reply Expr (lexeme :: rest)))) ending input
      (fun ts => Phrase.primary.Accepts (.symbol .openParen :: ts))
      fun ts => Phrase.primary.Begins (.symbol .openParen :: ts) := by
  cases below with
  | none => exact .stops limit rfl
  | some readers =>
      refine .bind closed (fun _ _ _ => outcome_enclosed rfl _)
        (foresees readers rfl .expression ending input settled) (fun us begun => ?_) ?_
      · exact begun.within [.symbol .openParen] [.symbol .closeParen] fun us => Phrase.Accepts.parens
      · intro inner used rest _ settled accepted
        exact closed_ahead inner accepted.parens ending rest settled

theorem outcome_proceed_bind {α : Type} {ending : Ending} {input rest : List Lexeme}
    (read : Except SyntaxError (Reply α input)) :
    outcome (do
      proceed ending rest
      read) = (do
      proceed ending rest
      outcome read) := by
  cases proceed ending rest with
  | error error => rfl
  | ok _ => rfl

theorem callOf_ahead (foresees : ForeseesBelow below) (ident : String) (lexeme : Lexeme)
    (ending : Ending) (position : Nat) (rest : List Lexeme) :
    OneAhead (fun ending input => outcome (callOf ending limit (below.map (· ending)) ident input :
        Except SyntaxError (Reply Expr (lexeme :: input)))) ending
      (⟨.symbol .openParen, position⟩ :: rest) (fun ts => Phrase.primary.Accepts (.name ident :: ts))
      fun ts => Phrase.primary.Begins (.name ident :: ts) := by
  have begun : Phrase.primary.Begins [.name ident, .symbol .openParen] :=
    ⟨[.symbol .closeParen], accepts_call_nil ident⟩
  cases below with
  | none =>
      refine .take (fun _ _ => .error (.tooDeep limit)) (fun ending' rest' => ?_) begun
        fun _ => .stops limit rfl
      rw [callOf]
      exact outcome_proceed_bind _
  | some readers =>
      refine .take _ (fun ending' rest' => outcome_callOf rfl ident position rest') begun
        fun settled => ?_
      refine .bind (fun args _ behind => .ok (.call ident args, behind)) (fun _ _ _ => rfl)
        (arguments_ahead (foresees readers rfl .expression) ident ending rest settled)
        (fun us begun => begun) fun args used behind _ settled accepted => ?_
      exact .ret _ settled (by simpa using accepted) fun _ _ _ => rfl

/-- A name is blamed itself if it is not called. -/
theorem name_ahead (foresees : ForeseesBelow below) (ident : String) (place : Nat) (ending : Ending)
    (rest : List Lexeme) :
    OneAhead (fun ending input => outcome (primary ending limit (below.map (· ending)) input)) ending
      (⟨.name ident, place⟩ :: rest) Phrase.primary.Accepts Phrase.primary.Begins := by
  have begun : Phrase.primary.Begins [.name ident] := ⟨_, accepts_call_nil ident⟩
  have step : ∀ ending' rest', outcome (primary ending' limit (below.map (· ending'))
      (⟨.name ident, place⟩ :: rest')) = (do
        proceed ending' rest'
        outcome (callOf ending' limit (below.map (· ending')) ident rest' :
          Except SyntaxError (Reply Expr (⟨.name ident, place⟩ :: rest')))) :=
    fun _ _ => outcome_proceed_bind _
  obtain ⟨position, more, rfl⟩ | uncalled := startsWith_or (.symbol .openParen) rest
  · exact .take _ step begun fun _ => callOf_ahead foresees ident _ ending position more
  · cases settled : proceed ending rest with
    | error error =>
        refine .take _ step begun fun ready => ?_
        rw [settled] at ready
        cases ready
    | ok _ =>
        refine .fails (.grammar (.notCalled ident) place) [⟨.name ident, place⟩] rest rfl
          (.name settled (List.nil_append _).symm) begun fun ending' rest' same => ?_
        have unread : callOf ending' limit (below.map (· ending')) ident rest' =
            (.error (.grammar (.notCalled ident) place) :
              Except SyntaxError (Reply Expr (⟨.name ident, place⟩ :: rest'))) := by
          rw [callOf]
          exact same.ne_cons uncalled
        rw [List.singleton_append, step, same.proceed_eq, settled, unread]
        rfl

/-- A literal, a reference, a range, a call, or an expression in parentheses. -/
theorem primary_ahead (foresees : ForeseesBelow below) :
    Foresees .primary fun ending => primary ending limit (below.map (· ending)) := by
  intro ending input settled
  cases input with
  | nil =>
      refine .fail .noOperand (fun _ _ => nofun) settled (Phrase.begins_nil _) ?_
      rintro _ _ ⟨⟩
      rfl
  | cons lexeme rest =>
      obtain ⟨token, position⟩ := lexeme
      cases token with
      | number x =>
          have number := (Derives.number (n := 0) x).accepts
          refine .take (fun _ behind => .ok (.number x, behind)) (fun _ _ => outcome_proceed_bind _)
            number.begins fun settled => ?_
          exact .ret _ settled number fun _ _ _ => rfl
      | text s =>
          have text := Phrase.primary.accepts_text s
          refine .take (fun _ behind => .ok (.text s, behind)) (fun _ _ => outcome_proceed_bind _)
            text.begins fun settled => ?_
          exact .ret _ settled text fun _ _ _ => rfl
      | cell ref =>
          have cell := (Derives.cell (n := 0) ref).accepts
          exact .take _ (fun _ _ => outcome_proceed_bind _) cell.begins
            (rangeOrCell_ahead ref ⟨.cell ref, position⟩ ending rest)
      | name ident => exact name_ahead foresees ident position ending rest
      | symbol s =>
          by_cases opening : s = .openParen
          · subst opening
            have begun : Phrase.primary.Begins [.symbol .openParen] :=
              (Phrase.begins_nil _).within [.symbol .openParen] [.symbol .closeParen]
                fun us => Phrase.Accepts.parens
            exact .take _ (fun _ _ => outcome_proceed_bind _) begun
              (enclosed_ahead foresees ⟨.symbol .openParen, position⟩ ending rest)
          · refine .fail .noOperand (fun _ _ => nofun) settled (Phrase.begins_nil _) ?_
            rintro _ _ ⟨⟩
            cases s with
            | openParen => exact absurd rfl opening
            | _ => rfl

theorem sign_ahead (foresees : ForeseesBelow below) {s : Symbol} {sign : Sign}
    (symbol : Sign.ofSymbol? s = some sign) (position : Nat) (ending : Ending) (rest : List Lexeme) :
    OneAhead (fun ending input => outcome (signed ending limit (below.map (· ending)) input)) ending
      (⟨.symbol s, position⟩ :: rest) Phrase.signed.Accepts Phrase.signed.Begins := by
  have within {us : List Token} (begun : Phrase.signed.Begins us) :
      Phrase.signed.Begins (.symbol s :: us) :=
    begun.within [.symbol s] [] fun us accepted => by simpa using accepted.sign symbol
  cases below with
  | none =>
      refine .take (fun _ _ => .error (.tooDeep limit)) (fun ending' rest' => ?_)
        (within (Phrase.begins_nil _)) fun _ => .stops limit rfl
      rw [signed]
      split
      · exact outcome_proceed_bind _
      · next unmatched =>
        rw [symbol] at unmatched
        cases unmatched
  | some readers =>
      refine .take _ (fun ending' rest' => outcome_sign rfl symbol position rest')
        (within (Phrase.begins_nil _)) fun settled => ?_
      refine .bind (fun operand _ behind => .ok (.unary sign operand, behind)) (fun _ _ _ => rfl)
        (foresees readers rfl .operand ending rest settled) (fun us => within)
        fun operand used behind _ settled accepted => ?_
      exact .ret _ settled (by simpa using accepted.sign symbol) fun _ _ _ => rfl

/-- Signs and the primary behind them. -/
theorem signed_ahead (foresees : ForeseesBelow below) :
    Foresees .signed fun ending => signed ending limit (below.map (· ending)) := by
  intro ending input settled
  by_cases front : ∃ s position rest sign, input = ⟨.symbol s, position⟩ :: rest ∧
      Sign.ofSymbol? s = some sign
  · obtain ⟨s, position, rest, sign, rfl, symbol⟩ := front
    exact sign_ahead foresees symbol position ending rest
  · have plain : Foresees .primary fun ending => primary ending limit (below.map (· ending)) :=
      primary_ahead foresees
    have operand := (plain ending input settled).mono (fun ts => Phrase.Accepts.operand)
      fun ts => Phrase.Begins.mono fun us => Phrase.Accepts.operand
    refine operand.congr fun ending' input' same => congrArg outcome (signed_eq_primary ?_)
    rintro s position rest rfl
    cases same
    cases symbol : Sign.ofSymbol? s with
    | none => rfl
    | some sign => exact absurd ⟨s, position, _, sign, rfl, symbol⟩ front

/-- Reads what can stand behind the base of a power: nothing, or the symbol and the exponent. -/
def exponentOf (limit : Int) (below : Option (Ending → Part → Reader Expr)) (base : Expr) :
    Reading Expr
  | ending, ⟨.symbol .power, _⟩ :: rest => do
    proceed ending rest
    let readers ← nested limit (below.map (· ending))
    let (exponent, behind) ← outcome (readers .power rest)
    return (.binary .power base exponent, behind)
  | _, rest => return (base, rest)

theorem exponentOf_of_not_power (base : Expr) (ending : Ending) {input : List Lexeme}
    (other : ∀ position rest, input ≠ ⟨.symbol .power, position⟩ :: rest) :
    exponentOf limit below base ending input = .ok (base, input) := by
  rw [exponentOf]
  · rfl
  · exact other

theorem outcome_raised (ending : Ending) (input : List Lexeme) :
    outcome (raised ending limit (below.map (· ending)) input) = (do
      let (base, rest) ← outcome (signed ending limit (below.map (· ending)) input)
      exponentOf limit below base ending rest) := by
  unfold raised
  cases signed ending limit (below.map (· ending)) input with
  | error error => rfl
  | ok base =>
      obtain ⟨e, behind, shorter⟩ := base
      change _ = exponentOf limit below e ending behind
      rw [ok_bind]
      split
      · next position rest power =>
        cases power
        rw [exponentOf]
        cases proceed ending rest with
        | error error => rfl
        | ok _ =>
            cases nested limit (below.map (· ending)) with
            | error error => rfl
            | ok readers =>
                rw [ok_bind, ok_bind, ok_bind, ok_bind]
                cases readers .power rest with
                | error error => rfl
                | ok exponent => rfl
      · next other => exact (exponentOf_of_not_power e ending other).symm

theorem exponentOf_ahead (foresees : ForeseesBelow below) (base : Expr) {ts : List Token}
    (first : Phrase.signed.Accepts ts) (ending : Ending) (input : List Lexeme)
    (settled : proceed ending input = .ok ()) :
    OneAhead (exponentOf limit below base) ending input
      (fun us => (Phrase.levels []).Accepts (ts ++ us)) fun us => (Phrase.levels []).Begins (ts ++ us) := by
  obtain ⟨position, rest, rfl⟩ | other := startsWith_or (.symbol .power) input
  · have within {us : List Token} (begun : (Phrase.levels []).Begins us) :
        (Phrase.levels []).Begins (ts ++ .symbol .power :: us) := by
      have embed : ∀ us, (Phrase.levels []).Accepts us →
          (Phrase.levels []).Accepts (ts ++ [.symbol .power] ++ us ++ []) := by
        intro us right
        simpa using first.power right
      simpa using begun.within _ [] embed
    refine .take (fun ending rest => do
        let readers ← nested limit (below.map (· ending))
        let (exponent, behind) ← outcome (readers .power rest)
        return (.binary .power base exponent, behind))
      (fun _ _ => rfl) (within (Phrase.begins_nil _)) fun settled => ?_
    cases below with
    | none => exact .stops limit rfl
    | some readers =>
        refine .bind (fun exponent _ behind => .ok (.binary .power base exponent, behind))
          (fun _ _ _ => rfl) (foresees readers rfl .power ending rest settled) (fun us => within)
          fun exponent used behind _ settled accepted => ?_
        exact .ret _ settled (by simpa using first.power accepted) fun _ _ _ => rfl
  · refine .ret base settled (by simpa using first.base) fun ending' input' same => ?_
    exact exponentOf_of_not_power base ending' (same.ne_cons other)

/-- An operand, and the power to which it is raised if there is one. -/
theorem raised_ahead (foresees : ForeseesBelow below) :
    Foresees (.levels []) fun ending => raised ending limit (below.map (· ending)) := by
  intro ending input settled
  refine .bind (exponentOf limit below) (fun ending' input' _ => outcome_raised ending' input')
    (signed_ahead foresees ending input settled) ?_ fun base used rest _ settled accepted => ?_
  · exact fun ts => Phrase.Begins.mono fun us => Phrase.Accepts.base
  · exact exponentOf_ahead foresees base accepted ending rest settled

theorem partReader_ahead (foresees : ForeseesBelow below) (part : Part) :
    Foresees part.phrase fun ending => partReader ending limit (below.map (· ending)) part := by
  cases part with
  | expression => exact levels_ahead (raised_ahead foresees) Level.all
  | power => exact raised_ahead foresees
  | operand => exact signed_ahead foresees

/-- Readers for any number of levels of nesting look one lexeme ahead. -/
theorem reader_ahead (limit : Int) (n : Nat) (part : Part) :
    Foresees part.phrase fun ending => reader ending limit n part := by
  induction n generalizing part with
  | zero =>
      have nothing : ForeseesBelow none := by
        rintro readers ⟨⟩
      exact partReader_ahead nothing part
  | succ n ih =>
      have nested : ForeseesBelow (some fun ending => reader ending limit n) := by
        rintro readers ⟨⟩
        exact ih
      exact partReader_ahead nested part

end FormulaSheet
