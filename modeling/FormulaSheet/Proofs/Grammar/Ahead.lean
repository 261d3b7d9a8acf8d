import FormulaSheet.Formula.Parser
import FormulaSheet.Proofs.Result

/-!
# Reading one lexeme ahead

A reader decides by the lexeme in front of it, or by the ending if there is none, and never goes back. So
it does on other lexemes what it does on these as long as they are the same up to the one that it has
looked at last, and whatever it blames is this one. The only exception is a name that is not called, which
is blamed when the lexeme behind it has been looked at.

`OneAhead run ending input whole front` says this about one run. Beyond that, it says that `whole` holds of
the tokens that a run takes if it returns, and `front` of those that it has taken when it fails.

* `OneAhead.take`, `OneAhead.ret` and `OneAhead.fail` are the steps of a reader.
* `OneAhead.bind` puts two readers one behind the other.
-/

namespace FormulaSheet

variable {α β : Type}

/-- A reader for any ending, without the evidence that something was read. -/
abbrev Reading (α : Type) := Ending → List Lexeme → Except SyntaxError (α × List Lexeme)

/-- Two inputs with the same lexeme in front, or with none and with the same ending. -/
inductive SameFront : Ending → List Lexeme → Ending → List Lexeme → Prop
  | nil (ending : Ending) : SameFront ending [] ending []
  | cons (ending ending' : Ending) (lexeme : Lexeme) (rest rest' : List Lexeme) :
      SameFront ending (lexeme :: rest) ending' (lexeme :: rest')

namespace SameFront

variable {ending ending' : Ending} {input input' : List Lexeme}

theorem refl (ending : Ending) (input : List Lexeme) : SameFront ending input ending input := by
  cases input with
  | nil => exact .nil ending
  | cons lexeme rest => exact .cons ending ending lexeme rest rest

theorem append (h : SameFront ending input ending' input') (used : List Lexeme) :
    SameFront ending (used ++ input) ending' (used ++ input') := by
  cases used with
  | nil => exact h
  | cons lexeme more => exact .cons _ _ lexeme _ _

theorem proceed_eq (h : SameFront ending input ending' input') :
    proceed ending' input' = proceed ending input := by
  cases h <;> rfl

theorem found_eq (h : SameFront ending input ending' input') :
    found ending' input' = found ending input := by
  cases h <;> rfl

theorem ne_cons {token : Token} (h : SameFront ending input ending' input')
    (other : ∀ position rest, input ≠ ⟨token, position⟩ :: rest) :
    ∀ position rest, input' ≠ ⟨token, position⟩ :: rest := by
  rintro position rest rfl
  cases h
  exact other position _ rfl

end SameFront

/-- Lexemes start with a token, or they do not. -/
theorem startsWith_or (token : Token) (input : List Lexeme) :
    (∃ position rest, input = ⟨token, position⟩ :: rest) ∨
      ∀ position rest, input ≠ ⟨token, position⟩ :: rest := by
  by_cases front : ∃ position rest, input = ⟨token, position⟩ :: rest
  · exact Or.inl front
  · exact Or.inr fun position rest same => front ⟨position, rest, same⟩

/-- Going on fails at an unreadable place only. -/
theorem exists_of_proceed_eq_error {ending : Ending} {rest : List Lexeme} {error : SyntaxError}
    (h : proceed ending rest = .error error) :
    rest = [] ∧ ∃ place, ending = .broken place ∧ error = .token place := by
  unfold proceed at h
  split at h
  · next place =>
    cases h
    exact ⟨rfl, place, rfl, rfl⟩
  · cases h

/-- An error is about the front of `rest`, which may be an unreadable place or the end of the text, or
about a name at the end of `used` that `rest` does not go on with. -/
inductive BlamedAt (ending : Ending) (used rest : List Lexeme) : SyntaxError → Prop
  | token {error : TokenError} (broken : ending = .broken error) (nothing : rest = []) :
      BlamedAt ending used rest (.token error)
  | here {fault : GrammarFault} (settled : proceed ending rest = .ok ())
      (other : ∀ ident, fault ≠ .notCalled ident) :
      BlamedAt ending used rest (.grammar fault (found ending rest).2)
  | name {ident : String} {before : List Lexeme} {lexeme : Lexeme} (settled : proceed ending rest = .ok ())
      (last : used = before ++ [lexeme]) :
      BlamedAt ending used rest (.grammar (.notCalled ident) lexeme.position)

theorem BlamedAt.append {ending : Ending} {used rest : List Lexeme} {error : SyntaxError}
    (h : BlamedAt ending used rest error) (before : List Lexeme) :
    BlamedAt ending (before ++ used) rest error := by
  cases h with
  | token broken nothing => exact .token broken nothing
  | here settled other => exact .here settled other
  | name settled last =>
      subst last
      exact .name settled (List.append_assoc ..).symm

/-- What a run takes and does is settled by the lexemes that it takes and the front of those behind them:
it returns behind tokens for which `whole` holds, or it fails behind tokens for which `front` holds, or
it stops at a limit. -/
inductive OneAhead (run : Reading α) (ending : Ending) (input : List Lexeme)
    (whole front : List Token → Prop) : Prop
  | returns (a : α) (used rest : List Lexeme) (split : input = used ++ rest)
      (settled : proceed ending rest = .ok ()) (accepted : whole (used.map Lexeme.token))
      (result : ∀ ending' rest', SameFront ending rest ending' rest' →
        run ending' (used ++ rest') = .ok (a, rest'))
  | fails (error : SyntaxError) (used rest : List Lexeme) (split : input = used ++ rest)
      (blamed : BlamedAt ending used rest error) (begun : front (used.map Lexeme.token))
      (result : ∀ ending' rest', SameFront ending rest ending' rest' →
        run ending' (used ++ rest') = .error error)
  | stops (limit : Int) (result : run ending input = .error (.tooDeep limit))

namespace OneAhead

variable {run : Reading α} {ending : Ending} {input : List Lexeme} {whole front : List Token → Prop}

theorem mono {wider longer : List Token → Prop} (h : OneAhead run ending input whole front)
    (returned : ∀ ts, whole ts → wider ts) (failed : ∀ ts, front ts → longer ts) :
    OneAhead run ending input wider longer := by
  cases h with
  | returns a used rest split settled accepted result =>
      exact .returns a used rest split settled (returned _ accepted) result
  | fails error used rest split blamed begun result =>
      exact .fails error used rest split blamed (failed _ begun) result
  | stops limit result => exact .stops limit result

/-- Two runs that do the same on all inputs with the same front. -/
theorem congr {other : Reading α} (h : OneAhead other ending input whole front)
    (eq : ∀ ending' input', SameFront ending input ending' input' →
      run ending' input' = other ending' input') :
    OneAhead run ending input whole front := by
  cases h with
  | returns a used rest split settled accepted result =>
      subst split
      refine .returns a used rest rfl settled accepted fun ending' rest' same => ?_
      rw [eq _ _ (same.append used), result _ _ same]
  | fails error used rest split blamed begun result =>
      subst split
      refine .fails error used rest rfl blamed begun fun ending' rest' same => ?_
      rw [eq _ _ (same.append used), result _ _ same]
  | stops limit result => exact .stops limit ((eq _ _ (.refl _ _)).trans result)

/-- Returning without taking anything. -/
theorem ret (a : α) (settled : proceed ending input = .ok ()) (accepted : whole [])
    (result : ∀ ending' input', SameFront ending input ending' input' →
      run ending' input' = .ok (a, input')) :
    OneAhead run ending input whole front :=
  .returns a [] input rfl settled accepted result

/-- Blaming what is in front. -/
theorem fail (fault : Option Token → GrammarFault)
    (other : ∀ token? ident, fault token? ≠ .notCalled ident) (settled : proceed ending input = .ok ())
    (begun : front [])
    (result : ∀ ending' input', SameFront ending input ending' input' →
      run ending' input' =
        .error (.grammar (fault (found ending' input').1) (found ending' input').2)) :
    OneAhead run ending input whole front := by
  refine .fails (.grammar (fault (found ending input).1) (found ending input).2) [] input rfl
    (.here settled (other _)) begun fun ending' input' same => ?_
  rw [List.nil_append, result ending' input' same, same.found_eq]

/-- Reading something, and then something else behind it. -/
theorem bind {first : Reading β} (next : β → Reading α) {firstWhole firstFront : List Token → Prop}
    (step : ∀ ending' input', SameFront ending input ending' input' →
      run ending' input' = (do
        let reply ← first ending' input'
        next reply.1 ending' reply.2))
    (start : OneAhead first ending input firstWhole firstFront)
    (failed : ∀ ts, firstFront ts → front ts)
    (later : ∀ b used rest, input = used ++ rest → proceed ending rest = .ok () →
      firstWhole (used.map Lexeme.token) → OneAhead (next b) ending rest
        (fun ts => whole (used.map Lexeme.token ++ ts)) fun ts => front (used.map Lexeme.token ++ ts)) :
    OneAhead run ending input whole front := by
  cases start with
  | returns b used rest split settled accepted result =>
      subst split
      cases later b used rest rfl settled accepted with
      | returns a more behind split settled' accepted result' =>
          subst split
          refine .returns a (used ++ more) behind (List.append_assoc ..).symm settled' ?_ ?_
          · rw [List.map_append]
            exact accepted
          · intro ending' rest' same
            rw [List.append_assoc, step _ _ ((same.append more).append used),
              result _ _ (same.append more)]
            exact result' ending' rest' same
      | fails error more behind split blamed begun result' =>
          subst split
          refine .fails error (used ++ more) behind (List.append_assoc ..).symm (blamed.append used) ?_ ?_
          · rw [List.map_append]
            exact begun
          · intro ending' rest' same
            rw [List.append_assoc, step _ _ ((same.append more).append used),
              result _ _ (same.append more)]
            exact result' ending' rest' same
      | stops limit stopped =>
          refine .stops limit ?_
          rw [step _ _ (.refl _ _), result _ _ (.refl _ _)]
          exact stopped
  | fails error used rest split blamed begun result =>
      subst split
      refine .fails error used rest rfl blamed (failed _ begun) fun ending' rest' same => ?_
      rw [step _ _ (same.append used), result _ _ same]
      rfl
  | stops limit stopped =>
      refine .stops limit ?_
      rw [step _ _ (.refl _ _), stopped]
      rfl

/-- Takes the lexeme in front, unless the place behind it is unreadable. -/
def advance (ending : Ending) (input : List Lexeme) : Except SyntaxError (Unit × List Lexeme) := do
  proceed ending input.tail
  return ((), input.tail)

theorem oneAhead_advance (lexeme : Lexeme) (ending : Ending) (rest : List Lexeme) :
    OneAhead advance ending (lexeme :: rest) (· = [lexeme.token]) (· = [lexeme.token]) := by
  cases settled : proceed ending rest with
  | error error =>
      obtain ⟨rfl, place, rfl, rfl⟩ := exists_of_proceed_eq_error settled
      refine .fails (.token place) [lexeme] [] rfl (.token rfl rfl) rfl fun ending' rest' same => ?_
      cases same
      rfl
  | ok _ =>
      refine .returns () [lexeme] rest rfl settled rfl fun ending' rest' same => ?_
      rw [List.singleton_append, advance, List.tail_cons, same.proceed_eq, settled]
      rfl

/-- Taking the lexeme in front, unless the place behind it is unreadable. -/
theorem take {lexeme : Lexeme} {rest : List Lexeme} (next : Reading α)
    (step : ∀ ending' rest', run ending' (lexeme :: rest') = (do
      proceed ending' rest'
      next ending' rest'))
    (begun : front [lexeme.token])
    (later : proceed ending rest = .ok () → OneAhead next ending rest
      (fun ts => whole (lexeme.token :: ts)) fun ts => front (lexeme.token :: ts)) :
    OneAhead run ending (lexeme :: rest) whole front := by
  refine bind (fun _ => next) ?_ (oneAhead_advance lexeme ending rest) ?_ ?_
  · intro ending' input' same
    cases same with
    | cons _ _ _ rest' =>
        rw [step, advance, List.tail_cons]
        cases proceed ending' rest' with
        | error error => rfl
        | ok _ => rfl
  · rintro ts rfl
    exact begun
  · intro _ used rest' split settled tokens
    obtain ⟨first, rfl, token⟩ := List.map_eq_singleton_iff.1 tokens
    cases split
    exact later settled

end OneAhead

end FormulaSheet
