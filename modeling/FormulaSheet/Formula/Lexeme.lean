import FormulaSheet.Formula.Token

/-!
# Lexemes

A lexeme is a token with its position in the text, counted in characters from zero. `lexemes` splits a
text into lexemes up to its end or up to the first place where no token can be read. `Ending` tells
which of the two it was, so that what stands in front of an unreadable place can still be used.
-/

namespace FormulaSheet

/-- A token at a position. -/
structure Lexeme where
  token : Token
  position : Nat
  deriving DecidableEq

/-- A place at which no token can be read. -/
structure TokenError where
  fault : TokenFault
  position : Nat
  deriving DecidableEq, Repr

/-- What stands behind the last lexeme. -/
inductive Ending where
  /-- The end of the text. -/
  | complete (position : Nat)
  /-- Something that is no token. -/
  | broken (error : TokenError)
  deriving DecidableEq, Repr

/-- The position of the ending. -/
def Ending.position : Ending → Nat
  | complete position => position
  | broken error => error.position

/-- The lexemes of `cs`, which starts at `position`, and what stands behind them. -/
def lexemesFrom (position : Nat) (cs : List Char) : List Lexeme × Ending :=
  let start := position + (cs.takeWhile Text.isBlank).length
  match _h : cs.dropWhile Text.isBlank with
  | [] => ([], .complete start)
  | c :: rest =>
    match readToken c rest with
    | .error fault => ([], .broken ⟨fault, start⟩)
    | .ok (token, n) =>
      let behind := lexemesFrom (start + n) (rest.drop (n - 1))
      (⟨token, start⟩ :: behind.1, behind.2)
termination_by cs.length
decreasing_by
  have shorter : (c :: rest).length ≤ cs.length :=
    _h ▸ (List.dropWhile_sublist _).length_le
  simp only [List.length_cons, List.length_drop] at shorter ⊢
  omega

/-- The lexemes of a text, and what stands behind them. -/
def lexemes (text : String) : List Lexeme × Ending :=
  lexemesFrom 0 text.toList

end FormulaSheet
