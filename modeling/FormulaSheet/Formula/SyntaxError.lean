import FormulaSheet.Formula.Lexeme

/-!
# Errors of formulas

A text fails to be a formula where no token can be read, where a token does not fit, or where
expressions are nested beyond the limit. The first two tell the position.
-/

namespace FormulaSheet

/-- Why a token, or the end of the text, does not fit. -/
inductive GrammarFault where
  /-- A token behind a whole formula. -/
  | trailing (found : Token)
  /-- No closing parenthesis where one has to stand. -/
  | unclosed (found : Option Token)
  /-- No reference behind the colon of a range. -/
  | openRange
  /-- A name that is not called. -/
  | notCalled (ident : String)
  /-- No operand where one has to stand. -/
  | noOperand (found : Option Token)
  deriving DecidableEq

/-- The message of a token that does not fit. -/
def GrammarFault.message : GrammarFault → String
  | trailing found => s!"Unexpected token at end: {found.describe}"
  | unclosed found => s!"Expected {Symbol.closeParen.word}, found {describeFound found}"
  | openRange => "Expected cell reference after ':'"
  | notCalled ident => s!"Unknown identifier: {ident}"
  | noOperand found => s!"Unexpected token: {describeFound found}"

/-- Why a text is no formula. -/
inductive SyntaxError where
  /-- No token can be read. -/
  | token (error : TokenError)
  /-- A token, or the end of the text, does not fit. -/
  | grammar (fault : GrammarFault) (position : Nat)
  /-- Expressions are nested deeper than the limit. -/
  | tooDeep (limit : Int)
  deriving DecidableEq

/-- The message of a text that is no formula. -/
def SyntaxError.message : SyntaxError → String
  | token error => error.fault.message
  | grammar fault _ => fault.message
  | tooDeep limit => s!"Expression nested deeper than {limit} levels"

end FormulaSheet
