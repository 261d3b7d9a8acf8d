import FormulaSheet.Number.Display
import FormulaSheet.Number.Read
import FormulaSheet.Text.Quoted

/-!
# Tokens

The words of a formula: number and text literals, references, names of functions, and symbols. The
power symbol has two spellings. `readToken` reads the token that starts with a character that is not
blank, and tells how many characters it takes up.
-/

namespace FormulaSheet

/-- The operators and marks of a formula. -/
inductive Symbol where
  | plus
  | minus
  | times
  | slash
  | percent
  | power
  | less
  | lessEqual
  | greater
  | greaterEqual
  | notEqual
  | equal
  | ampersand
  | openParen
  | closeParen
  | comma
  | colon
  deriving DecidableEq, Repr

/-- The word for a symbol in messages. -/
def Symbol.word : Symbol → String
  | plus => "PLUS"
  | minus => "MINUS"
  | times => "MULTIPLY"
  | slash => "DIVIDE"
  | percent => "MODULO"
  | power => "POWER"
  | less => "LESS"
  | lessEqual => "LESS_EQUAL"
  | greater => "GREATER"
  | greaterEqual => "GREATER_EQUAL"
  | notEqual => "NOT_EQUAL"
  | equal => "EQUAL"
  | ampersand => "AMPERSAND"
  | openParen => "LPAREN"
  | closeParen => "RPAREN"
  | comma => "COMMA"
  | colon => "COLON"

/-- A token. References and names are in upper case. -/
inductive Token where
  | number (x : Float)
  | text (s : String)
  | cell (ref : String)
  | name (ident : String)
  | symbol (s : Symbol)
  deriving DecidableEq

/-- The word for the kind of a token in messages. -/
def Token.kind : Token → String
  | number _ => "NUMBER"
  | text _ => "STRING"
  | cell _ => "CELL_REF"
  | name _ => "IDENTIFIER"
  | symbol s => s.word

/-- A token as messages show it: its kind, and what it holds in parentheses. -/
def Token.describe (token : Token) : String :=
  match token with
  | number x => s!"{token.kind}({Number.literal x})"
  | text s | cell s | name s => s!"{token.kind}({Text.quoted s})"
  | symbol s => s.word

/-- The word for the end of a formula in messages. -/
def endWord : String := "EOF"

/-- A token, or the end of the formula, as messages show it. -/
def describeFound : Option Token → String
  | some token => token.describe
  | none => endWord

/-- Why no token can be read. -/
inductive TokenFault where
  /-- A character that starts no token. -/
  | unexpected (c : Char)
  /-- A text literal without its closing mark. -/
  | unterminated
  deriving DecidableEq, Repr

/-- The message of an unreadable token. -/
def TokenFault.message : TokenFault → String
  | unexpected c => s!"Unexpected character: {Text.quoted (String.ofList [c])}"
  | unterminated => "Unterminated string literal"

/-- The characters of references and names behind the first letter. -/
def isWordChar (c : Char) : Bool :=
  c.isAlphanum || c == '_'

/-- Capital letters and then digits, at least one of each. -/
def isReferenceWord (word : List Char) : Bool :=
  let digits := word.dropWhile Char.isUpper
  !(word.takeWhile Char.isUpper).isEmpty && !digits.isEmpty && digits.all Char.isDigit

/-- The token of a word in upper case. -/
def Token.ofWord (word : List Char) : Token :=
  if isReferenceWord word then .cell (String.ofList word) else .name (String.ofList word)

/-- Reads a number literal: digits with an optional point and optional digits behind it. -/
def readNumber (cs : List Char) : Token × Nat :=
  let whole := cs.takeWhile Char.isDigit
  match cs.dropWhile Char.isDigit with
  | '.' :: rest =>
    let fraction := rest.takeWhile Char.isDigit
    (.number (Number.ofDigits false whole fraction 0), whole.length + 1 + fraction.length)
  | _ => (.number (Number.ofDigits false whole [] 0), whole.length)

/-- Reads a reference or a name, in any mixture of cases. -/
def readWord (cs : List Char) : Token × Nat :=
  let word := cs.takeWhile isWordChar
  (Token.ofWord (word.map Char.toUpper), word.length)

/--
Reads a text literal behind its opening mark: what it holds and how many characters it takes up,
with the closing mark. Two marks in a row stand for one mark of the text.
-/
def readText? : List Char → Option (List Char × Nat)
  | [] => none
  | '"' :: '"' :: rest => (readText? rest).map fun (held, n) => ('"' :: held, n + 2)
  | c :: rest =>
    if c = '"' then some ([], 1) else (readText? rest).map fun (held, n) => (c :: held, n + 1)

/-- Reads a symbol, of two characters if possible, and tells how many it has. -/
def readSymbol? : List Char → Option (Symbol × Nat)
  | '*' :: '*' :: _ => some (.power, 2)
  | '*' :: _ => some (.times, 1)
  | '<' :: '=' :: _ => some (.lessEqual, 2)
  | '<' :: '>' :: _ => some (.notEqual, 2)
  | '<' :: _ => some (.less, 1)
  | '>' :: '=' :: _ => some (.greaterEqual, 2)
  | '>' :: _ => some (.greater, 1)
  | '+' :: _ => some (.plus, 1)
  | '-' :: _ => some (.minus, 1)
  | '/' :: _ => some (.slash, 1)
  | '%' :: _ => some (.percent, 1)
  | '^' :: _ => some (.power, 1)
  | '=' :: _ => some (.equal, 1)
  | '&' :: _ => some (.ampersand, 1)
  | '(' :: _ => some (.openParen, 1)
  | ')' :: _ => some (.closeParen, 1)
  | ',' :: _ => some (.comma, 1)
  | ':' :: _ => some (.colon, 1)
  | _ => none

/-- Reads the token that starts with `c`, and tells how many characters it takes up. -/
def readToken (c : Char) (rest : List Char) : Except TokenFault (Token × Nat) :=
  if c.isDigit then .ok (readNumber (c :: rest))
  else if c.isAlpha then .ok (readWord (c :: rest))
  else if c = '"' then
    match readText? rest with
    | some (held, n) => .ok (.text (String.ofList held), n + 1)
    | none => .error .unterminated
  else
    match readSymbol? (c :: rest) with
    | some (s, n) => .ok (.symbol s, n)
    | none => .error (.unexpected c)

end FormulaSheet
