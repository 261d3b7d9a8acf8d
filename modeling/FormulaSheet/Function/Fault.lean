import FormulaSheet.Number.Fault
import FormulaSheet.Number.Display
import FormulaSheet.Text.Quoted

/-!
# Failed calls

The reasons for which a function has no result for its arguments, with their messages.
-/

namespace FormulaSheet

/-- The most characters that `REPT` produces. -/
def textLimit : Nat := 32767

/-- Why a function has no result. -/
inductive CallFault where
  /-- A number of arguments other than the only one accepted. -/
  | argumentCount (name : String) (count : Nat)
  /-- No argument where any number of them is accepted. -/
  | noArguments (name : String)
  /-- A number of arguments other than the two accepted. -/
  | argumentChoice (name : String) (fewer more : Nat)
  /-- A calculation without a result. -/
  | number (fault : Number.Fault)
  /-- The square root of a negative number. -/
  | negativeSquareRoot
  /-- The logarithm of a number that is not positive. -/
  | notPositive (name : String)
  /-- A base that logarithms cannot have. -/
  | logarithmBase
  /-- A remainder for the divisor zero. -/
  | zeroDivisor
  /-- No first character to give the code of. -/
  | noCharacter
  /-- A search that starts outside of the text. -/
  | startOutside
  /-- A text that does not occur in the other one. -/
  | notFound (needle : String)
  /-- A replacement that starts in front of the text. -/
  | replaceStart
  /-- A replacement of fewer than no characters. -/
  | replaceCount
  /-- Fewer than no repetitions. -/
  | negativeRepetition
  /-- More characters than a repetition may have. -/
  | longRepetition
  /-- A number that is the code of no character. -/
  | codePoint (x : Float)
  /-- A text that is no number. -/
  | notANumber (text : String)
  /-- An empty address. -/
  | noUrl
  /-- An address that is not fetched from. -/
  | unsupportedUrl (url : String)
  /-- An address that could not be fetched. -/
  | fetchFailed (url message : String)
  /-- No integer between two bounds. -/
  | emptyInterval
  /-- A failure of a function that is not built in. -/
  | custom (category : Category) (message : String)
  deriving DecidableEq

namespace CallFault

/-- The category of a failed call. -/
def category : CallFault → Category
  | number fault => fault.category
  | custom category _ => category
  | _ => .argument

/-- The message of a failed call. -/
def message : CallFault → String
  | argumentCount name count =>
    s!"{name} requires exactly {count} " ++ if count = 1 then "argument" else "arguments"
  | noArguments name => s!"{name} requires at least one argument"
  | argumentChoice name fewer more => s!"{name} requires {fewer} or {more} arguments"
  | number fault => fault.message
  | negativeSquareRoot => "SQRT of negative number"
  | notPositive name => s!"{name} requires a positive argument"
  | logarithmBase => "LOG base must be positive and not 1"
  | zeroDivisor => "MOD by zero"
  | noCharacter => "CODE requires a non-empty string"
  | startOutside => "FIND start position is beyond the text"
  | notFound needle => s!"FIND: {Text.quoted needle} not found"
  | replaceStart => "REPLACE start position must be at least 1"
  | replaceCount => "REPLACE count must not be negative"
  | negativeRepetition => "REPT count must not be negative"
  | longRepetition => s!"REPT result longer than {textLimit} characters"
  | codePoint x => s!"CHAR: invalid code point {Number.plain x}"
  | notANumber text => s!"VALUE: cannot parse {Text.quoted text} as a number"
  | noUrl => "GET requires a non-empty URL"
  | unsupportedUrl url => s!"GET: unsupported URL {Text.quoted url}"
  | fetchFailed url message => s!"GET {url} failed: {message}"
  | emptyInterval => "RANDBETWEEN requires low <= high"
  | custom _ message => message

end CallFault

/-- A calculation as part of a call. -/
def calculate {α : Type} (result : Except Number.Fault α) : Except CallFault α :=
  result.mapError CallFault.number

@[simp] theorem calculate_ok {α : Type} (a : α) : calculate (.ok a) = .ok a := rfl

@[simp] theorem calculate_error {α : Type} (fault : Number.Fault) :
    calculate (.error fault : Except Number.Fault α) = .error (.number fault) := rfl

end FormulaSheet
