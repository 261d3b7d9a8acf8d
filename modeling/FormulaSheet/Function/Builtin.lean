import FormulaSheet.Function.Condition
import FormulaSheet.Function.Math
import FormulaSheet.Function.World

/-!
# Functions that are built in

`Builtin` lists them, `Builtin.name` gives the name by which a formula calls each of them, and
`Builtin.run` calls it. `RAND`, `RANDBETWEEN` and `GET` ask the world, all others compute their result.
-/

namespace FormulaSheet

/-- The functions that every sheet knows. -/
inductive Builtin where
  | sum
  | average
  | minimum
  | maximum
  | count
  | countFilled
  | choose
  | all
  | any
  | negate
  | absolute
  | ceiling
  | floor
  | integer
  | exponential
  | sign
  | squareRoot
  | naturalLogarithm
  | logarithm
  | round
  | modulo
  | power
  | concat
  | length
  | upper
  | lower
  | trim
  | code
  | left
  | right
  | middle
  | find
  | substitute
  | replace
  | repeated
  | exact
  | proper
  | clean
  | character
  | text
  | value
  | numberValue
  | isBlank
  | isNumber
  | isText
  | kind
  | sparkline
  | random
  | randomBetween
  | get
  deriving DecidableEq, Repr

namespace Builtin

/-- All functions that are built in. -/
def list : List Builtin :=
  [.sum, .average, .minimum, .maximum, .count, .countFilled, .choose, .all, .any, .negate,
    .absolute, .ceiling, .floor, .integer, .exponential, .sign, .squareRoot, .naturalLogarithm,
    .logarithm, .round, .modulo, .power, .concat, .length, .upper, .lower, .trim, .code, .left,
    .right, .middle, .find, .substitute, .replace, .repeated, .exact, .proper, .clean,
    .character, .text, .value, .numberValue, .isBlank, .isNumber, .isText, .kind, .sparkline,
    .random, .randomBetween, .get]

/-- The name of a function. -/
def name : Builtin → String
  | sum => "SUM"
  | average => "AVERAGE"
  | minimum => "MIN"
  | maximum => "MAX"
  | count => "COUNT"
  | countFilled => "COUNTA"
  | choose => "IF"
  | all => "AND"
  | any => "OR"
  | negate => "NOT"
  | absolute => "ABS"
  | ceiling => "CEILING"
  | floor => "FLOOR"
  | integer => "INT"
  | exponential => "EXP"
  | sign => "SIGN"
  | squareRoot => "SQRT"
  | naturalLogarithm => "LN"
  | logarithm => "LOG"
  | round => "ROUND"
  | modulo => "MOD"
  | power => "POWER"
  | concat => "CONCAT"
  | length => "LEN"
  | upper => "UPPER"
  | lower => "LOWER"
  | trim => "TRIM"
  | code => "CODE"
  | left => "LEFT"
  | right => "RIGHT"
  | middle => "MID"
  | find => "FIND"
  | substitute => "SUBSTITUTE"
  | replace => "REPLACE"
  | repeated => "REPT"
  | exact => "EXACT"
  | proper => "PROPER"
  | clean => "CLEAN"
  | character => "CHAR"
  | text => "TEXT"
  | value => "VALUE"
  | numberValue => "NUMBERVALUE"
  | isBlank => "ISBLANK"
  | isNumber => "ISNUMBER"
  | isText => "ISTEXT"
  | kind => "TYPE"
  | sparkline => "SPARKLINE"
  | random => "RAND"
  | randomBetween => "RANDBETWEEN"
  | get => "GET"

/-- The function with a name in upper case. -/
def ofName? (key : String) : Option Builtin :=
  list.find? (·.name == key)

/-- Calls a function. -/
def run {σ : Type} (world : World σ) : Builtin → SheetFunction σ
  | sum => Function.computed Function.sum
  | average => Function.computed Function.average
  | minimum => Function.computed Function.minimum
  | maximum => Function.computed Function.maximum
  | count => Function.computed Function.count
  | countFilled => Function.computed Function.countFilled
  | choose => Function.computed Function.choose
  | all => Function.computed Function.all
  | any => Function.computed Function.any
  | negate => Function.computed Function.negate
  | absolute => Function.computed Function.absolute
  | ceiling => Function.computed Function.ceiling
  | floor => Function.computed Function.floor
  | integer => Function.computed Function.integer
  | exponential => Function.computed Function.exponential
  | sign => Function.computed Function.sign
  | squareRoot => Function.computed Function.squareRoot
  | naturalLogarithm => Function.computed Function.naturalLogarithm
  | logarithm => Function.computed Function.logarithm
  | round => Function.computed Function.round
  | modulo => Function.computed Function.modulo
  | power => Function.computed Function.power
  | concat => Function.computed Function.concat
  | length => Function.computed Function.length
  | upper => Function.computed Function.upper
  | lower => Function.computed Function.lower
  | trim => Function.computed Function.trim
  | code => Function.computed Function.code
  | left => Function.computed Function.left
  | right => Function.computed Function.right
  | middle => Function.computed Function.middle
  | find => Function.computed Function.find
  | substitute => Function.computed Function.substitute
  | replace => Function.computed Function.replace
  | repeated => Function.computed Function.repeated
  | exact => Function.computed Function.exact
  | proper => Function.computed Function.proper
  | clean => Function.computed Function.clean
  | character => Function.computed Function.character
  | text => Function.computed Function.text
  | value => Function.computed Function.value
  | numberValue => Function.computed Function.value
  | isBlank => Function.computed Function.isBlankValue
  | isNumber => Function.computed Function.isNumberValue
  | isText => Function.computed Function.isTextValue
  | kind => Function.computed Function.kind
  | sparkline => Function.computed Function.sparkline
  | random => Function.random world
  | randomBetween => Function.randomBetween world
  | get => Function.get world

theorem mem_list (b : Builtin) : b ∈ list := by
  cases b <;> decide

/-- Every function is found by its name. -/
theorem ofName?_name (b : Builtin) : ofName? b.name = some b := by
  cases b <;> decide +kernel

end Builtin

end FormulaSheet
