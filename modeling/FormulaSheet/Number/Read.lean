import FormulaSheet.Number.Binary
import FormulaSheet.Text.Class

/-!
# Numbers from text

A number is written with an optional sign as digits with an optional point and an optional exponent,
or as one of the words for an infinity and for no number. Digits may come from any script. It is read
as the double nearest to it.

`read?` reads such a text and nothing else: no blanks around it, no separators in it.
-/

namespace FormulaSheet
namespace Number

open Text (decimalDigit? digitChar digitsValue isBlank)

/--
The double nearest to `coefficient * 10 ^ exponent`. A positive number times `10 ^ 400` is beyond all
doubles, and one below `10 ^ (-400)` rounds to zero; deciding these first keeps the powers small.
-/
def ofDecimal (negative : Bool) (coefficient : Nat) (exponent : Int) : Float :=
  if coefficient = 0 then zero negative
  else if 400 < exponent then infinity negative
  else if exponent < -(401 + coefficient.log2) then zero negative
  else nearest negative (coefficient * Nat.pow 10 exponent.toNat) (Nat.pow 10 (-exponent).toNat)

/-- The number written with the digits `whole` in front of the point and `fraction` behind it. -/
def ofDigits (negative : Bool) (whole fraction : List Char) (exponent : Int) : Float :=
  ofDecimal negative (digitsValue (whole ++ fraction)) (exponent - fraction.length)

/-- Splits a sign off. -/
def splitSign : List Char → Bool × List Char
  | '-' :: rest => (true, rest)
  | '+' :: rest => (false, rest)
  | cs => (false, cs)

/-- Splits a point and the digits behind it off. -/
def splitFraction : List Char → List Char × List Char
  | '.' :: rest => (rest.takeWhile Char.isDigit, rest.dropWhile Char.isDigit)
  | cs => ([], cs)

/-- Reads an exponent: nothing, or the letter `e`, a sign and at least one digit. -/
def readExponent? : List Char → Option Int
  | [] => some 0
  | c :: rest =>
    let (negative, digits) := splitSign rest
    if c.toLower = 'e' ∧ digits ≠ [] ∧ digits.all Char.isDigit then
      some (if negative then -(digitsValue digits : Int) else digitsValue digits)
    else none

/-- Reads digits, with at least one in front of or behind the point, and an exponent. -/
def readDigits? (negative : Bool) (cs : List Char) : Option Float :=
  let whole := cs.takeWhile Char.isDigit
  let (fraction, rest) := splitFraction (cs.dropWhile Char.isDigit)
  if whole.isEmpty && fraction.isEmpty then none
  else (readExponent? rest).map (ofDigits negative whole fraction)

/-- The value of a word for an infinity or for no number, in any mixture of cases. -/
def readWord? (negative : Bool) (cs : List Char) : Option Float :=
  let word := cs.map Char.toLower
  if word = "inf".toList ∨ word = "infinity".toList then some (infinity negative)
  else if word = "nan".toList then some (Float.ofBits 0x7ff8000000000000)
  else none

/-- Writes a decimal digit of any script in ASCII. -/
def asciiDigit (c : Char) : Char :=
  ((decimalDigit? c).map digitChar).getD c

/-- Reads a number. -/
def read? (cs : List Char) : Option Float :=
  let (negative, magnitude) := splitSign (cs.map asciiDigit)
  readWord? negative magnitude <|> readDigits? negative magnitude

end Number
end FormulaSheet
