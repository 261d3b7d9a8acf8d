import FormulaSheet.Number.Integral
import FormulaSheet.Number.Shortest

/-!
# Numbers as text

Two ways to write a double.

* `plain` is what a cell shows: never an exponent, an integer without a point and in full, any other
  number by its shortest decimal.
* `literal` is what messages show: the shortest decimal with at least one digit behind the point, and
  with an exponent below `1e-04` and from `1e+16` on.
-/

namespace FormulaSheet
namespace Number

open Text (naturalDigits)

/-- A minus sign in front of what is negative. -/
def signText (negative : Bool) : List Char :=
  if negative then ['-'] else []

/-- A decimal without an exponent, with a point only if there are digits behind it. -/
def Decimal.positional (d : Decimal) : List Char :=
  let digits := naturalDigits d.coefficient
  let places := (-d.exponent).toNat
  if places = 0 then digits ++ List.replicate d.exponent.toNat '0'
  else if digits.length ≤ places then
    '0' :: '.' :: List.replicate (places - digits.length) '0' ++ digits
  else digits.take (digits.length - places) ++ '.' :: digits.drop (digits.length - places)

/-- An exponent with its sign and at least two digits. -/
def exponentText (exponent : Int) : List Char :=
  'e' :: (if exponent < 0 then '-' else '+') :: (naturalDigits exponent.natAbs).leftpad 2 '0'

/-- A decimal with one digit in front of the point and an exponent. -/
def Decimal.scientific (d : Decimal) : List Char :=
  let digits := naturalDigits d.coefficient
  let fraction := digits.drop 1
  digits.take 1 ++ (if fraction.isEmpty then [] else '.' :: fraction) ++
    exponentText (digits.length - 1 + d.exponent)

/-- The decimal exponents of the numbers that a literal writes without one. -/
def isPositional (exponent : Int) : Bool :=
  -4 ≤ exponent && exponent < 16

/-- A decimal as a literal: with digits behind the point, or with an exponent. -/
def Decimal.literal (d : Decimal) : List Char :=
  if isPositional ((naturalDigits d.coefficient).length - 1 + d.exponent) then
    d.positional ++ if 0 ≤ d.exponent then ['.', '0'] else []
  else d.scientific

/-- The decimal digits of an integer, behind its sign. -/
def integerText (n : Int) : List Char :=
  signText (n < 0) ++ naturalDigits n.natAbs

/-- A number as a cell shows it. -/
def plain (x : Float) : String :=
  String.ofList <|
    match parts x with
    | .nan => "NaN".toList
    | .infinite negative => signText negative ++ "inf".toList
    | .finite negative mantissa exponent =>
      if fractionPart mantissa exponent = 0 then
        integerText (withSign negative (wholePart mantissa exponent))
      else signText negative ++ (shortest mantissa exponent).positional

/-- A number as messages show it. -/
def literal (x : Float) : String :=
  String.ofList <|
    match parts x with
    | .nan => "nan".toList
    | .infinite negative => signText negative ++ "inf".toList
    | .finite negative mantissa exponent =>
      signText negative ++
        if mantissa = 0 then "0.0".toList else (shortest mantissa exponent).literal

end Number
end FormulaSheet
