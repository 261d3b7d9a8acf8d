/-!
# Doubles as exact numbers

A double is taken apart into a sign, a whole mantissa and a power of two, and put together again from
the quotient of two natural numbers. Everything that has to be exact, such as reading and printing in
decimal, rounding to integers and remainders, is done on these parts in whole numbers.

* `parts` gives the exact value of a double.
* `nearest` gives the double nearest to a quotient, the even one of two that are equally near.
-/

namespace FormulaSheet
namespace Number

/-- What a double stands for: a finite one is `mantissa * 2 ^ exponent` with its sign. -/
inductive Parts where
  /-- No number. -/
  | nan
  /-- An infinity. -/
  | infinite (negative : Bool)
  /-- An exact value, with zero of either sign. -/
  | finite (negative : Bool) (mantissa : Nat) (exponent : Int)
  deriving DecidableEq, Repr

/-- The least exponent of a unit in the last place. -/
def leastExponent : Int := -1074

/-- The bit pattern of the positive infinity, and the least one that is not finite. -/
def infinityBits : Nat := 0x7ff * Nat.pow 2 52

/-- The parts of a bit pattern: sign, exponent field and fraction. -/
def partsOfBits (bits : Nat) : Parts :=
  let negative := bits / Nat.pow 2 63 % 2 == 1
  let field : Nat := bits / Nat.pow 2 52 % Nat.pow 2 11
  let fraction : Nat := bits % Nat.pow 2 52
  if field = 0x7ff then
    if fraction = 0 then .infinite negative else .nan
  else if field = 0 then .finite negative fraction leastExponent
  else .finite negative (Nat.pow 2 52 + fraction) (field - 1 + leastExponent)

/-- The parts of a double. -/
def parts (x : Float) : Parts :=
  partsOfBits x.toBits.toNat

/-- The double with a sign and the bits of a magnitude. -/
def ofSignAndBits (negative : Bool) (magnitude : Nat) : Float :=
  Float.ofBits (UInt64.ofNat (magnitude + if negative then Nat.pow 2 63 else 0))

/-- The zero of a sign. -/
def zero (negative : Bool) : Float :=
  ofSignAndBits negative 0

/-- The infinity of a sign. -/
def infinity (negative : Bool) : Float :=
  ofSignAndBits negative infinityBits

/-- The natural number nearest to a quotient, the even one of two that are equally near. -/
def roundHalfEven (num den : Nat) : Nat :=
  let quotient := num / den
  let rest := num % den
  if 2 * rest < den then quotient
  else if den < 2 * rest then quotient + 1
  else quotient + quotient % 2

/-- The power of two at or below a positive quotient: `2 ^ e ≤ num / den < 2 ^ (e + 1)`. -/
def binaryMagnitude (num den : Nat) : Int :=
  let guess := (num.log2 : Int) - den.log2
  if den * Nat.pow 2 guess.toNat ≤ num * Nat.pow 2 (-guess).toNat then guess else guess - 1

/-- The exponent of the unit in the last place of the doubles around a positive quotient. -/
def unitExponent (num den : Nat) : Int :=
  max (binaryMagnitude num den - 52) leastExponent

/--
The bits of the magnitude nearest to a positive quotient. Counted in units in the last place, the
mantissa and the exponent above the least one make up the pattern together, and a mantissa that is
rounded up to the next power of two carries into the exponent by itself.
-/
def nearestBits (num den : Nat) : Nat :=
  let e := unitExponent num den
  let mantissa := roundHalfEven (num * Nat.pow 2 (-e).toNat) (den * Nat.pow 2 e.toNat)
  min ((e - leastExponent).toNat * Nat.pow 2 52 + mantissa) infinityBits

/-- The double nearest to the quotient of two natural numbers, with a sign. -/
def nearest (negative : Bool) (num den : Nat) : Float :=
  if num = 0 then zero negative else ofSignAndBits negative (nearestBits num den)

/-- The double nearest to `mantissa * 2 ^ exponent`, with a sign. -/
def ofBinary (negative : Bool) (mantissa : Nat) (exponent : Int) : Float :=
  nearest negative (mantissa * Nat.pow 2 exponent.toNat) (Nat.pow 2 (-exponent).toNat)

/-- The double nearest to an integer. -/
def ofInteger (n : Int) : Float :=
  nearest (n < 0) n.natAbs 1

@[simp] theorem roundHalfEven_one (n : Nat) : roundHalfEven n 1 = n := by
  simp [roundHalfEven, Nat.mod_one]

@[simp] theorem nearest_zero (negative : Bool) (den : Nat) :
    nearest negative 0 den = zero negative := by
  simp [nearest]

end Number
end FormulaSheet
