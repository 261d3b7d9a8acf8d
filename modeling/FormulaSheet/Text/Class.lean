/-!
# Blank characters and digits

A class of characters is given by a table of closed intervals of code points, which is read through
`inTable` only.

Blanks separate the tokens of a formula, may stand around the colon of a range, and are removed from both
ends of a text by `strip`. They are the white space of Unicode together with the four information
separators `U+001C` to `U+001F`.

Decimal digits are those of every script. Each interval of their table starts with a zero and runs through
whole decades, so the value of a digit is its distance from the start, modulo ten. References and number
literals of a formula use the ASCII digits only.

* `strip_eq_self_of_ends` says that a text whose two ends are no blanks is left alone.
* `digitsValue_naturalDigits` says that the digits of a number, read again, give the number.
-/

namespace FormulaSheet
namespace Text

/-! ### Tables -/

/-- A table of closed intervals of code points. -/
abbrev Table := List (Nat × Nat)

/-- A code point belongs to a table when one of its intervals holds it. -/
def inTable (table : Table) (n : Nat) : Bool :=
  table.any fun interval => interval.1 ≤ n && n ≤ interval.2

/-! ### Blanks -/

/-- The intervals of blank code points. -/
def blankTable : Table :=
  [(0x9, 0xd), (0x1c, 0x20), (0x85, 0x85), (0xa0, 0xa0), (0x1680, 0x1680), (0x2000, 0x200a),
    (0x2028, 0x2029), (0x202f, 0x202f), (0x205f, 0x205f), (0x3000, 0x3000)]

/-- A character that separates tokens and is stripped from the ends of a text. -/
def isBlank (c : Char) : Bool :=
  inTable blankTable c.toNat

/-- Removes the blanks at the front. -/
def stripFront (cs : List Char) : List Char :=
  cs.dropWhile isBlank

/-- Removes the blanks at the back. -/
def stripBack (cs : List Char) : List Char :=
  (cs.reverse.dropWhile isBlank).reverse

/-- Removes the blanks at both ends. -/
def strip (cs : List Char) : List Char :=
  stripBack (stripFront cs)

@[simp] theorem strip_nil : strip [] = [] := rfl

theorem stripFront_of_head {c : Char} {cs : List Char} (h : isBlank c = false) :
    stripFront (c :: cs) = c :: cs := by
  simp [stripFront, h]

theorem stripBack_of_last {c : Char} {cs : List Char} (h : isBlank c = false) :
    stripBack (cs ++ [c]) = cs ++ [c] := by
  simp [stripBack, h]

/-- Nothing is stripped from a text that neither starts nor ends with a blank. -/
theorem strip_eq_self_of_ends {cs : List Char}
    (front : ∀ c ∈ cs.head?, isBlank c = false)
    (back : ∀ c ∈ cs.getLast?, isBlank c = false) :
    strip cs = cs := by
  have first : stripFront cs = cs := by
    cases cs with
    | nil => rfl
    | cons c rest => exact stripFront_of_head (front c (by simp))
  rw [strip, first]
  rcases List.eq_nil_or_concat cs with rfl | ⟨init, last, rfl⟩
  · rfl
  · rw [List.concat_eq_append] at back ⊢
    exact stripBack_of_last (back last (by simp))

/-! ### Digits -/

/-- The intervals of decimal digits, each made of whole decades from zero to nine. -/
def digitTable : Table := [
  (0x30, 0x39), (0x660, 0x669), (0x6f0, 0x6f9), (0x7c0, 0x7c9), (0x966, 0x96f), (0x9e6, 0x9ef),
  (0xa66, 0xa6f), (0xae6, 0xaef), (0xb66, 0xb6f), (0xbe6, 0xbef), (0xc66, 0xc6f),
  (0xce6, 0xcef), (0xd66, 0xd6f), (0xde6, 0xdef), (0xe50, 0xe59), (0xed0, 0xed9),
  (0xf20, 0xf29), (0x1040, 0x1049), (0x1090, 0x1099), (0x17e0, 0x17e9), (0x1810, 0x1819),
  (0x1946, 0x194f), (0x19d0, 0x19d9), (0x1a80, 0x1a89), (0x1a90, 0x1a99), (0x1b50, 0x1b59),
  (0x1bb0, 0x1bb9), (0x1c40, 0x1c49), (0x1c50, 0x1c59), (0xa620, 0xa629), (0xa8d0, 0xa8d9),
  (0xa900, 0xa909), (0xa9d0, 0xa9d9), (0xa9f0, 0xa9f9), (0xaa50, 0xaa59), (0xabf0, 0xabf9),
  (0xff10, 0xff19), (0x104a0, 0x104a9), (0x10d30, 0x10d39), (0x11066, 0x1106f),
  (0x110f0, 0x110f9), (0x11136, 0x1113f), (0x111d0, 0x111d9), (0x112f0, 0x112f9),
  (0x11450, 0x11459), (0x114d0, 0x114d9), (0x11650, 0x11659), (0x116c0, 0x116c9),
  (0x11730, 0x11739), (0x118e0, 0x118e9), (0x11950, 0x11959), (0x11c50, 0x11c59),
  (0x11d50, 0x11d59), (0x11da0, 0x11da9), (0x16a60, 0x16a69), (0x16ac0, 0x16ac9),
  (0x16b50, 0x16b59), (0x1d7ce, 0x1d7ff), (0x1e140, 0x1e149), (0x1e2f0, 0x1e2f9),
  (0x1e950, 0x1e959), (0x1fbf0, 0x1fbf9)]

/-- The value of a decimal digit of any script. -/
def decimalDigit? (c : Char) : Option Nat :=
  (digitTable.find? fun interval => interval.1 ≤ c.toNat && c.toNat ≤ interval.2).map
    fun interval => (c.toNat - interval.1) % 10

/-- The value that an ASCII digit stands for; the caller knows that it is one. -/
def digitValue (c : Char) : Nat :=
  c.toNat - 48

/-- The ASCII digit of a value below ten. -/
def digitChar (d : Nat) : Char :=
  Char.ofNat (48 + d)

/-- The number that a run of ASCII digits spells. -/
def digitsValue (cs : List Char) : Nat :=
  cs.foldl (fun n c => 10 * n + digitValue c) 0

/-- Puts the decimal digits of a number in front of `tail`. -/
def digitsOnto (n : Nat) (tail : List Char) : List Char :=
  if n < 10 then digitChar n :: tail
  else digitsOnto (n / 10) (digitChar (n % 10) :: tail)

/-- The decimal digits of a number, the most significant one first. -/
def naturalDigits (n : Nat) : List Char :=
  digitsOnto n []

@[simp] theorem digitsValue_nil : digitsValue [] = 0 := rfl

@[simp] theorem digitsValue_concat (cs : List Char) (c : Char) :
    digitsValue (cs ++ [c]) = 10 * digitsValue cs + digitValue c := by
  simp [digitsValue]

theorem digitValue_digitChar {d : Nat} (h : d < 10) : digitValue (digitChar d) = d := by
  match d, h with
  | 0, _ | 1, _ | 2, _ | 3, _ | 4, _ | 5, _ | 6, _ | 7, _ | 8, _ | 9, _ => rfl

theorem isDigit_digitChar {d : Nat} (h : d < 10) : (digitChar d).isDigit = true := by
  match d, h with
  | 0, _ | 1, _ | 2, _ | 3, _ | 4, _ | 5, _ | 6, _ | 7, _ | 8, _ | 9, _ => rfl

theorem digitsOnto_of_lt {n : Nat} (h : n < 10) (tail : List Char) :
    digitsOnto n tail = digitChar n :: tail := by
  rw [digitsOnto, if_pos h]

theorem digitsOnto_of_ge {n : Nat} (h : ¬ n < 10) (tail : List Char) :
    digitsOnto n tail = digitsOnto (n / 10) (digitChar (n % 10) :: tail) := by
  rw [digitsOnto, if_neg h]

theorem digitsOnto_eq_append (n : Nat) (tail : List Char) :
    digitsOnto n tail = naturalDigits n ++ tail := by
  induction n using Nat.strongRecOn generalizing tail with
  | ind n ih =>
    by_cases h : n < 10
    · rw [naturalDigits, digitsOnto_of_lt h, digitsOnto_of_lt h]
      rfl
    · rw [naturalDigits, digitsOnto_of_ge h, digitsOnto_of_ge h, ih _ (by omega),
        ih _ (by omega) [digitChar (n % 10)], List.append_assoc]
      rfl

/-- The last digit of a number stands behind the digits of its tenth part. -/
theorem naturalDigits_of_ge {n : Nat} (h : ¬ n < 10) :
    naturalDigits n = naturalDigits (n / 10) ++ [digitChar (n % 10)] := by
  rw [naturalDigits, digitsOnto_of_ge h, digitsOnto_eq_append]

theorem naturalDigits_of_lt {n : Nat} (h : n < 10) : naturalDigits n = [digitChar n] := by
  rw [naturalDigits, digitsOnto_of_lt h]

/-- The digits of a number spell it. -/
theorem digitsValue_naturalDigits (n : Nat) : digitsValue (naturalDigits n) = n := by
  induction n using Nat.strongRecOn with
  | ind n ih =>
    by_cases h : n < 10
    · simp [naturalDigits_of_lt h, digitsValue, digitValue_digitChar h]
    · rw [naturalDigits_of_ge h, digitsValue_concat, ih _ (by omega),
        digitValue_digitChar (Nat.mod_lt _ (by decide))]
      omega

theorem isDigit_of_mem_naturalDigits {n : Nat} {c : Char} (h : c ∈ naturalDigits n) :
    c.isDigit = true := by
  induction n using Nat.strongRecOn with
  | ind n ih =>
    by_cases small : n < 10
    · rw [naturalDigits_of_lt small, List.mem_singleton] at h
      exact h ▸ isDigit_digitChar small
    · rw [naturalDigits_of_ge small, List.mem_append, List.mem_singleton] at h
      rcases h with front | rfl
      · exact ih _ (by omega) front
      · exact isDigit_digitChar (Nat.mod_lt _ (by decide))

theorem naturalDigits_ne_nil (n : Nat) : naturalDigits n ≠ [] := by
  by_cases h : n < 10
  · simp [naturalDigits_of_lt h]
  · simp [naturalDigits_of_ge h]

end Text
end FormulaSheet
