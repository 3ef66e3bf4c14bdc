import UnitLoader.Text.LetterTable

/-!
# Character classes

The three classes of characters that the unit language, unit names and settings are read with:
blanks, alphabetic characters and numeric characters, all of them the Unicode classes. Hexadecimal
digits are ASCII.

## Main definitions

* `UnitLoader.Text.isBlank`: the property *White_Space*.
* `UnitLoader.Text.isAlphabetic`: the property *Alphabetic*.
* `UnitLoader.Text.isNumeric`: the general categories of numbers.
* `UnitLoader.Text.hexDigit?`: the value of a hexadecimal digit.

## Main results

* `UnitLoader.Text.isBlank_of_isWhitespace`: core's blanks are blanks.
* `UnitLoader.Text.isAlphabetic_of_isAlpha`: ASCII letters are alphabetic.
* `UnitLoader.Text.isNumeric_of_isDigit`: ASCII digits are numeric.
-/

namespace UnitLoader.Text

/-- A blank is a character with the Unicode property *White_Space*. -/
def isBlank (c : Char) : Bool :=
  let n := c.toNat
  (9 ≤ n && n ≤ 13) || n == 0x20 || n == 0x85 || n == 0xa0 || n == 0x1680 ||
    (0x2000 ≤ n && n ≤ 0x200a) || n == 0x2028 || n == 0x2029 || n == 0x202f || n == 0x205f ||
    n == 0x3000

/-- Whether a code point lies in one of the ranges, ends included. -/
def inRanges (ranges : List (Nat × Nat)) (n : Nat) : Bool :=
  ranges.any fun r => r.1 ≤ n && n ≤ r.2

/-- An alphabetic character is an ASCII letter or a character in the table of the Unicode property
*Alphabetic*. -/
def isAlphabetic (c : Char) : Bool :=
  c.isAlpha || (0x80 ≤ c.toNat && alphabeticRanges.any (inRanges · c.toNat))

/-- A numeric character is an ASCII digit or a character in the table of the number categories. -/
def isNumeric (c : Char) : Bool :=
  c.isDigit || (0x80 ≤ c.toNat && inRanges numericRanges c.toNat)

/-- The value of a hexadecimal digit of either case. -/
def hexDigit? (c : Char) : Option Nat :=
  if c.isDigit then some (c.toNat - '0'.toNat)
  else if 'a' ≤ c && c ≤ 'f' then some (c.toNat - 'a'.toNat + 10)
  else if 'A' ≤ c && c ≤ 'F' then some (c.toNat - 'A'.toNat + 10)
  else none

/-! ## The ASCII classes -/

/-- An ASCII blank is a blank. -/
theorem isBlank_of_isWhitespace {c : Char} (h : c.isWhitespace = true) : isBlank c = true := by
  simp only [Char.isWhitespace, Bool.or_eq_true, decide_eq_true_eq] at h
  rcases h with ((h | h) | h) | h <;> subst h <;> decide

/-- An ASCII letter is a letter. -/
theorem isAlphabetic_of_isAlpha {c : Char} (h : c.isAlpha = true) : isAlphabetic c = true := by
  simp [isAlphabetic, h]

/-- An ASCII digit is numeric. -/
theorem isNumeric_of_isDigit {c : Char} (h : c.isDigit = true) : isNumeric c = true := by
  simp [isNumeric, h]

end UnitLoader.Text
