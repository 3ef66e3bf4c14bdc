import UnitLoader.Text.Character

/-!
# Modes of a pattern

A filter of the log may compare a field with a pattern. Here it only matters whether a text is a
pattern that can be searched for with no more than the characters of ASCII told apart: nothing
may need the cases, the words or the classes of all of Unicode, and where a pattern speaks of
bytes, nothing may match a part of a character.

## Main definitions

* `UnitLoader.Pattern.Mode`: what flags decide inside of a pattern.
* `UnitLoader.Pattern.Mode.skip`: what is passed over between the parts of a pattern.
* `UnitLoader.Pattern.Atom`: the smallest parts.
* `UnitLoader.Pattern.Mode.admits`, `UnitLoader.Pattern.Mode.admitsInClass`: which of them can be
  searched for.
-/

namespace UnitLoader.Pattern

open Text

/-- How a part of a pattern is read. -/
structure Mode where
  /-- A letter stands for both of its cases. -/
  ignoreCase : Bool := false
  /-- The pattern speaks of characters, otherwise of bytes. -/
  unicode : Bool := true
  /-- Blanks and comments may stand between the parts. -/
  spaced : Bool := false
  deriving DecidableEq, Repr

namespace Mode

/-! ## Blanks and comments -/

/-- A text without the blanks and comments at its beginning. A comment goes from a hash to the end
of the line; the text may begin inside of one. -/
def dropSpace (inComment : Bool) : List Char → List Char
  | [] => []
  | c :: cs =>
    if inComment then dropSpace (c ≠ '\n') cs
    else if isBlank c then dropSpace false cs
    else if c = '#' then dropSpace true cs
    else c :: cs

/-- A text without what is passed over at its beginning. -/
def skip (m : Mode) (text : List Char) : List Char :=
  if m.spaced then dropSpace false text else text

/-- The first character of a text that is no blank. Where comments may stand, a hash in front of
it is passed over, but not the rest of the comment. -/
def peek? (m : Mode) (text : List Char) : Option Char :=
  if m.spaced then
    match text.dropWhile isBlank with
    | '#' :: cs => (cs.dropWhile isBlank).head?
    | cs => cs.head?
  else text.head?

/-! ## Flags -/

/-- Whether a text between the opening of a group and a colon or its closing is a text of flags:
letters, of which none is repeated, and at most one hyphen, which is not the last. -/
def areFlags (flags : List Char) : Bool :=
  flags.all (· ∈ ['i', 'm', 's', 'U', 'u', 'R', 'x', '-']) && decide flags.Nodup &&
    flags.getLast? ≠ some '-'

/-- What flags say of the one with the given letter: on if it stands before the hyphen. -/
def setting? (flags : List Char) (letter : Char) : Option Bool :=
  if letter ∈ flags then some (letter ∈ flags.takeWhile (· ≠ '-')) else none

/-- The mode after flags. -/
def switch (m : Mode) (flags : List Char) : Mode where
  ignoreCase := (setting? flags 'i').getD m.ignoreCase
  unicode := (setting? flags 'u').getD m.unicode
  spaced := (setting? flags 'x').getD m.spaced

end Mode

/-! ## Atoms -/

/-- A smallest part of a pattern. -/
inductive Atom where
  /-- A character. It is marked if it is written as a byte. -/
  | char (c : Char) (asByte : Bool)
  /-- The class of the digits, blanks or word characters, or of all others. -/
  | shorthand (negated : Bool)
  /-- Any character of a line. -/
  | any
  /-- The beginning or the end of a text or a line. -/
  | edge
  /-- The beginning, the end or the inside of a word. -/
  | wordEdge
  deriving DecidableEq, Repr

/-- Whether an atom that stands alone can be searched for. -/
def Mode.admits (m : Mode) : Atom → Bool
  | .char c asByte => if m.unicode then !m.ignoreCase else !(asByte && 0x7f < c.toNat)
  | .shorthand negated => !m.unicode && !negated
  | .any => m.unicode
  | .edge => true
  | .wordEdge => !m.unicode

/-- Whether an atom can be searched for as a member of a class. -/
def Mode.admitsInClass (m : Mode) : Atom → Bool
  | .char c _ => if m.unicode then !m.ignoreCase else c.toNat ≤ 0x7f
  | .shorthand negated => !m.unicode && !negated
  | _ => false

/-! ## Escapes -/

/-- The number of exactly so many more hexadecimal digits, after a number that was read. -/
def hexNumber? (m : Mode) (n : Nat) : Nat → List Char → Option (Nat × List Char)
  | 0, text => some (n, text)
  | size + 1, text =>
    match m.skip text with
    | [] => none
    | c :: cs => (hexDigit? c).bind fun d => hexNumber? m (n * 16 + d) size cs

/-- The character whose number is written in so many hexadecimal digits. Two digits are a byte. -/
def hexChar? (m : Mode) (size : Nat) (text : List Char) : Option (Atom × List Char) := do
  let (n, rest) ← hexNumber? m 0 size text
  if n.isValidChar then return (.char (Char.ofNat n) (size = 2), rest) else none

/-- The atom that is written by a backslash and what the text begins with. Punctuation and controls
of ASCII stand for themselves; letters that mean nothing, digits and what is beyond ASCII may not be
escaped. Classes by the name of a property cannot be searched for at all. -/
def escape? (m : Mode) : List Char → Option (Atom × List Char)
  | [] => none
  | c :: cs =>
    if c = 'x' then hexChar? m 2 cs
    else if c = 'u' then hexChar? m 4 cs
    else if c = 'U' then hexChar? m 8 cs
    else if c ∈ ['d', 's', 'w'] then some (.shorthand false, cs)
    else if c ∈ ['D', 'S', 'W'] then some (.shorthand true, cs)
    else if c ∈ ['A', 'z'] then some (.edge, cs)
    else if c ∈ ['b', 'B', '<', '>'] then some (.wordEdge, cs)
    else if c = 'a' then some (.char '\x07' false, cs)
    else if c = 'f' then some (.char '\x0c' false, cs)
    else if c = 't' then some (.char '\t' false, cs)
    else if c = 'n' then some (.char '\n' false, cs)
    else if c = 'r' then some (.char '\r' false, cs)
    else if c = 'v' then some (.char '\x0b' false, cs)
    else if c.isAlphanum || 0x7f < c.toNat then none
    else some (.char c false, cs)

/-- The height of parts that stand together: one more than the greatest, unless there is only one
or none. -/
def joined : List Nat → Nat
  | [] => 0
  | [h] => h
  | hs => hs.foldl max 0 + 1

end UnitLoader.Pattern
