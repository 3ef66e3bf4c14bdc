import UnitLoader.Text.Character
import UnitLoader.Text.HiddenTable

/-!
# Quoted text

The form in which a message shows a text that may hold anything: between double quotes, with
quotes, backslashes and the common controls escaped, and every character that would not be seen
written by its code point.

## Main definitions

* `UnitLoader.Text.isHidden`: whether a character would not be seen.
* `UnitLoader.Text.quoted`: a text in quotes.
-/

namespace UnitLoader.Text

/-- A hidden character is a control character or one of the table of hidden ranges. -/
def isHidden (c : Char) : Bool :=
  c.toNat < 0x20 || c.toNat == 0x7f || (0x80 ≤ c.toNat && hiddenRanges.any (inRanges · c.toNat))

/-- One character of a quoted text. -/
def quotedChar (c : Char) : List Char :=
  if c = '\x00' then ['\\', '0']
  else if c = '\t' then ['\\', 't']
  else if c = '\r' then ['\\', 'r']
  else if c = '\n' then ['\\', 'n']
  else if c = '"' || c = '\\' then ['\\', c]
  else if isHidden c then ['\\', 'u', '\x7b'] ++ Nat.toDigits 16 c.toNat ++ ['\x7d']
  else [c]

/-- A text between double quotes, with everything in it visible. -/
def quoted (text : String) : String :=
  String.ofList ('"' :: text.toList.flatMap quotedChar ++ ['"'])

end UnitLoader.Text
