import UnitLoader.Json.Numeral
import UnitLoader.Number.Shortest
import UnitLoader.Text.Pieces

/-!
# JSON tokens

The words of a JSON text: brackets, commas, colons, the three literal words, numbers and strings.
Between tokens may stand spaces, tabs and line ends.

## Main definitions

* `UnitLoader.Json.Token`: the tokens.
* `UnitLoader.Json.Token.text`: how a token is written.
* `UnitLoader.Json.tokens?`: the tokens of a text.

## Main results

* `UnitLoader.Json.length_of_scanToken?`: a token has at least one character.
-/

namespace UnitLoader.Json

open Text (hexDigit?)

/-- A token of a JSON text. -/
inductive Token where
  | openArray
  | closeArray
  | openObject
  | closeObject
  | comma
  | colon
  | null
  | bool (b : Bool)
  | number (n : Option Number)
  | string (s : Option String)
  deriving DecidableEq, Repr

/-! ## Writing -/

/-- The two hexadecimal digits of a number below 256. -/
def hexPair (n : Nat) : List Char :=
  [Nat.digitChar (n / 16), Nat.digitChar (n % 16)]

/-- A character inside a string: escaped if it is a quote, a backslash or a control character. -/
def escapedChar (c : Char) : List Char :=
  if c = '"' then ['\\', '"']
  else if c = '\\' then ['\\', '\\']
  else if c = '\x08' then ['\\', 'b']
  else if c = '\x0c' then ['\\', 'f']
  else if c = '\n' then ['\\', 'n']
  else if c = '\r' then ['\\', 'r']
  else if c = '\t' then ['\\', 't']
  else if c.toNat < 0x20 then ['\\', 'u', '0', '0'] ++ hexPair c.toNat
  else [c]

/-- A string between quotes. -/
def stringText (s : List Char) : List Char :=
  '"' :: s.flatMap escapedChar ++ ['"']

/-- A number: an integer by its digits, a double by its shortest text. JSON has no numeral for an
infinity or a NaN; `null` stands for them. -/
def Number.text : Number → List Char
  | .integer n => (if n < 0 then ['-'] else []) ++ Nat.toDigits 10 n.natAbs
  | .double x => if x.isFinite then x.text else ['n', 'u', 'l', 'l']

/-- How a token is written. What denotes nothing is written `null`. -/
def Token.text : Token → List Char
  | .openArray => ['[']
  | .closeArray => [']']
  | .openObject => ['\x7b']
  | .closeObject => ['\x7d']
  | .comma => [',']
  | .colon => [':']
  | .null | .number none | .string none => ['n', 'u', 'l', 'l']
  | .bool true => ['t', 'r', 'u', 'e']
  | .bool false => ['f', 'a', 'l', 's', 'e']
  | .number (some n) => n.text
  | .string (some s) => stringText s.toList

/-! ## Strings -/

/-- A piece of a string: a character, or a unit of UTF-16 that was escaped by its number. -/
inductive StringPiece where
  | char (c : Char)
  | unit (n : Nat)
  deriving DecidableEq, Repr

/-- The number of four hexadecimal digits. -/
def hexUnit? (a b c d : Char) : Option Nat := do
  return (((← hexDigit? a) * 16 + (← hexDigit? b)) * 16 + (← hexDigit? c)) * 16 + (← hexDigit? d)

/-- The character that a short escape stands for. -/
def shortEscape? (c : Char) : Option Char :=
  if c = '"' || c = '\\' || c = '/' then some c
  else if c = 'b' then some '\x08'
  else if c = 'f' then some '\x0c'
  else if c = 'n' then some '\n'
  else if c = 'r' then some '\r'
  else if c = 't' then some '\t'
  else none

/-- The pieces of a string up to its closing quote, and the text after it. Control characters have
to be escaped. -/
def scanString? : List Char → Option (List StringPiece × List Char)
  | [] => none
  | '"' :: cs => some ([], cs)
  | '\\' :: 'u' :: a :: b :: c :: d :: cs => do
    let n ← hexUnit? a b c d
    let (ps, rest) ← scanString? cs
    return (.unit n :: ps, rest)
  | '\\' :: c :: cs => do
    let e ← shortEscape? c
    let (ps, rest) ← scanString? cs
    return (.char e :: ps, rest)
  | c :: cs =>
    if c.toNat < 0x20 || c = '\\' then none
    else do
      let (ps, rest) ← scanString? cs
      return (.char c :: ps, rest)

/-- The text of the pieces. Units of UTF-16 that are surrogates have to come in pairs, the high one
first. -/
def textOfPieces? : List StringPiece → Option (List Char)
  | [] => some []
  | .char c :: ps => (textOfPieces? ps).map (c :: ·)
  | .unit n :: ps =>
    if n < 0xd800 || 0xe000 ≤ n then (textOfPieces? ps).map (Char.ofNat n :: ·)
    else match ps with
      | .unit m :: ps' =>
        if n < 0xdc00 && 0xdc00 ≤ m && m < 0xe000 then
          (textOfPieces? ps').map
            (Char.ofNat (0x10000 + (n - 0xd800) * 0x400 + (m - 0xdc00)) :: ·)
        else none
      | _ => none

/-! ## Reading -/

/-- The blanks of JSON. -/
def isSpace (c : Char) : Bool :=
  c = ' ' || c = '\t' || c = '\n' || c = '\r'

/-- A literal word in front of a text. -/
def scanWord? (text : List Char) : Option (Token × List Char) :=
  [Token.null, .bool true, .bool false].findSome? fun t =>
    (t.text.isPrefixOf? text).map fun rest => (t, rest)

/-- The token that a single character is. -/
def punctuation? (c : Char) : Option Token :=
  if c = '[' then some .openArray
  else if c = ']' then some .closeArray
  else if c = '\x7b' then some .openObject
  else if c = '\x7d' then some .closeObject
  else if c = ',' then some .comma
  else if c = ':' then some .colon
  else none

/-- The token in front of a text that begins with no blank. -/
def scanToken? : List Char → Option (Token × List Char)
  | [] => none
  | c :: cs =>
    match punctuation? c with
    | some t => some (t, cs)
    | none =>
      if c = '"' then
        (scanString? cs).map fun (ps, rest) =>
          (.string ((textOfPieces? ps).map String.ofList), rest)
      else if c = '-' || c.isDigit then
        (scanNumber? (c :: cs)).map fun (n, rest) => (.number n, rest)
      else scanWord? (c :: cs)

/-! ## A token has at least one character -/

/-- A string takes at least one character, its closing quote. -/
theorem length_of_scanString? {text rest : List Char} {ps : List StringPiece}
    (h : scanString? text = some (ps, rest)) : rest.length < text.length := by
  fun_induction scanString? text generalizing ps rest with
  | case1 => simp at h
  | case2 cs => simp_all
  | case3 a b c d cs ih =>
    simp only [bind, Option.bind_eq_some_iff] at h
    obtain ⟨n, -, ⟨ps', rest'⟩, hs, he⟩ := h
    have := ih hs
    simp_all
    omega
  | case4 c cs hc ih =>
    simp only [bind, Option.bind_eq_some_iff] at h
    obtain ⟨e, -, ⟨ps', rest'⟩, hs, he⟩ := h
    have := ih hs
    simp_all
    omega
  | case5 => simp at h
  | case6 c cs _ _ _ _ ih =>
    simp only [bind, Option.bind_eq_some_iff] at h
    obtain ⟨⟨ps', rest'⟩, hs, he⟩ := h
    have := ih hs
    simp_all
    omega

/-- A mark that is not empty takes at least one character. -/
theorem length_of_isPrefixOf? {mark text rest : List Char} (hm : mark ≠ [])
    (h : mark.isPrefixOf? text = some rest) : rest.length < text.length := by
  have hl := List.length_pos_iff.2 hm
  rw [Text.isPrefixOf?_eq_some h, List.length_append]
  omega

/-- A word takes at least one character. -/
theorem length_of_scanWord? {text rest : List Char} {t : Token}
    (h : scanWord? text = some (t, rest)) : rest.length < text.length := by
  obtain ⟨before, u, after, hu, hm, -⟩ := List.findSome?_eq_some_iff.1 h
  obtain ⟨r, hr, he⟩ := Option.map_eq_some_iff.1 hm
  simp only [Prod.mk.injEq] at he
  obtain ⟨rfl, rfl⟩ := he
  refine length_of_isPrefixOf? ?_ hr
  have hw : u ∈ [Token.null, .bool true, .bool false] := hu ▸ by simp
  simp only [List.mem_cons, List.not_mem_nil, or_false] at hw
  rcases hw with rfl | rfl | rfl <;> simp [Token.text]

/-- Every token takes at least one character, so that there is an end to them. -/
theorem length_of_scanToken? {text rest : List Char} {t : Token}
    (h : scanToken? text = some (t, rest)) : rest.length < text.length := by
  unfold scanToken? at h
  split at h
  · simp at h
  · next c cs =>
    split at h
    · simp_all
    · split at h
      · obtain ⟨⟨ps, r⟩, hs, he⟩ := Option.map_eq_some_iff.1 h
        have := length_of_scanString? hs
        simp_all
        omega
      · split at h
        · obtain ⟨⟨n, r⟩, hs, he⟩ := Option.map_eq_some_iff.1 h
          have := length_of_scanNumber? hs
          simp_all
        · exact length_of_scanWord? h

/-! ## All tokens -/

/-- The tokens of a text; nothing if some part of it is no token. -/
def tokens? (text : List Char) : Option (List Token) :=
  if text.dropWhile isSpace = [] then some []
  else match h : scanToken? (text.dropWhile isSpace) with
    | none => none
    | some (t, rest) =>
      have := length_of_scanToken? h
      (tokens? rest).map (t :: ·)
termination_by text.length
decreasing_by
  exact Nat.lt_of_lt_of_le this (List.dropWhile_suffix isSpace).length_le

end UnitLoader.Json
