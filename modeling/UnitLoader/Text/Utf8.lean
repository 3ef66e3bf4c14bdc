/-!
# UTF-8

Files and streams are lists of bytes; texts are lists of characters. Encoding is core's, one
character after the other. Decoding says of an ill-formed text where its well-formed beginning
ends, and whether what follows is cut short or could not be continued at all.

## Main definitions

* `UnitLoader.Bytes`: lists of bytes.
* `UnitLoader.Text.Utf8.encode`, `UnitLoader.Text.Utf8.decode`.
* `UnitLoader.Text.Utf8.decodeMarked`: the characters of any bytes, with a mark for each stray one.
* `UnitLoader.Text.Utf8.Fault`: what is wrong with an ill-formed text.
-/

namespace UnitLoader

/-- The contents of a file or a stream. -/
abbrev Bytes := List UInt8

namespace Text.Utf8

/-- The first ill-formed sequence of a text. -/
inductive Fault where
  /-- The text ends inside a sequence that begins at the index. -/
  | incomplete (index : Nat)
  /-- The sequence at the index is no character; so many of its bytes cannot be part of one. -/
  | invalid (index length : Nat)
  deriving DecidableEq, Repr

/-- How a fault reads in a message. -/
def Fault.message : Fault → String
  | .incomplete index => s!"incomplete utf-8 byte sequence from index {index}"
  | .invalid index length => s!"invalid utf-8 sequence of {length} bytes from index {index}"

/-- The bytes of a text. -/
def encode (text : List Char) : Bytes :=
  text.flatMap String.utf8EncodeChar

/-- Whether a byte continues a sequence: it is 0x80 to 0xBF. -/
def isContinuation (b : UInt8) : Bool :=
  0x80 ≤ b && b ≤ 0xbf

/-- Which second bytes may follow a first byte of a sequence of three or four bytes: the ones that
give no overlong form, no surrogate and no code point beyond U+10FFFF. -/
def isSecond (first b : UInt8) : Bool :=
  if first = 0xe0 then 0xa0 ≤ b && b ≤ 0xbf
  else if first = 0xed then 0x80 ≤ b && b ≤ 0x9f
  else if first = 0xf0 then 0x90 ≤ b && b ≤ 0xbf
  else if first = 0xf4 then 0x80 ≤ b && b ≤ 0x8f
  else isContinuation b

/-- The six low bits that a continuation byte carries. -/
def payload (b : UInt8) : Nat :=
  b.toNat % 64

/-- Put a character in front of what is decoded after it. -/
def andThen (code : Nat) (rest : Except Fault (List Char)) : Except Fault (List Char) :=
  rest.map (Char.ofNat code :: ·)

/-- Decode a text that begins at the given index of the whole. -/
def decodeFrom (index : Nat) : Bytes → Except Fault (List Char)
  | [] => .ok []
  | a :: rest =>
    if a < 0x80 then andThen a.toNat (decodeFrom (index + 1) rest)
    else if 0xc2 ≤ a && a ≤ 0xdf then
      match rest with
      | [] => .error (.incomplete index)
      | b :: rest =>
        if isContinuation b then
          andThen (a.toNat % 32 * 64 + payload b) (decodeFrom (index + 2) rest)
        else .error (.invalid index 1)
    else if 0xe0 ≤ a && a ≤ 0xef then
      match rest with
      | [] => .error (.incomplete index)
      | b :: rest =>
        if !isSecond a b then .error (.invalid index 1)
        else match rest with
          | [] => .error (.incomplete index)
          | c :: rest =>
            if isContinuation c then
              andThen (a.toNat % 16 * 4096 + payload b * 64 + payload c)
                (decodeFrom (index + 3) rest)
            else .error (.invalid index 2)
    else if 0xf0 ≤ a && a ≤ 0xf4 then
      match rest with
      | [] => .error (.incomplete index)
      | b :: rest =>
        if !isSecond a b then .error (.invalid index 1)
        else match rest with
          | [] => .error (.incomplete index)
          | c :: rest =>
            if !isContinuation c then .error (.invalid index 2)
            else match rest with
              | [] => .error (.incomplete index)
              | d :: rest =>
                if isContinuation d then
                  andThen (a.toNat % 8 * 262144 + payload b * 4096 + payload c * 64 + payload d)
                    (decodeFrom (index + 4) rest)
                else .error (.invalid index 3)
    else .error (.invalid index 1)

/-- The characters of a well-formed text, or its first fault. -/
def decode (bytes : Bytes) : Except Fault (List Char) :=
  decodeFrom 0 bytes

/-- The character at the beginning of a text, and the number of its bytes after the first. -/
def first? (bytes : Bytes) : Option (Char × Nat) :=
  (List.range 4).findSome? fun n =>
    match decode (bytes.take (n + 1)) with
    | .ok [c] => some (c, n)
    | _ => none

/-- The characters of any bytes. Each byte with which no character begins is read as the mark. -/
def decodeMarked (mark : List Char) : Bytes → List Char
  | [] => []
  | b :: bytes =>
    match first? (b :: bytes) with
    | some (c, more) => c :: decodeMarked mark (bytes.drop more)
    | none => mark ++ decodeMarked mark bytes
termination_by bytes => bytes.length

end Text.Utf8

end UnitLoader
