import UnitLoader.Json.Token
import UnitLoader.Text.Utf8

/-!
# Reading and printing JSON

A value is the sequence of its tokens. Reading takes the tokens one by one and keeps the arrays
and objects that are still open on a stack, so that no nesting is too deep for it. Printing writes
the tokens without blanks.

## Main definitions

* `UnitLoader.Json.toTokens`: the tokens of a value.
* `UnitLoader.Json.ofTokens?`: the value with the given tokens.
* `UnitLoader.Json.read?`, `UnitLoader.Json.print`: from and to text.
* `UnitLoader.Json.readBytes?`: the value that bytes denote.
-/

namespace UnitLoader.Json

/-! ## Printing -/

mutual

/-- The tokens of a value. -/
def toTokens : Json → List Token
  | .null => [.null]
  | .bool b => [.bool b]
  | .number n => [.number n]
  | .string s => [.string s]
  | .array items => .openArray :: itemTokens items ++ [.closeArray]
  | .object fields => .openObject :: fieldTokens fields ++ [.closeObject]

/-- The tokens of the items of an array, with commas between them. -/
def itemTokens : List Json → List Token
  | [] => []
  | [j] => toTokens j
  | j :: k :: js => toTokens j ++ .comma :: itemTokens (k :: js)

/-- The tokens of the fields of an object, with commas between them. -/
def fieldTokens : List (Option String × Json) → List Token
  | [] => []
  | [(key, j)] => .string key :: .colon :: toTokens j
  | (key, j) :: f :: fs => .string key :: .colon :: toTokens j ++ .comma :: fieldTokens (f :: fs)

end

/-- The text of a value, without blanks. -/
def print (j : Json) : List Char :=
  j.toTokens.flatMap Token.text

/-! ## Reading -/

/-- What is open around the next token. -/
inductive Frame where
  /-- An array, with its items so far, last first. -/
  | array (items : List Json)
  /-- An object, with its fields so far, last first. -/
  | object (fields : List (Option String × Json))
  /-- A field whose value comes next. -/
  | field (key : Option String)
  deriving Repr

/-- What may come next. -/
inductive Expected where
  | value
  | firstItem
  | afterItem
  | firstKey
  | key
  | colon (key : Option String)
  | afterField
  /-- Nothing: the whole text was this value. -/
  | nothing (result : Json)
  deriving Repr

/-- A reader in the middle of a text. -/
structure Reading where
  frames : List Frame
  expected : Expected
  deriving Repr

/-- The reader after a value is complete. -/
def complete? (frames : List Frame) (j : Json) : Option Reading :=
  match frames with
  | [] => some ⟨[], .nothing j⟩
  | .array items :: frames => some ⟨.array (j :: items) :: frames, .afterItem⟩
  | .field key :: .object fields :: frames =>
    some ⟨.object ((key, j) :: fields) :: frames, .afterField⟩
  | _ => none

/-- The reader after a token that begins a value. -/
def beginValue? (frames : List Frame) : Token → Option Reading
  | .openArray => some ⟨.array [] :: frames, .firstItem⟩
  | .openObject => some ⟨.object [] :: frames, .firstKey⟩
  | .null => complete? frames .null
  | .bool b => complete? frames (.bool b)
  | .number n => complete? frames (.number n)
  | .string s => complete? frames (.string s)
  | _ => none

/-- The reader after the bracket that ends the innermost array or object. -/
def endValue? : List Frame → Token → Option Reading
  | .array items :: frames, .closeArray => complete? frames (.array items.reverse)
  | .object fields :: frames, .closeObject => complete? frames (.object fields.reverse)
  | _, _ => none

/-- The reader after one more token. -/
def Reading.next? (r : Reading) (t : Token) : Option Reading :=
  match r.expected with
  | .value => beginValue? r.frames t
  | .firstItem => if t = .closeArray then endValue? r.frames t else beginValue? r.frames t
  | .afterItem => if t = .comma then some ⟨r.frames, .value⟩ else endValue? r.frames t
  | .firstKey =>
    match t with
    | .string key => some ⟨r.frames, .colon key⟩
    | t => endValue? r.frames t
  | .key =>
    match t with
    | .string key => some ⟨r.frames, .colon key⟩
    | _ => none
  | .colon key => if t = .colon then some ⟨.field key :: r.frames, .value⟩ else none
  | .afterField => if t = .comma then some ⟨r.frames, .key⟩ else endValue? r.frames t
  | .nothing _ => none

/-- The value with the given tokens. -/
def ofTokens? (ts : List Token) : Option Json := do
  match (← ts.foldlM Reading.next? ⟨[], .value⟩).expected with
  | .nothing j => some j
  | _ => none

/-- The value that a text denotes, if the text is well-formed JSON. -/
def read? (text : List Char) : Option Json :=
  (tokens? text).bind ofTokens?

/-- What a byte that is part of no character is read as. The two escapes in it pair up with
nothing, so that a string with such a byte denotes nothing; outside of strings they are no
token. -/
def strayMark : List Char :=
  " \\udc00\\udc00".toList

/-- The value that bytes denote, if they are well-formed JSON. -/
def readBytes? (bytes : Bytes) : Option Json :=
  match Text.Utf8.decode bytes with
  | .ok text => read? text
  | .error _ => read? (Text.Utf8.decodeMarked strayMark bytes)

end UnitLoader.Json
