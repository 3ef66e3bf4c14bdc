import UnitLoader.Toml.Plain

/-!
# Texts and keys of TOML

A text stands between quotes or apostrophes, one or three of them. Between quotes a backslash
escapes; between three of either a text may have several lines. A key is bare or a text on one
line; keys with dots between them are a path.

## Main definitions

* `UnitLoader.Toml.text`: a text.
* `UnitLoader.Toml.dottedKey`: a path of keys.
-/

namespace UnitLoader.Toml

/-- A blank within a line. -/
def isSpace (c : Char) : Bool :=
  c = ' ' || c = '\t'

/-- A text without the blanks at the beginning of its line. -/
def skipSpace (input : List Char) : List Char :=
  input.dropWhile isSpace

/-- The end of a line: a line feed, after a carriage return or alone. -/
def newline : Reader Unit
  | '\n' :: cs => some ((), cs)
  | '\r' :: '\n' :: cs => some ((), cs)
  | _ => none

/-- Characters that may stand in a text or a comment: no controls but the tab. -/
def isTextChar (c : Char) : Bool :=
  c = '\t' || (' ' ≤ c && c ≠ '\x7f')

/-! ## Escapes -/

/-- The character that a letter after a backslash stands for. -/
def simpleEscape? : Char → Option Char
  | 'b' => some '\x08'
  | 't' => some '\t'
  | 'n' => some '\n'
  | 'f' => some '\x0c'
  | 'r' => some '\r'
  | '"' => some '"'
  | '\\' => some '\\'
  | _ => none

/-- The character of a code point, written in so many hexadecimal digits. -/
def codePoint (size : Nat) : Reader Char := fun input =>
  let ds := input.take size
  let n := valueOfDigits 16 ds
  if ds.length = size && ds.all isHexDigit && n.isValidChar then
    some (Char.ofNat n, input.drop size)
  else none

/-- The character that stands after a backslash. -/
def escape : Reader Char
  | 'u' :: cs => codePoint 4 cs
  | 'U' :: cs => codePoint 8 cs
  | c :: cs => (simpleEscape? c).map (·, cs)
  | [] => none

/-! ## Texts on one line -/

/-- The rest of a text between quotes, at most so many characters long. -/
def quotedRest : Nat → Reader (List Char)
  | 0, _ => none
  | _, [] => none
  | _, '"' :: cs => some ([], cs)
  | size + 1, '\\' :: cs => do
    let (c, rest) ← escape cs
    let (more, rest) ← quotedRest size rest
    return (c :: more, rest)
  | size + 1, c :: cs => do
    if !isTextChar c then none
    let (more, rest) ← quotedRest size cs
    return (c :: more, rest)

/-- The rest of a text between apostrophes. -/
def literalRest : Reader (List Char) := fun input =>
  let body := input.takeWhile fun c => isTextChar c && c ≠ '\x27'
  match input.drop body.length with
  | '\x27' :: rest => some (body, rest)
  | _ => none

/-- A text on one line. -/
def lineText : Reader (List Char)
  | '"' :: cs => quotedRest (cs.length + 1) cs
  | '\x27' :: cs => literalRest cs
  | _ => none

/-! ## Texts of several lines -/

/-- The rest of a text whose marks are three of the same. One or two of them in front of the three
belong to the text. -/
def closing (mark : Char) : Reader (List Char) := fun input =>
  let marks := (input.take 5).takeWhile (· = mark)
  if 3 ≤ marks.length then some (marks.drop 3, input.drop marks.length) else none

/-- The text after a backslash at the end of a line, without the blanks and line ends that
follow. -/
def continuation? (input : List Char) : Option (List Char) :=
  let rec skip : List Char → List Char
    | '\r' :: '\n' :: cs => skip cs
    | c :: cs => if isSpace c || c = '\n' then skip cs else c :: cs
    | [] => []
  (newline (skipSpace input)).map fun (_, rest) => skip rest

/-- The rest of a text of several lines, at most so many characters long. -/
def linesRest (mark : Char) (escapes : Bool) : Nat → Reader (List Char)
  | 0, _ => none
  | size + 1, input =>
    match closing mark input with
    | some found => some found
    | none =>
      match newline input with
      | some (_, rest) => do
        let (more, rest) ← linesRest mark escapes size rest
        return ('\n' :: more, rest)
      | none =>
        match input with
        | [] => none
        | c :: cs =>
          if escapes && c = '\\' then
            match continuation? cs with
            | some rest => linesRest mark escapes size rest
            | none => do
              let (c, rest) ← escape cs
              let (more, rest) ← linesRest mark escapes size rest
              return (c :: more, rest)
          else if isTextChar c then do
            let (more, rest) ← linesRest mark escapes size cs
            return (c :: more, rest)
          else none

/-- A text of several lines. A line end right at its beginning does not belong to it. -/
def linesText (mark : Char) (escapes : Bool) : Reader (List Char) := fun input =>
  match input with
  | a :: b :: c :: cs =>
    if a = mark && b = mark && c = mark then
      let body := ((newline cs).map (·.2)).getD cs
      linesRest mark escapes (body.length + 1) body
    else none
  | _ => none

/-- A text. -/
def text : Reader String := fun input =>
  let found := match input with
    | '"' :: '"' :: '"' :: _ => linesText '"' true input
    | '\x27' :: '\x27' :: '\x27' :: _ => linesText '\x27' false input
    | _ => lineText input
  found.map fun (cs, rest) => (String.ofList cs, rest)

/-! ## Keys -/

/-- A character of a bare key. -/
def isBareChar (c : Char) : Bool :=
  c.isAlphanum || c = '-' || c = '_'

/-- A key without dots. -/
def simpleKey : Reader String := fun input =>
  match lineText input with
  | some (cs, rest) => some (String.ofList cs, rest)
  | none =>
    let cs := input.takeWhile isBareChar
    if cs = [] then none else some (String.ofList cs, input.drop cs.length)

/-- Keys with dots and blanks between them, at most so many. -/
def keys : Nat → Reader (List String)
  | 0, _ => none
  | size + 1, input => do
    let (key, rest) ← simpleKey (skipSpace input)
    match skipSpace rest with
    | '.' :: rest =>
      let (more, rest) ← keys size rest
      return (key :: more, rest)
    | rest => return ([key], rest)

/-- How deep tables and arrays may nest. -/
def maxDepth : Nat := 79

/-- A path of keys, and the last of them. -/
def dottedKey : Reader (List String × String) := fun input => do
  let (path, rest) ← keys maxDepth input
  let last ← path.getLast?
  return ((path.dropLast, last), rest)

end UnitLoader.Toml
