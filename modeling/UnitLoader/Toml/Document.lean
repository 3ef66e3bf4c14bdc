import UnitLoader.Toml.Text
import UnitLoader.Toml.Value

/-!
# TOML documents

A document is a sequence of lines: blank ones, headers, which tell the table that follows, and
keys with their values. Values may have several lines.

## Main definitions

* `UnitLoader.Toml.value`: a value.
* `UnitLoader.Toml.Line`, `UnitLoader.Toml.lines?`: the lines of a document.
* `UnitLoader.Toml.read?`: the table that a document is.
-/

namespace UnitLoader.Toml

/-! ## Lines and blanks -/

/-- A text without the comment that it begins with, if it does. -/
def skipComment : List Char → List Char
  | '#' :: cs => cs.dropWhile isTextChar
  | cs => cs

/-- The end of a line or of the document, after blanks and a comment on demand. -/
def lineEnd (input : List Char) : Option (List Char) :=
  match skipComment (skipSpace input) with
  | [] => some []
  | cs => (newline cs).map (·.2)

/-- A text without the blanks, comments and line ends that it begins with, at most so many. -/
def skipLines : Nat → List Char → List Char
  | 0, input => input
  | size + 1, input =>
    match skipComment (skipSpace input) with
    | [] => []
    | cs =>
      match newline cs with
      | some (_, rest) => skipLines size rest
      | none => cs

/-- A text without the blanks, comments and line ends that it begins with. -/
def skipBlank (input : List Char) : List Char :=
  skipLines input.length input

/-! ## Values -/

/-- Items of an array after its bracket, at most so many. A comma may stand after the last. -/
def arrayItems (item : Reader Value) : Nat → Reader (List Value)
  | 0, _ => none
  | size + 1, input =>
    match skipBlank input with
    | ']' :: rest => some ([], rest)
    | input => do
      let (v, rest) ← item input
      match skipBlank rest with
      | ',' :: rest =>
        let (vs, rest) ← arrayItems item size rest
        return (v :: vs, rest)
      | ']' :: rest => return ([v], rest)
      | _ => none

/-- A key and its value, with blanks around both. -/
def pair (item : Reader Value) : Reader ((List String × String) × Value) := fun input => do
  let (key, rest) ← dottedKey input
  let (_, rest) ← word "=" rest
  let (v, rest) ← item (skipSpace rest)
  return ((key, v), rest)

/-- Pairs of a table between braces, at most so many. All are on one line, and no comma stands
after the last. -/
def tablePairs (item : Reader Value) : Nat → Reader (List ((List String × String) × Value))
  | 0, _ => none
  | size + 1, input => do
    let (p, rest) ← pair item input
    match skipSpace rest with
    | ',' :: rest =>
      let (ps, rest) ← tablePairs item size rest
      return (p :: ps, rest)
    | '\x7d' :: rest => return ([p], rest)
    | _ => none

/-- The table of pairs. -/
def tableOfPairs? (pairs : List ((List String × String) × Value)) : Option Value := do
  let s ← pairs.foldlM (fun (s : Section) ((path, key), v) => s.define? path key v)
    { kind := .inlined }
  return .table .inlined s.entries

/-- A value without brackets or braces. -/
def scalar : Reader Value := fun input =>
  match text input, spelled dateTime input with
  | some (s, rest), _ => some (.text s, rest)
  | none, some (cs, rest) => some (.dateTime cs, rest)
  | none, none => (spelled plain input).map fun (cs, rest) => (.plain cs, rest)

/-- A value in which arrays and tables nest no deeper than the bound. -/
def value : Nat → Reader Value
  | 0 => scalar
  | depth + 1 => fun input =>
    match input with
    | '[' :: rest => do
      let (items, rest) ← arrayItems (value depth) (rest.length + 1) rest
      return (.array items, rest)
    | '\x7b' :: rest =>
      match skipSpace rest with
      | '\x7d' :: rest => some (.table .inlined .empty, rest)
      | _ => do
        let (pairs, rest) ← tablePairs (value depth) (rest.length + 1) rest
        return (← tableOfPairs? pairs, rest)
    | _ => scalar input

/-! ## Documents -/

/-- A line that says something. -/
inductive Line where
  /-- The header of a table. -/
  | table (path : List String) (key : String)
  /-- The header of one of several tables. -/
  | tables (path : List String) (key : String)
  | pair (path : List String) (key : String) (value : Value)
  deriving Repr

/-- A header, without the end of the line. -/
def header : Reader Line
  | '[' :: '[' :: cs => do
    let ((path, key), rest) ← dottedKey cs
    let (_, rest) ← word "]]" rest
    return (.tables path key, rest)
  | '[' :: cs => do
    let ((path, key), rest) ← dottedKey cs
    let (_, rest) ← word "]" rest
    return (.table path key, rest)
  | _ => none

/-- A line that says something, without its end. -/
def line : Reader Line := fun input =>
  match input with
  | '[' :: _ => header input
  | _ => (pair (value maxDepth) input).map fun (((path, key), v), rest) =>
    (.pair path key v, rest)

/-- The lines of a text that say something, at most so many. -/
def linesWithin? : Nat → List Char → Option (List Line)
  | 0, _ => none
  | size + 1, input =>
    match skipBlank input with
    | [] => some []
    | input => do
      let (l, rest) ← line input
      let rest ← lineEnd rest
      return l :: (← linesWithin? size rest)

/-- The lines of a document that say something. A mark of the byte order may stand at its
beginning. -/
def lines? (document : List Char) : Option (List Line) :=
  let body := match document with
    | '\ufeff' :: cs => cs
    | cs => cs
  linesWithin? (body.length + 1) body

/-- The document so far, and the path of the table that a header has told last. -/
structure Building where
  document : Section := { kind := .defined }
  current : List String := []

/-- The document after one more line. -/
def Building.next? (b : Building) : Line → Option Building
  | .table path key => do
    return ⟨← b.document.openTable? path key, path ++ [key]⟩
  | .tables path key => do
    return ⟨← b.document.appendTable? path key, path ++ [key]⟩
  | .pair path key v => do
    return { b with document := ← b.document.at? .implied (Section.define? path key v) b.current }

/-- The table that a document is. -/
def read? (document : List Char) : Option (Table Value) := do
  return (← (← lines? document).foldlM Building.next? {}).document.entries

end UnitLoader.Toml
