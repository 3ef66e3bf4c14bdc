import UnitLoader.Program.Statement
import UnitLoader.Program.UnitName
import UnitLoader.Number.Numeral

/-!
# The unit language

A program is written one statement a line. Blanks around a line mean nothing; empty lines and
lines that begin with `#` are skipped.

* `greeting = "hello"`, `ratio = [1, 0.5, none]` and `alias = greeting` are assignments;
* `import pkg.helpers as h` is an import;
* `from pkg.helpers import shout, whisper` is a selective import;
* `raise "refusing to start"` is a raise.

A line is an import, a selective import or a raise if it begins with that word and a blank, and
an assignment if it has an equals sign.

## Main definitions

* `UnitLoader.ParseFault`: what is wrong with a line.
* `UnitLoader.parseExpr`, `UnitLoader.parseStatement`: one expression, one line.
* `UnitLoader.Program.parse`: a whole text.
-/

namespace UnitLoader

open Text

/-- What is wrong with a line. -/
inductive ParseFault where
  | missingValue
  | invalidIdentifier (text : List Char)
  | nameInList (name : String)
  | fromWithoutImport
  | unrecognized (line : List Char)
  deriving DecidableEq, Repr

/-- How a fault reads in a message. -/
def ParseFault.message : ParseFault → String
  | .missingValue => "missing value"
  | .invalidIdentifier text => "invalid identifier '" ++ String.ofList text ++ "'"
  | .nameInList name => "list items must be literals, found '" ++ name ++ "'"
  | .fromWithoutImport => "expected 'from <unit> import <names>'"
  | .unrecognized line => "unrecognized statement '" ++ String.ofList line ++ "'"

/-! ## Names -/

/-- An identifier. -/
def parseIdentifier (text : List Char) : Except ParseFault String :=
  if isIdentifier text then .ok (String.ofList text) else .error (.invalidIdentifier text)

/-- Identifiers with dots between them; the fault is that of the first segment that is none. -/
def parseDotted (text : List Char) : Except ParseFault String := do
  (pieces '.' text).forM fun segment => discard (parseIdentifier segment)
  return String.ofList text

/-! ## Expressions -/

/-- The text between two quotes, if there is no other quote in it. -/
def parseString? : List Char → Option String
  | '"' :: cs =>
    match cs.reverse with
    | '"' :: inner => if '"' ∈ inner then none else some (String.ofList inner.reverse)
    | _ => none
  | _ => none

/-- The text between a pair of square brackets. -/
def bracketed? : List Char → Option (List Char)
  | '[' :: cs =>
    match cs.reverse with
    | ']' :: inner => some inner.reverse
    | _ => none
  | _ => none

/-- The three literal words. -/
def parseWord? (text : List Char) : Option Value :=
  if text = ['t', 'r', 'u', 'e'] then some (.bool true)
  else if text = ['f', 'a', 'l', 's', 'e'] then some (.bool false)
  else if text = ['n', 'o', 'n', 'e'] then some .none
  else none

/-- A literal that is no list. -/
def parseScalar? (text : List Char) : Option Value :=
  ((parseString? text).map Value.str).or <|
    (parseWord? text).or <|
      ((Numeral.readInt64? text).map Value.int).or <|
        (Numeral.readDecimal? text).map fun n => .float n.toBinary64

/-- No piece of a text is longer than the text. -/
theorem length_of_mem_pieces {sep : Char} {text p : List Char} (h : p ∈ pieces sep text) :
    p.length ≤ text.length := by
  induction text generalizing p with
  | nil => simp_all
  | cons c cs ih =>
    by_cases hc : c = sep
    · subst hc
      rw [pieces_cons_sep] at h
      rcases List.mem_cons.1 h with rfl | h
      · simp
      · exact Nat.le_succ_of_le (ih h)
    · rw [pieces_cons_of_ne hc] at h
      rcases List.mem_cons.1 h with rfl | h
      · have := ih (List.mem_cons_self (a := (cut sep cs).1) (l := (cut sep cs).2))
        simpa using this
      · exact Nat.le_succ_of_le (ih (List.mem_cons_of_mem _ h))

/-- Trimming does not make a text longer. -/
theorem length_trim_le (text : List Char) : (trim text).length ≤ text.length := by
  have h (l : List Char) : (l.dropWhile isBlank).length ≤ l.length :=
    (List.dropWhile_suffix isBlank).length_le
  have h₁ := h (text.dropWhile isBlank).reverse
  have h₂ := h text
  simp only [trim, trimEnd, trimStart, List.length_reverse] at h₁ ⊢
  omega

/-- What is between brackets is shorter than the text with them. -/
theorem length_of_bracketed? {text inner : List Char} (h : bracketed? text = some inner) :
    inner.length < text.length := by
  unfold bracketed? at h
  split at h
  · next cs =>
    split at h
    · next inner' hr =>
      have := congrArg List.length hr
      simp only [Option.some.injEq] at h
      subst h
      simp at this ⊢
      omega
    · simp at h
  · simp at h

/-- An item of a list is shorter than the list, so that reading nested lists comes to an end. -/
theorem length_item_lt {text inner item : List Char} (h : bracketed? text = some inner)
    (hi : item ∈ pieces ',' (trim inner)) : (trim item).length < text.length := by
  have h₁ := length_of_bracketed? h
  have h₂ := length_trim_le inner
  have h₃ := length_of_mem_pieces hi
  have h₄ := length_trim_le item
  omega

/-- An expression: a literal, a list of literals with commas between them, or a name. A list is cut
at all its commas, also at those of lists and strings inside it. -/
def parseExpr (text : List Char) : Except ParseFault Expr :=
  if text = [] then .error .missingValue
  else match parseScalar? text with
    | some v => .ok (.literal v)
    | none =>
      match h : bracketed? text with
      | some inner =>
        if trim inner = [] then .ok (.literal (.list []))
        else do
          let items ← (pieces ',' (trim inner)).attach.mapM fun ⟨item, hi⟩ => do
            have := length_item_lt h hi
            match ← parseExpr (trim item) with
            | .literal v => .ok v
            | .name n => .error (.nameInList n)
          return .literal (.list items)
      | none => (parseDotted text).map .name
termination_by text.length

/-! ## Statements -/

/-- The rest of a line that begins with a word and a blank, without the blanks around it. -/
def afterWord? (word : String) (line : List Char) : Option (List Char) :=
  match word.toList.isPrefixOf? line with
  | some (c :: cs) => if isBlank c then some (trim (c :: cs)) else none
  | _ => none

/-- The rest of an import. -/
def parseImport (rest : List Char) : Except ParseFault Statement :=
  match splitOnce? " as ".toList rest with
  | some (module, newName) => do
    let module ← parseDotted (trim module)
    let newName ← parseIdentifier (trim newName)
    return .importUnit module (some newName)
  | none => (parseDotted rest).map (.importUnit · none)

/-- The rest of a selective import. -/
def parseFromImport (rest : List Char) : Except ParseFault Statement :=
  match splitOnce? " import ".toList rest with
  | none => .error .fromWithoutImport
  | some (module, names) => do
    let module ← parseDotted (trim module)
    let names ← (pieces ',' names).mapM fun n => parseIdentifier (trim n)
    return .fromImport module names

/-- A line that begins with none of the words. -/
def parseAssignment (line : List Char) : Except ParseFault Statement :=
  match splitOnce? ['='] line with
  | none => .error (.unrecognized line)
  | some (target, value) => do
    let target ← parseIdentifier (trim target)
    let value ← parseExpr (trim value)
    return .assign target value

/-- A line without blanks around it. A message needs no quotes. -/
def parseStatement (line : List Char) : Except ParseFault Statement :=
  match afterWord? "import" line with
  | some rest => parseImport rest
  | none =>
    match afterWord? "from" line with
    | some rest => parseFromImport rest
    | none =>
      match afterWord? "raise" line with
      | some rest => .ok (.raise ((parseString? rest).getD (String.ofList rest)))
      | none => parseAssignment line

/-! ## Programs -/

/-- A fault and the number of its line, counted from 1. -/
structure ParseError where
  line : Nat
  fault : ParseFault
  deriving DecidableEq, Repr

/-- Whether a line without blanks around it is skipped: it is empty or a comment. -/
def isSkipped (line : List Char) : Bool :=
  line.head?.all (· == '#')

/-- The statements of lines of which the first has the given number. -/
def parseLines (number : Nat) : List (List Char) → Except ParseError (List Statement)
  | [] => .ok []
  | line :: lines =>
    if isSkipped (trim line) then parseLines (number + 1) lines
    else match parseStatement (trim line) with
      | .error fault => .error ⟨number, fault⟩
      | .ok s => (parseLines (number + 1) lines).map (s :: ·)

/-- The program that a text denotes. -/
def Program.parse (text : List Char) : Except ParseError Program :=
  (parseLines 1 (pieces '\n' text)).map Program.mk

end UnitLoader
