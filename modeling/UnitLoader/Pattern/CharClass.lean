import UnitLoader.Pattern.Mode

/-!
# Classes between brackets

A class has members: characters, ranges of them, classes by a short name and classes between
brackets of their own. Two hyphens, ampersands or tildes stand between classes of which one is made.
Of a class only matters whether it can be searched for, and how high its parts are nested.

## Main definitions

* `UnitLoader.Pattern.OpenClass`: a class whose bracket is still open.
* `UnitLoader.Pattern.namedClass?`: a class by its name.
* `UnitLoader.Pattern.readMember?`: a character or a range.
* `UnitLoader.Pattern.readClass?`: a class.
-/

namespace UnitLoader.Pattern

/-- A class whose bracket is still open. -/
structure OpenClass where
  /-- The height of what stands before the last operator. -/
  left : Option Nat := none
  /-- The heights of the members since then. -/
  members : List Nat := []
  /-- Nothing but hyphens stands after the bracket yet. -/
  fresh : Bool := true
  deriving Repr

namespace OpenClass

/-- The height of what the class holds. -/
def height (k : OpenClass) : Nat :=
  match k.left with
  | none => joined k.members
  | some l => max l (joined k.members) + 1

/-- The class with one more member. -/
def add (k : OpenClass) (height : Nat) : OpenClass :=
  { k with members := height :: k.members, fresh := false }

/-- The class after an operator. -/
def operate (k : OpenClass) : OpenClass where
  left := some k.height
  fresh := false

end OpenClass

/-! ## Members -/

/-- The names of the classes that have one. -/
def classNames : List String :=
  ["alnum", "alpha", "ascii", "blank", "cntrl", "digit", "graph", "lower", "print", "punct",
    "space", "upper", "word", "xdigit"]

/-- A class by its name, after the bracket that opens it: whether what is not in it is meant, and
the text after it. -/
def namedClass? : List Char → Option (Bool × List Char)
  | ':' :: cs =>
    let (negated, cs) := match cs with
      | '^' :: cs => (true, cs)
      | cs => (false, cs)
    let name := cs.takeWhile (· ≠ ':')
    match cs.drop name.length with
    | ':' :: ']' :: rest =>
      if String.ofList name ∈ classNames then some (negated, rest) else none
    | _ => none
  | _ => none

/-- Whether a class by its name can be searched for. -/
def Mode.admitsNamed (m : Mode) (negated : Bool) : Bool :=
  if m.unicode then !m.ignoreCase else !negated

/-- What a text begins with inside of a class, where brackets and operators mean nothing. -/
def classAtom? (m : Mode) : List Char → Option (Atom × List Char)
  | [] => none
  | '\\' :: cs => escape? m cs
  | c :: cs => some (.char c false, cs)

/-- The text after a member that is no class between brackets: an atom or a range. A hyphen makes
no range if a bracket that closes or another hyphen follows. -/
def readMember? (m : Mode) (text : List Char) : Option (List Char) := do
  let (first, rest) ← classAtom? m text
  if !m.admitsInClass first then none
  else match m.skip rest with
  | '-' :: cs =>
    if m.peek? cs = some ']' || m.peek? cs = some '-' then return '-' :: cs
    else
      let (last, rest) ← classAtom? m (m.skip cs)
      match first, last with
      | .char a _, .char b _ => if a ≤ b && m.admitsInClass last then return rest else none
      | _, _ => none
  | rest => return rest

/-! ## Classes -/

/-- The text after a bracket that opens a class. A caret means what is not in the class, which may
not be asked for where the pattern speaks of bytes. -/
def openClass? (m : Mode) (text : List Char) : Option (List Char) :=
  match m.skip text with
  | '^' :: cs => if m.unicode then some cs else none
  | cs => some cs

/-- The height of a class and the text after it; the class is open and stands in others, and the
text has at most so many characters. Hyphens at its beginning, and a closing bracket that is the
first member, stand for themselves. -/
def readOpenClass? (m : Mode) : Nat → OpenClass → List OpenClass → List Char →
    Option (Nat × List Char)
  | 0, _, _, _ => none
  | size + 1, k, outer, text =>
    match m.skip text with
    | [] => none
    | c :: cs =>
      if k.fresh && (c = '-' || (c = ']' && k.members = [])) then
        if m.admitsInClass (.char c false) then
          readOpenClass? m size { k.add 0 with fresh := c = '-' } outer cs
        else none
      else match c :: cs, outer with
      | ']' :: rest, [] => some (k.height + 1, rest)
      | ']' :: rest, k' :: outer => readOpenClass? m size (k'.add (k.height + 1)) outer rest
      | '[' :: cs, outer =>
        match namedClass? cs with
        | some (negated, rest) =>
          if m.admitsNamed negated then readOpenClass? m size (k.add 0) outer rest else none
        | none => (openClass? m cs).bind (readOpenClass? m size {} (k :: outer))
      | '&' :: '&' :: rest, outer | '-' :: '-' :: rest, outer | '~' :: '~' :: rest, outer =>
        readOpenClass? m size k.operate outer rest
      | text, outer => (readMember? m text).bind (readOpenClass? m size (k.add 0) outer)

/-- The height of a class and the text after it, from the bracket that opens it on. -/
def readClass? (m : Mode) (text : List Char) : Option (Nat × List Char) :=
  (openClass? m text).bind (readOpenClass? m (text.length + 1) {} [])

end UnitLoader.Pattern
