import UnitLoader.Pattern.CharClass

/-!
# Patterns

A pattern is a sequence of parts, or several of them with bars between them. A part is an atom, a
class or a group, which may be repeated. What is read so far is the group that the text has reached,
with the groups around it.

## Main definitions

* `UnitLoader.Pattern.Group`: a group that is still open.
* `UnitLoader.Pattern.Reading`: what is read so far.
* `UnitLoader.Pattern.height?`: how high the parts of a pattern are nested.
* `UnitLoader.Pattern.isPattern`: whether a text is a pattern.
-/

namespace UnitLoader.Pattern

open Text

/-- A part of a pattern that is complete. -/
structure Part where
  height : Nat := 0
  /-- Flags that are set in between stand for nothing that could be repeated. -/
  repeatable : Bool := true
  deriving DecidableEq, Repr

/-- A group that is still open, or the whole pattern. -/
structure Group where
  mode : Mode
  /-- The parts since the last bar, the last first. -/
  parts : List Part := []
  /-- The heights of the sequences before it. -/
  branches : List Nat := []
  deriving Repr

namespace Group

/-- The height of the sequence since the last bar. -/
def sequence (g : Group) : Nat :=
  joined (g.parts.map (·.height))

/-- The height of what the group holds. -/
def height (g : Group) : Nat :=
  joined (g.sequence :: g.branches)

/-- The group with one more part. -/
def add (g : Group) (p : Part) : Group :=
  { g with parts := p :: g.parts }

/-- The group after a bar. -/
def branch (g : Group) : Group :=
  { g with parts := [], branches := g.sequence :: g.branches }

/-- The group with its last part repeated. -/
def repeatLast? (g : Group) : Option Group :=
  match g.parts with
  | p :: parts =>
    if p.repeatable then some { g with parts := ⟨p.height + 1, true⟩ :: parts } else none
  | [] => none

end Group

/-- What is read so far of a pattern. -/
structure Reading where
  group : Group := { mode := {} }
  /-- The groups around it, the innermost first. -/
  outer : List Group := []
  /-- The names of groups. -/
  names : List (List Char) := []
  deriving Repr

namespace Reading

/-! ## Groups -/

/-- The reading after the opening of a group. -/
def enter (r : Reading) (mode : Mode) : Reading :=
  { r with group := { mode }, outer := r.group :: r.outer }

/-- The reading after the end of a group. -/
def leave? (r : Reading) : Option Reading :=
  match r.outer with
  | g :: outer => some { r with group := g.add ⟨r.group.height + 1, true⟩, outer }
  | [] => none

/-- Whether a text is the name of a group. -/
def isGroupName : List Char → Bool
  | [] => false
  | c :: cs =>
    (c = '_' || isAlphabetic c) &&
      cs.all fun c => c ∈ ['_', '.', '[', ']'] || isAlphabetic c || isNumeric c

/-- The reading after the opening of a group with a name, which begins the text. No two groups have
the same name. -/
def enterNamed? (r : Reading) (text : List Char) : Option (Reading × List Char) :=
  let name := text.takeWhile (· ≠ '>')
  match text.drop name.length with
  | '>' :: rest =>
    if isGroupName name && name ∉ r.names then
      some ({ r.enter r.group.mode with names := name :: r.names }, rest)
    else none
  | _ => none

/-- The reading after flags, which begin the text. They hold for the group that a colon opens, or
from here on to the end of the group that is open. -/
def setFlags? (r : Reading) (text : List Char) : Option (Reading × List Char) :=
  let flags := text.takeWhile fun c => c ≠ ':' && c ≠ ')'
  let mode := r.group.mode.switch flags
  if !Mode.areFlags flags then none
  else match text.drop flags.length with
  | ':' :: rest => some (r.enter mode, rest)
  | ')' :: rest =>
    if flags = [] then none
    else some ({ r with group := { r.group.add ⟨0, false⟩ with mode } }, rest)
  | _ => none

/-- The reading after what begins with a parenthesis that opens. -/
def enter? (r : Reading) (text : List Char) : Option (Reading × List Char) :=
  match r.group.mode.skip text with
  | '?' :: 'P' :: '<' :: rest | '?' :: '<' :: rest => r.enterNamed? rest
  | '?' :: rest => r.setFlags? rest
  | rest => some (r.enter r.group.mode, rest)

/-! ## Parts -/

/-- What a text begins with, where nothing but atoms is left. -/
def atom? (m : Mode) : Char → List Char → Option (Atom × List Char)
  | '\\', cs => escape? m cs
  | '.', cs => some (.any, cs)
  | '^', cs | '$', cs => some (.edge, cs)
  | c, cs => some (.char c false, cs)

/-- The reading with the group changed. -/
def withGroup (r : Reading) (g : Group) : Reading :=
  { r with group := g }

/-- The reading after one more part or mark, and the text after that. A count of repetitions
between braces is no pattern here, because a brace ends the field that a pattern stands in. -/
def step? (r : Reading) (c : Char) (cs : List Char) : Option (Reading × List Char) :=
  if c = '(' then r.enter? cs
  else if c = ')' then r.leave?.map (·, cs)
  else if c = '|' then some (r.withGroup r.group.branch, cs)
  else if c = '[' then
    (readClass? r.group.mode cs).map fun (h, rest) => (r.withGroup (r.group.add ⟨h, true⟩), rest)
  else if c = '*' || c = '+' || c = '?' then
    r.group.repeatLast?.map fun g => (r.withGroup g, if cs.head? = some '?' then cs.tail else cs)
  else if c = '\x7b' then none
  else do
    let (a, rest) ← atom? r.group.mode c cs
    if r.group.mode.admits a then return (r.withGroup (r.group.add {}), rest) else none

/-- The reading of a text of at most so many characters. -/
def readOn? : Nat → Reading → List Char → Option Reading
  | 0, _, _ => none
  | size + 1, r, text =>
    match r.group.mode.skip text with
    | [] => some r
    | c :: cs => (r.step? c cs).bind fun (r, rest) => readOn? size r rest

end Reading

/-! ## Patterns -/

/-- How high the parts of a pattern are nested. -/
def height? (text : List Char) : Option Nat :=
  match Reading.readOn? (text.length + 1) {} text with
  | some ⟨g, [], _⟩ => some g.height
  | _ => none

/-- How high the parts of a pattern may be nested. -/
def maxHeight : Nat := 250

/-- Whether a text is a pattern. -/
def isPattern (text : List Char) : Bool :=
  (height? text).any (· ≤ maxHeight)

end UnitLoader.Pattern
