import UnitLoader.Table

/-!
# TOML values

A TOML document is a table. Texts and dates are told apart from all other plain values, of which
only the spelling is kept. A table remembers how it came into being, because that decides what may
still be added to it.

## Main definitions

* `UnitLoader.Toml.Value`, `UnitLoader.Toml.TableKind`.
* `UnitLoader.Toml.Section`: a table that is being built.
* `UnitLoader.Toml.Section.at?`: a change at the end of a path of keys.
* `UnitLoader.Toml.Section.define?`, `UnitLoader.Toml.Section.openTable?`,
  `UnitLoader.Toml.Section.appendTable?`: what keys and headers do.
-/

namespace UnitLoader.Toml

/-- How a table came into being. -/
inductive TableKind where
  /-- It is written between braces, and complete. -/
  | inlined
  /-- It has a header of its own, or is the whole document. -/
  | defined
  /-- It is on the way to a table that has a header. -/
  | implied
  /-- It is on the way of a dotted key. -/
  | dotted
  deriving DecidableEq, Repr

/-- A value of a document. -/
inductive Value where
  | text (text : String)
  /-- A number or a truth value, as it is spelled. -/
  | plain (spelling : List Char)
  /-- A date, a time or both, as it is spelled. -/
  | dateTime (spelling : List Char)
  | array (items : List Value)
  | table (kind : TableKind) (entries : Table Value)
  /-- Tables with the same header, the last first. -/
  | tables (last : Table Value) (before : List (Table Value))
  deriving Repr

/-- A table that is being built. -/
structure Section where
  kind : TableKind
  entries : Table Value := .empty
  deriving Repr

namespace Section

/-- The section with the value of a key set. -/
def set (s : Section) (key : String) (value : Value) : Section :=
  { s with entries := s.entries.insert key value }

/-- The section with a change made to the table that a path of keys leads to. Tables that are
missing on the way are made, of the given kind. A table of a dotted key or on the way to a header
can be entered; one with a header of its own can be entered on the way to another header only. Of
tables with the same header the last is entered. -/
def at? (kind : TableKind) (change : Section → Option Section) :
    List String → Section → Option Section
  | [], s => change s
  | key :: keys, s =>
    match s.entries.get? key with
    | none => do
      let child ← at? kind change keys { kind }
      return s.set key (.table child.kind child.entries)
    | some (.table .inlined _) => none
    | some (.table childKind entries) =>
      if kind = .dotted && childKind = .defined then none
      else do
        let child ← at? kind change keys { kind := childKind, entries }
        return s.set key (.table child.kind child.entries)
    | some (.tables last before) => do
      let child ← at? kind change keys { kind := .defined, entries := last }
      return s.set key (.tables child.entries before)
    | some _ => none

/-- The section with a value at the end of a dotted key. The key must be new, and the table that
it is put into must be one of dotted keys, if there is a dot. -/
def define? (path : List String) (key : String) (value : Value) : Section → Option Section :=
  at? .dotted (fun s =>
    if (s.kind = .dotted) = (path = []) || s.entries.contains key then none
    else some (s.set key value)) path

/-- The section with a table that has a header. There must be none yet, unless it is only on the
way to others that have one. -/
def openTable? (path : List String) (key : String) : Section → Option Section :=
  at? .implied (fun s =>
    match s.entries.get? key with
    | none => some (s.set key (.table .defined .empty))
    | some (.table .implied entries) => some (s.set key (.table .defined entries))
    | some _ => none) path

/-- The section with one more of the tables with the same header. -/
def appendTable? (path : List String) (key : String) : Section → Option Section :=
  at? .implied (fun s =>
    match s.entries.get? key with
    | none => some (s.set key (.tables .empty []))
    | some (.tables last before) => some (s.set key (.tables .empty (last :: before)))
    | some _ => none) path

end Section

/-! ## Reading values -/

/-- The text that a value is. -/
def Value.text? : Value → Option String
  | .text s => some s
  | _ => none

/-- The items of a value that is an array, or tables with the same header. -/
def Value.items? : Value → Option (List Value)
  | .array items => some items
  | .tables last before => some ((last :: before).reverse.map (.table .defined))
  | _ => none

/-- The texts that the items of an array are. -/
def Value.texts? (v : Value) : Option (List String) :=
  v.items?.bind (·.mapM Value.text?)

end UnitLoader.Toml
