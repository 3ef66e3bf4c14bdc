import UnitLoader.Text.Pieces

/-!
# Unit names and identifiers

The qualified name of a unit is a sequence of segments with dots between them; all segments but
the last name the units that contain it. The unit language writes names in a narrower form, as
identifiers with dots between them.

## Main definitions

* `UnitLoader.UnitName.segments`, `UnitLoader.UnitName.short`, `UnitLoader.UnitName.parent?`.
* `UnitLoader.UnitName.lineage`: a name and the names of the units around it, inside out;
  `UnitLoader.UnitName.ancestors` leaves the name itself out.
* `UnitLoader.UnitName.isImportable`: the names that can be imported.
* `UnitLoader.isIdentifier`: the identifiers of the unit language.
-/

namespace UnitLoader

open Text

namespace UnitName

/-- The segments of a name. -/
def segments (name : String) : List (List Char) :=
  pieces '.' name.toList

/-- The name with the given segments. -/
def ofSegments (segments : List (List Char)) : String :=
  String.ofList (joinWith '.' segments)

/-- The last segment of a name. -/
def short (name : String) : String :=
  String.ofList ((segments name).getLastD [])

/-- The name of the enclosing unit: all segments but the last. -/
def parent? (name : String) : Option String :=
  match (segments name).dropLast with
  | [] => none
  | around => some (ofSegments around)

/-- The first segment of a name. -/
def top (name : String) : String :=
  String.ofList ((segments name).headD [])

/-- The name of a child. -/
def child (parent name : String) : String :=
  parent ++ "." ++ name

/-- The names that the beginnings of a list of segments make up, the longest first. The segments
come last first. -/
def lineageOf : List (List Char) → List String
  | [] => []
  | s :: around => ofSegments (s :: around).reverse :: lineageOf around

/-- A name, the name of the unit around it, and so on up to the outermost. -/
def lineage (name : String) : List String :=
  lineageOf (segments name).reverse

/-- The names of the units around the unit of a name, inside out. -/
def ancestors (name : String) : List String :=
  (lineage name).tail

/-- Whether a segment can be looked up: it is not empty and has no slash, backslash, NUL or
blank. -/
def isSegment (segment : List Char) : Bool :=
  segment ≠ [] && segment.all fun c => c ≠ '/' && c ≠ '\\' && c ≠ '\x00' && !isBlank c

/-- Whether a name can be imported: every segment of it can be looked up. -/
def isImportable (name : String) : Bool :=
  (segments name).all isSegment

end UnitName

/-- An identifier begins with a letter or an underscore; letters, digits and underscores follow. -/
def isIdentifier : List Char → Bool
  | [] => false
  | c :: cs =>
    (isAlphabetic c || c = '_') && cs.all fun c => isAlphabetic c || isNumeric c || c = '_'

end UnitLoader
