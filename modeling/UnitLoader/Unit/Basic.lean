import UnitLoader.Program.Statement
import UnitLoader.Program.UnitName
import UnitLoader.Suffix
import UnitLoader.Table

/-!
# Loaded units

A unit has a name that never changes, what is known of where it came from, and its attributes.
Four attributes tell what is known: the name, the origin, the name of the unit around it and, of a
container, where its children are looked for.

## Main definitions

* `UnitLoader.LoadedUnit`: units, with `ofName`, `bindMetadata`, `setOrigin` and `setAttribute`.
* `UnitLoader.LoadedUnit.userAttributes`: the attributes that a program has set.

## Main results

* `UnitLoader.LoadedUnit.attribute?_setAttribute`: what is found after an attribute is set.
* `UnitLoader.LoadedUnit.attribute?_bindMetadata`: what is found after metadata is bound.
-/

namespace UnitLoader

/-- A unit. -/
structure LoadedUnit where
  name : String
  /-- The path of the artifact that the unit was loaded from. -/
  origin : Option String
  kind : Option ArtifactKind
  /-- Whether the unit may have children. -/
  isContainer : Bool
  /-- The directories in which children are looked for. -/
  locations : List String
  attributes : Table Value
  deriving Repr

namespace LoadedUnit

/-- The attribute that holds the name of a unit. -/
def nameKey : String := "__name__"

/-- The attribute that holds the origin of a unit. -/
def fileKey : String := "__file__"

/-- The attribute that holds the name of the unit around a unit. -/
def packageKey : String := "__package__"

/-- The attribute that holds the locations of a container. -/
def pathKey : String := "__path__"

/-- A new unit, of which nothing but the name is known. -/
def ofName (name : String) : LoadedUnit :=
  ⟨name, none, none, false, [], Table.empty.insert nameKey (.str name)⟩

/-- There is a unit, the one without a name. -/
instance : Inhabited LoadedUnit := ⟨ofName ""⟩

/-- The value of an attribute. -/
def attribute? (u : LoadedUnit) (key : String) : Option Value :=
  u.attributes.get? key

/-- The unit with an attribute set. -/
def setAttribute (u : LoadedUnit) (key : String) (value : Value) : LoadedUnit :=
  { u with attributes := u.attributes.insert key value }

/-- Attributes with the one that holds the origin in keeping with it. -/
def withFile (attributes : Table Value) : Option String → Table Value
  | some origin => attributes.insert fileKey (.str origin)
  | none => attributes.erase fileKey

/-- The unit with another origin. -/
def setOrigin (u : LoadedUnit) (origin : Option String) : LoadedUnit :=
  { u with attributes := withFile u.attributes origin, origin }

/-- The value that lists locations. -/
def locationsValue (locations : List String) : Value :=
  .list (locations.map .str)

/-- The unit with what is known of where it came from. Locations make it a container; without them
it stays what it was. -/
def bindMetadata (u : LoadedUnit) (origin : Option String) (kind : Option ArtifactKind)
    (locations : Option (List String)) : LoadedUnit :=
  let known := (u.attributes.insert nameKey (.str u.name)).insert packageKey
    (.str ((UnitName.parent? u.name).getD ""))
  let attributes := withFile known origin
  match locations with
  | some found =>
    { u with attributes := attributes.insert pathKey (locationsValue found), origin, kind,
             isContainer := true, locations := found }
  | none => { u with attributes, origin, kind }

/-- Whether a key is one of those that begin and end with two underscores. -/
def isReservedKey (key : String) : Bool :=
  let marks := ['_', '_']
  marks.isPrefixOf key.toList && marks.isSuffixOf key.toList

/-- The attributes whose keys are not reserved. -/
def userAttributes (u : LoadedUnit) : Table Value :=
  ⟨u.attributes.entries.filter fun e => !isReservedKey e.1⟩

/-! ## What is kept -/

/-- Setting an attribute does not change the name of a unit. -/
@[simp]
theorem name_setAttribute (u : LoadedUnit) (key : String) (value : Value) :
    (u.setAttribute key value).name = u.name := rfl

/-- Binding metadata does not change the name of a unit. -/
@[simp]
theorem name_bindMetadata (u : LoadedUnit) (origin : Option String) (kind : Option ArtifactKind)
    (locations : Option (List String)) : (u.bindMetadata origin kind locations).name = u.name := by
  cases locations <;> rfl

/-! ## What is found -/

/-- An attribute that was set has its new value, and every other attribute the value it had. -/
theorem attribute?_setAttribute (u : LoadedUnit) (key other : String) (value : Value) :
    (u.setAttribute key value).attribute? other =
      if key = other then some value else u.attribute? other := by
  simp [setAttribute, attribute?, Table.get?_insert]

/-- With the path of a file told, only the attribute for that path is another, or gone. -/
theorem get?_withFile (t : Table Value) (origin : Option String) (key : String) :
    (withFile t origin).get? key = if fileKey = key then origin.map .str else t.get? key := by
  cases origin <;> simp [withFile, Table.get?_insert, Table.get?_erase]

/-- Binding metadata sets the four attributes that tell it, and no other. -/
theorem attribute?_bindMetadata (u : LoadedUnit) (origin : Option String)
    (kind : Option ArtifactKind) (locations : Option (List String)) (key : String) :
    (u.bindMetadata origin kind locations).attribute? key =
      if pathKey = key then (locations.map locationsValue).or (u.attribute? pathKey)
      else if fileKey = key then origin.map .str
      else if packageKey = key then some (.str ((UnitName.parent? u.name).getD ""))
      else if nameKey = key then some (.str u.name)
      else u.attribute? key := by
  have h₁ : fileKey ≠ pathKey := by decide
  have h₂ : packageKey ≠ pathKey := by decide
  have h₃ : nameKey ≠ pathKey := by decide
  cases locations <;> simp only [bindMetadata, attribute?, Table.get?_insert, get?_withFile] <;>
    by_cases h : pathKey = key <;> simp_all

end LoadedUnit

end UnitLoader
