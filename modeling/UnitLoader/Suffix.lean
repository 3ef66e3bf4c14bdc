import UnitLoader.Path

/-!
# Suffix rules

The name of an artifact is the unit's short name, or the name of the initializer, with a suffix
that tells its kind. There may be several suffixes for one kind.

## Main definitions

* `UnitLoader.ArtifactKind`, `UnitLoader.SuffixRules`.
* `UnitLoader.SuffixRules.candidates`: all suffixes in the order in which they are tried.
* `UnitLoader.SuffixRules.cacheForSource?`, `UnitLoader.SuffixRules.sourceForCache?`: the path of
  the other form of a unit, in the same directory.
-/

namespace UnitLoader

/-- The kinds of artifacts. -/
inductive ArtifactKind where
  | nativeLibrary
  | source
  | compiledCache
  deriving DecidableEq, Repr

/-- The suffixes of each kind, and the name of the file that makes a directory a container. -/
structure SuffixRules where
  native : List String := [".so"]
  source : List String := [".src"]
  compiled : List String := [".cache"]
  initializer : String := "__init__"
  deriving DecidableEq, Repr

/-- There are suffix rules, those that hold unless others are chosen. -/
instance : Inhabited SuffixRules := ⟨{}⟩

/-- The text without a suffix, if it ends in it. -/
def stripSuffix? (suffix text : String) : Option String :=
  (suffix.toList.reverse.isPrefixOf? text.toList.reverse).map fun rest =>
    String.ofList rest.reverse

/-- The path with one suffix of its last name replaced by another. -/
def replaceSuffix? (path old new : String) : Option String := do
  let (before, name) ← Path.split? path
  let stem ← stripSuffix? old name
  return Path.join before (stem ++ new)

namespace SuffixRules

/-- The suffixes in the order in which they are tried: native libraries, sources, caches. -/
def candidates (rules : SuffixRules) : List (ArtifactKind × String) :=
  rules.native.map (.nativeLibrary, ·) ++ rules.source.map (.source, ·) ++
    rules.compiled.map (.compiledCache, ·)

/-- The path of the cache of a source: the first source suffix that the name has is replaced by
the first cache suffix. -/
def cacheForSource? (rules : SuffixRules) (source : String) : Option String := do
  let new ← rules.compiled.head?
  rules.source.findSome? fun old => replaceSuffix? source old new

/-- The path of the source of a cache: the first cache suffix that the name has is replaced by the
first source suffix. -/
def sourceForCache? (rules : SuffixRules) (cache : String) : Option String := do
  let new ← rules.source.head?
  rules.compiled.findSome? fun old => replaceSuffix? cache old new

end SuffixRules

end UnitLoader
