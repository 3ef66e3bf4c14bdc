import UnitLoader.Handle
import UnitLoader.Suffix

/-!
# Resolutions

What looking up a unit's name finds: an artifact and the way to load it, or directories that have
the unit's name and no initializer.

## Main definitions

* `UnitLoader.Artifact`: artifacts, with `origin`.
* `UnitLoader.Strategy`: ways to load an artifact, with `Strategy.forArtifact`.
* `UnitLoader.Resolution`: what is found.
-/

namespace UnitLoader

/-- An artifact that was chosen for a unit. -/
structure Artifact where
  /-- The full name of the unit. -/
  name : String
  /-- The directory that the path is taken from. -/
  directory : Handle
  path : String
  kind : ArtifactKind
  /-- Where the children are looked for, if the artifact initializes a container. -/
  locations : Option (List String)
  deriving Repr

/-- The path of an artifact, for messages and metadata. -/
def Artifact.origin (a : Artifact) : String :=
  Path.join a.directory.nameText a.path

/-- A way to load an artifact. Paths are taken from its directory. -/
inductive Strategy where
  /-- Run the source. -/
  | source
  /-- Run the cache, unless there is a source at the path and it is of another time. -/
  | compiledCache (source : Option String)
  /-- Run the cache at the path, or the source if that cache is of no use. -/
  | cacheThenSource (cache : String)
  /-- Link the library and call its entry point. -/
  | nativeLibrary
  deriving DecidableEq, Repr

/-- The way to load an artifact of a kind at a path. -/
def Strategy.forArtifact (rules : SuffixRules) (kind : ArtifactKind) (path : String) : Strategy :=
  match kind with
  | .nativeLibrary => .nativeLibrary
  | .compiledCache => .compiledCache (rules.sourceForCache? path)
  | .source =>
    match rules.cacheForSource? path with
    | some cache => .cacheThenSource cache
    | none => .source

/-- What is found for a name. -/
inductive Resolution where
  | artifact (artifact : Artifact) (strategy : Strategy)
  /-- Directories of the unit's name, none of which has an initializer. -/
  | portions (name : String) (locations : List String)
  deriving Repr

end UnitLoader
