import UnitLoader.Settings.Basic
import UnitLoader.Toml.Document

/-!
# Settings as a document

Settings are written as a TOML document with four sections. A section that is left out stands for
the usual settings, and so does an entry that may be left out. What is not known is skipped.

## Main definitions

* `UnitLoader.Settings.ofTable?`: the settings that the table of a document tells.
* `UnitLoader.Settings.ofDocument?`: the settings that a document tells.
* `UnitLoader.Settings.usualDocument`: a document that tells the usual settings, with comments.
-/

namespace UnitLoader.Settings

/-! ## Entries -/

/-- An entry that may be left out. -/
def entryOr {α : Type} (entry : Option Toml.Value) (read : Toml.Value → Option α) (usual : α) :
    Option α :=
  match entry with
  | some v => read v
  | none => some usual

/-- The entries of a section. A date counts as a table too, one in which nothing is known. -/
def tableOf? : Toml.Value → Option (Table Toml.Value)
  | .table _ entries => some entries
  | .dateTime _ => some .empty
  | _ => none

/-- The entries of a section by name. A section may also be an array of its entries, in order. -/
def entriesOf? (names : List String) (v : Toml.Value) : Option (Table Toml.Value) :=
  (tableOf? v).or (v.items?.map fun items => .ofList (names.zip items))

/-! ## Sections -/

/-- The section on where units are and how their artifacts are named. -/
def readLoader (s : Settings) (v : Toml.Value) : Option Settings := do
  let entries ← tableOf? v
  let texts (name : String) (usual : List String) : Option (List String) :=
    entryOr (entries.get? name) Toml.Value.texts? usual
  let roots ← texts "roots" s.roots
  let preload ← texts "preload" s.preload
  let native ← texts "native" s.rules.native
  let source ← texts "source" s.rules.source
  let compiled ← texts "compiled" s.rules.compiled
  let initializer ← entryOr (entries.get? "initializer") Toml.Value.text? s.rules.initializer
  return { s with roots, preload, rules := { native, source, compiled, initializer } }

/-- The section on rights, which must tell them. -/
def readRights (s : Settings) (v : Toml.Value) : Option Settings := do
  let entries ← entriesOf? ["granted"] v
  let granted ← (← entries.get? "granted").texts?
  return { s with granted }

/-- The section on restricting, which must tell the variable. -/
def readRestrict (s : Settings) (v : Toml.Value) : Option Settings := do
  let entries ← entriesOf? ["skip_env", "evict_after"] v
  let skipVariable ← (← entries.get? "skip_env").text?
  let evictAfter ← entryOr (entries.get? "evict_after") Toml.Value.texts? s.evictAfter
  return { s with skipVariable, evictAfter }

/-- The section on the log, which must tell the level. -/
def readLogging (s : Settings) (v : Toml.Value) : Option Settings := do
  let entries ← entriesOf? ["level"] v
  let level ← (← entries.get? "level").text?
  return { s with level }

/-! ## Documents -/

/-- The settings that the table of a document tells. -/
def ofTable? (document : Table Toml.Value) : Option Settings := do
  let s : Settings := {}
  let s ← entryOr (document.get? "loader") s.readLoader s
  let s ← entryOr (document.get? "rights") s.readRights s
  let s ← entryOr (document.get? "restrict") s.readRestrict s
  entryOr (document.get? "logging") s.readLogging s

/-- The settings that a document tells. -/
def ofDocument? (document : List Char) : Option Settings := do
  ofTable? (← Toml.read? document)

/-- A document that tells the usual settings, with comments. -/
def usualDocument : String :=
  "# Capsule Host Configuration
# This file configures how units are found and loaded after the host
# enters restricted mode.

[loader]
# Root directories searched for units, in order. The first root with any
# matching artifact wins.
roots = []

# Units imported before restricted mode is entered, so their own
# dependencies are loaded while path-based access still works.
preload = []

# Artifact suffixes, probed in this order: native, source, compiled.
native = [\".so\"]
source = [\".src\"]
compiled = [\".cache\"]

# File stem of a container's initializer (pkg/__init__.src)
initializer = \"__init__\"

[rights]
# Rights left on every root handle.
# Available: read, lookup, fstat, seek, mmap, mmap_rx, fcntl, fstatfs, ioctl
granted = [\"fcntl\", \"fstat\", \"fstatfs\", \"lookup\", \"mmap\", \"mmap_rx\", \"read\", \"seek\"]

[restrict]
# When this environment variable is set, the host stays unrestricted.
skip_env = \"CAPSULE_UNRESTRICT\"

# Units dropped from the registry once restricted mode is entered.
# evict_after = [\"bootstrap\"]

[logging]
# Log level: trace, debug, info, warn, error
# Default: \"info\"
level = \"info\"
"

end UnitLoader.Settings
