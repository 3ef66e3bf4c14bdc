import UnitLoader.Program.UnitName
import UnitLoader.Suffix

/-!
# Settings

Settings say where units are found and how their artifacts are named, what is imported in advance,
which rights are left on the roots, and what is done when the process is restricted.

## Main definitions

* `UnitLoader.Settings`: settings, with the usual ones as defaults.
* `UnitLoader.SettingsFault`: what can be wrong with settings.
* `UnitLoader.Settings.faults`: what is wrong with settings, in the order in which it is looked for.
* `UnitLoader.Settings.check`: the first thing that is wrong.
-/

namespace UnitLoader

/-- Settings of a loader and of the process around it. -/
structure Settings where
  /-- The directories in which units are looked for, in order. -/
  roots : List String := []
  /-- The units that are imported before the roots are installed. -/
  preload : List String := []
  rules : SuffixRules := {}
  /-- The names of the rights that are left on the roots. -/
  granted : List String :=
    ["fcntl", "fstat", "fstatfs", "lookup", "mmap", "mmap_rx", "read", "seek"]
  /-- The environment variable that, when set, keeps the process unrestricted. -/
  skipVariable : String := "CAPSULE_UNRESTRICT"
  /-- The units that are evicted once the process is restricted. -/
  evictAfter : List String := []
  /-- The level of the log. -/
  level : String := "info"
  deriving DecidableEq, Repr

/-- There are settings, those of an empty document. -/
instance : Inhabited Settings := ⟨{}⟩

/-- What can be wrong with settings. -/
inductive SettingsFault where
  | level (name : String)
  /-- There is no suffix for sources. -/
  | noSource
  | suffix (suffix : String)
  | initializer (name : String)
  | unitName (name : String)
  /-- The name of a right is blank. -/
  | blankRight
  /-- The variable that keeps the process unrestricted has no name. -/
  | noSkipVariable
  deriving DecidableEq, Repr

namespace Settings

/-- The levels of the log. -/
def levels : List String :=
  ["trace", "debug", "info", "warn", "error"]

/-- Whether a text is a suffix: a dot with something after it, and no slash. -/
def isSuffix (suffix : String) : Bool :=
  2 ≤ suffix.utf8ByteSize && suffix.toList.head? = some '.' && '/' ∉ suffix.toList

/-- Whether a text can name the initializer: it is not empty and has neither slash nor dot. -/
def isInitializer (name : String) : Bool :=
  name ≠ "" && '/' ∉ name.toList && '.' ∉ name.toList

/-- Whether a text can name a unit: no segment of it is empty. -/
def isUnitName (name : String) : Bool :=
  (UnitName.segments name).all (!·.isEmpty)

/-- Whether a text is nothing but blanks. -/
def isBlank (text : String) : Bool :=
  text.toList.all Text.isBlank

/-- All suffixes, those of native libraries first, those of caches last. -/
def suffixes (s : Settings) : List String :=
  s.rules.candidates.map (·.2)

/-- What is wrong with settings, in the order in which it is looked for. -/
def faults (s : Settings) : List SettingsFault :=
  (if s.level ∈ levels then [] else [.level s.level]) ++
  (if s.rules.source = [] then [.noSource] else []) ++
  (s.suffixes.filter (!isSuffix ·)).map .suffix ++
  (if isInitializer s.rules.initializer then [] else [.initializer s.rules.initializer]) ++
  ((s.preload ++ s.evictAfter).filter (!isUnitName ·)).map .unitName ++
  (if s.granted.any isBlank then [.blankRight] else []) ++
  (if s.skipVariable = "" then [.noSkipVariable] else [])

/-- The settings, unless something is wrong with them. The first fault is told. -/
def check (s : Settings) : Except SettingsFault Settings :=
  match s.faults with
  | [] => .ok s
  | fault :: _ => .error fault

end Settings

/-- How a fault of settings reads. -/
def SettingsFault.message : SettingsFault → String
  | .level name =>
    s!"Invalid logging.level: {name}. Must be one of: " ++ ", ".intercalate Settings.levels
  | .noSource => "loader.source must list at least one suffix"
  | .suffix text => "Invalid suffix '" ++ text ++ "': must be '.' followed by a name"
  | .initializer name => "Invalid loader.initializer: '" ++ name ++ "'"
  | .unitName name => "Invalid unit name in configuration: '" ++ name ++ "'"
  | .blankRight => "rights.granted must not contain empty names"
  | .noSkipVariable => "restrict.skip_env must not be empty"

end UnitLoader
