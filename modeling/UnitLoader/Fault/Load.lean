import UnitLoader.Fault.Io
import UnitLoader.Program.Parser
import UnitLoader.Text.Quoted
import UnitLoader.Text.Utf8

/-!
# Load errors

Whatever keeps a unit from being found, read, linked or run. An error says what is at fault; how
it reads is decided in one place, `LoadError.message`. Parts that an outer layer supplies as plain
text are notes.

## Main definitions

* `UnitLoader.LoadError`: the errors.
* `UnitLoader.LoadError.message`: how an error reads.
* `UnitLoader.LoadError.isCacheRecoverable`: whether the source may stand in for the cache.
* `UnitLoader.LoadError.isNotFound`: whether the error says that nothing is there.
* `UnitLoader.LoadError.ofArtifactFault`: a failed access to an artifact.
-/

namespace UnitLoader

/-- What is missing. -/
inductive Missing where
  /-- Nothing is found for a unit. -/
  | unit (name : String)
  /-- The unit around the missing one can contain none. -/
  | inNoContainer (name parent : String)
  /-- There is nothing at a path. -/
  | absent (path : String) (fault : IoFault)
  | note (text : String)
  deriving DecidableEq, Repr

/-- Why a path is not taken. -/
inductive PathFault where
  | empty
  /-- The path climbs above where it begins. -/
  | escapes (path : String)
  /-- The path is absolute and not beneath the directory. -/
  | notBeneath (path directory : String)
  | namesDirectory (path : String)
  | holdsNul (path : String)
  | unitName (name : String)
  | note (text : String)
  deriving DecidableEq, Repr

/-- Why a cache is no good. -/
inductive CacheFault where
  | truncatedMagic
  | badMagic (magic : UInt32)
  | undecodable
  | note (text : String)
  deriving DecidableEq, Repr

/-- Why a mode is not taken. -/
inductive ModeFault where
  /-- Letters that ask for more than reading. -/
  | refused (letters : String)
  | note (text : String)
  deriving DecidableEq, Repr

/-- Why a native library does not load. -/
inductive LinkFault where
  /-- The file is no library. -/
  | refused (origin : String)
  /-- The entry point returned without registering the unit. -/
  | unregistered (symbol name : String)
  | note (text : String)
  deriving DecidableEq, Repr

/-- Why a source text is no program. -/
inductive SourceFault where
  | notUtf8 (fault : Text.Utf8.Fault)
  | line (fault : ParseFault)
  | note (text : String)
  deriving DecidableEq, Repr

/-- Why a program gave up. -/
inductive Failure where
  | undefined (name : String)
  | cannotImport (name module : String)
  | raised (message : String)
  deriving DecidableEq, Repr

/-- What keeps a unit from being found or loaded. -/
inductive LoadError where
  | missingArtifact (what : Missing)
  | inaccessibleArtifact (path : String) (fault : IoFault)
  | corruptCache (path : String) (fault : CacheFault)
  | incompleteCache (path : String)
  | staleCache (path : String) (cached source : UInt32)
  | dynamicLoadFailure (fault : LinkFault)
  | entryPointNotFound (symbol : String) (detail : Option String)
  | badPath (fault : PathFault)
  | badMode (fault : ModeFault)
  | closedHandle (name : String)
  | rightsDenied (handle right : String)
  | badSource (origin : String) (line : Nat) (fault : SourceFault)
  | executionFailed (unit : String) (failure : Failure)
  | io (fault : IoFault)
  | badJson
  /-- Loads nest deeper than there are units to load. -/
  | tooDeep
  deriving DecidableEq, Repr

/-! ## Messages -/

/-- How a missing thing reads. -/
def Missing.message : Missing → String
  | .unit name => name
  | .inNoContainer name parent => s!"{name} ({parent} is not a container)"
  | .absent path fault => s!"{path}: {fault.message}"
  | .note text => text

/-- How the fault of a path reads. -/
def PathFault.message : PathFault → String
  | .empty => "empty path"
  | .escapes path => s!"{path} escapes its root"
  | .notBeneath path directory => s!"path {path} not a child of {directory}"
  | .namesDirectory path => s!"{path} names the directory itself"
  | .holdsNul path => s!"{Text.quoted path} contains a NUL byte"
  | .unitName name => "invalid unit name '" ++ name ++ "'"
  | .note text => text

/-- A number of 32 bits in eight hexadecimal digits. -/
def hex32 (n : UInt32) : String :=
  let digits := Nat.toDigits 16 n.toNat
  String.ofList (List.replicate (8 - digits.length) '0' ++ digits)

/-- How the fault of a cache reads. -/
def CacheFault.message : CacheFault → String
  | .truncatedMagic => "truncated magic number"
  | .badMagic magic => s!"bad magic number 0x{hex32 magic}"
  | .undecodable => "undecodable body"
  | .note text => text

/-- How the fault of a mode reads. -/
def ModeFault.message : ModeFault → String
  | .refused letters => s!"invalid mode components {Text.quoted letters}"
  | .note text => text

/-- How the fault of a library reads. -/
def LinkFault.message : LinkFault → String
  | .refused origin => origin
  | .unregistered symbol name => s!"{symbol} did not register unit {name}"
  | .note text => text

/-- How the fault of a source text reads. -/
def SourceFault.message : SourceFault → String
  | .notUtf8 fault => s!"source is not UTF-8: {fault.message}"
  | .line fault => fault.message
  | .note text => text

/-- How the failure of a program reads. -/
def Failure.message : Failure → String
  | .undefined name => "name '" ++ name ++ "' is not defined"
  | .cannotImport name module => "cannot import name '" ++ name ++ "' from '" ++ module ++ "'"
  | .raised message => message

namespace LoadError

/-- How an error reads. -/
def message : LoadError → String
  | .missingArtifact what => s!"Missing artifact: {what.message}"
  | .inaccessibleArtifact path fault => s!"Inaccessible artifact {path}: {fault.message}"
  | .corruptCache path fault => s!"Corrupt cache {path}: {fault.message}"
  | .incompleteCache path => s!"Incomplete cache {path}: truncated modification time"
  | .staleCache path cached source =>
    s!"Stale cache {path}: cached mtime {cached.toNat}, source mtime {source.toNat}"
  | .dynamicLoadFailure fault => s!"Dynamic load failure: {fault.message}"
  | .entryPointNotFound symbol none => s!"Entry point {symbol} not found"
  | .entryPointNotFound symbol (some detail) => s!"Entry point {symbol} not found: {detail}"
  | .badPath fault => s!"Bad path: {fault.message}"
  | .badMode fault => s!"Bad mode: {fault.message}"
  | .closedHandle name => s!"Closed handle: {name}"
  | .rightsDenied handle right => "Right '" ++ right ++ "' not granted on " ++ handle
  | .badSource origin line fault => s!"Syntax error in {origin} line {line}: {fault.message}"
  | .executionFailed unit failure => s!"Execution of {unit} failed: {failure.message}"
  | .io fault => s!"IO error: {fault.message}"
  | .badJson => "JSON error"
  | .tooDeep => "Loads nest too deep"

/-! ## Classes -/

/-- Whether the source of a unit may be loaded where loading its cache ends in this error. -/
def isCacheRecoverable : LoadError → Bool
  | .missingArtifact _ | .corruptCache _ _ | .incompleteCache _ | .staleCache _ _ _ => true
  | _ => false

/-- Whether the error says that nothing is there. -/
def isNotFound : LoadError → Bool
  | .missingArtifact _ => true
  | .io fault => fault.isNotFound
  | _ => false

/-- The error of a failed access to the artifact at a path. -/
def ofArtifactFault (path : String) (fault : IoFault) : LoadError :=
  if fault.isNotFound then .missingArtifact (.absent path fault)
  else .inaccessibleArtifact path fault

/-- The error of a failed access to an artifact; other errors stay as they are. -/
def atArtifact (path : String) : LoadError → LoadError
  | .io fault => ofArtifactFault path fault
  | e => e

end LoadError

/-- What an operation of the loader gives: a value or the error that kept it. -/
abbrev Outcome := Except LoadError

/-- An operation that goes on from the value of another one gives a value if both do. -/
theorem Outcome.bind_eq_ok {α β ε : Type} {x : Except ε α} {f : α → Except ε β} {w : β} :
    (x >>= f) = .ok w ↔ ∃ v, x = .ok v ∧ f v = .ok w := by
  cases x <;> simp [bind, Except.bind]

/-- A value that is made from another one is made from a value. -/
theorem Outcome.map_eq_ok {α β ε : Type} {x : Except ε α} {f : α → β} {w : β} :
    x.map f = .ok w ↔ ∃ v, x = .ok v ∧ f v = w := by
  cases x <;> simp [Except.map]

/-- Another error is no value either. -/
theorem Outcome.mapError_eq_ok {α ε : Type} {x : Except ε α} {f : ε → LoadError} {v : α} :
    x.mapError f = .ok v ↔ x = .ok v := by
  cases x with
  | ok _ => exact ⟨fun h => congrArg _ (Except.ok.inj h), fun h => congrArg _ (Except.ok.inj h)⟩
  | error _ => exact ⟨nofun, nofun⟩

end UnitLoader
