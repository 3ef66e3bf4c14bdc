import UnitLoader.Rights
import UnitLoader.Tree.Ambient

/-!
# Handles on directories

A handle keeps a directory open, wherever it is moved. Every access through it names something by
a path that is brought to normal form first and taken from that directory, and needs rights unless
the handle was never limited. The name of a handle is the path that it was opened by; it serves
messages, and absolute paths that begin with it.

## Main definitions

* `UnitLoader.Handle`: handles, with `openRoot`, `subdirectory`, `limit` and `close`.
* `UnitLoader.Handle.openFile`, `UnitLoader.Handle.stat`, `UnitLoader.Handle.list`: accesses.
* `UnitLoader.Handle.isFile`, `UnitLoader.Handle.isDirectory`, `UnitLoader.Handle.leadsAnywhere`:
  questions to which absence is an answer.
-/

namespace UnitLoader

/-- A handle on a directory. -/
structure Handle where
  /-- The names on the path from the root. -/
  name : List String
  /-- The directory, until the handle is closed. -/
  directory : Option NodeId
  /-- What may be done, if there is a limit. -/
  rights : Option Rights
  deriving Repr

/-- A file opened through a handle. -/
structure OpenFile where
  /-- The path of the file: the name of the handle and the way from there. -/
  name : String
  node : NodeId
  deriving Repr

/-- What is known of a node without reading it. -/
inductive Metadata where
  | file (length : Nat) (mtime : Int)
  | directory (mtime : Int)
  deriving DecidableEq, Repr

namespace Metadata

/-- The time of the last change, in seconds. -/
def mtime : Metadata → Int
  | .file _ mtime | .directory mtime => mtime

/-- The low 32 bits of the time, as a cache records it. -/
def mtimeLow (m : Metadata) : UInt32 :=
  (m.mtime % UInt32.size).toNat.toUInt32

/-- Whether it is a file. -/
def isFile : Metadata → Bool
  | .file .. => true
  | .directory _ => false

/-- Whether it is a directory. -/
def isDirectory (m : Metadata) : Bool :=
  !m.isFile

end Metadata

/-- What is known of a node that a path leads to. -/
def Tree.metadata (t : Tree) (id : NodeId) : Metadata :=
  match t.node? id with
  | some (.file content mtime) => .file content.read.length mtime
  | some (.directory _ _ mtime) => .directory mtime
  | _ => .directory Tree.usualTime

namespace Handle

/-- The name as a path. -/
def nameText (h : Handle) : String :=
  Path.absoluteText h.name

/-- Whether the handle was closed. -/
def isClosed (h : Handle) : Bool :=
  h.directory.isNone

/-! ## Opening, limiting and closing -/

/-- A handle without limit on the directory that an ambient path leads to. -/
def openRoot (a : Ambient) (path : String) : Outcome Handle := do
  let name ← a.absolute path
  let id ← (a.openDirectory path).mapError .io
  return ⟨name, some id, none⟩

/-- The handle, closed. -/
def close (h : Handle) : Handle :=
  { h with directory := none }

/-- The directory of the handle, unless it was closed. -/
def descriptor (h : Handle) : Outcome NodeId :=
  match h.directory with
  | some id => .ok id
  | none => .error (.closedHandle h.nameText)

/-- The handle with the rights that a limit leaves. -/
def limit (h : Handle) (rights : Rights) : Outcome Handle := do
  discard h.descriptor
  match h.rights with
  | some granted => return { h with rights := some (granted.inter rights) }
  | none => return { h with rights := some rights }

/-- Whether something may be done through the handle. -/
def grants (h : Handle) (r : Right) : Bool :=
  h.rights.all (·.has r)

/-- An error unless something may be done through the handle. -/
def require (h : Handle) (r : Right) : Outcome Unit :=
  if h.grants r then .ok () else .error (.rightsDenied h.nameText r.name)

/-! ## Accesses -/

/-- The way from the directory to what a path names. -/
def relative (h : Handle) (path : String) : Outcome (List String) :=
  (Path.relativeTo? h.name path).mapError .badPath

/-- The node at the end of a way from the directory. -/
def reach (h : Handle) (t : Tree) (parts : List String) : Outcome NodeId := do
  let way := Path.relativeText parts
  if holdsNul way then throw (.badPath (.holdsNul way))
  let id ← h.descriptor
  (t.resolve id way).mapError (.io ∘ .os)

/-- The node at the end of a way from the directory, for opening it. -/
def reachToOpen (h : Handle) (t : Tree) (parts : List String) : Outcome NodeId := do
  h.require .lookup
  h.reach t parts

/-- The letters that a mode may not hold. -/
def isRefusedLetter (c : Char) : Bool :=
  c = 'w' || c = 'a' || c = 'x' || c = '+'

/-- Open a file in a mode, which has to ask for nothing but reading. -/
def openFileMode (h : Handle) (t : Tree) (path mode : String) : Outcome OpenFile := do
  let letters := mode.toList.filter isRefusedLetter
  if letters ≠ [] then throw (.badMode (.refused (String.ofList letters)))
  let parts ← h.relative path
  if parts = [] then throw (.badPath (.namesDirectory path))
  h.require .read
  let id ← h.reachToOpen t parts
  return ⟨Path.absoluteText (h.name ++ parts), id⟩

/-- Open a file. -/
def openFile (h : Handle) (t : Tree) (path : String) : Outcome OpenFile :=
  h.openFileMode t path "rb"

/-- A handle on a directory beneath, with the same rights. -/
def subdirectory (h : Handle) (t : Tree) (path : String) : Outcome Handle := do
  let parts ← h.relative path
  let id ← h.reachToOpen t parts
  if t.isDirectory id then return ⟨h.name ++ parts, some id, h.rights⟩
  else throw (.io (.os .notDirectory))

/-- What is known of the node that a path leads to. -/
def stat (h : Handle) (t : Tree) (path : String) : Outcome Metadata := do
  let parts ← h.relative path
  h.require .fstat
  return t.metadata (← h.reach t parts)

/-- The names of the entries of the directory, in the order of their characters. -/
def list (h : Handle) (t : Tree) : Outcome (List String) := do
  h.require .read
  let id ← h.reachToOpen t []
  match t.node? id with
  | some (.directory _ entries _) => return entries.sortedNames
  | _ => throw (.io (.os .notDirectory))

/-! ## Questions -/

/-- What is known of the node that a path leads to, if it leads to one. -/
def stat? (h : Handle) (t : Tree) (path : String) : Outcome (Option Metadata) :=
  match h.stat t path with
  | .ok m => .ok (some m)
  | .error (.badPath _) => .ok none
  | .error (.io fault) => if fault.isAbsence then .ok none else .error (.io fault)
  | .error e => .error e

/-- Whether a path leads anywhere. -/
def leadsAnywhere (h : Handle) (t : Tree) (path : String) : Outcome Bool :=
  (h.stat? t path).map Option.isSome

/-- Whether a path leads to a file. -/
def isFile (h : Handle) (t : Tree) (path : String) : Outcome Bool :=
  (h.stat? t path).map (·.any Metadata.isFile)

/-- Whether a path leads to a directory. -/
def isDirectory (h : Handle) (t : Tree) (path : String) : Outcome Bool :=
  (h.stat? t path).map (·.any Metadata.isDirectory)

end Handle

end UnitLoader
