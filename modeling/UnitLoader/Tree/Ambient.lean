import UnitLoader.Fault.Load
import UnitLoader.Tree.Edit

/-!
# Ambient access

Paths that are taken from no handle lead from the root or from the working directory. Handles on
roots are opened by such paths, and the settings are read by them.

## Main definitions

* `UnitLoader.Ambient`: a tree and the working directory in it.
* `UnitLoader.Ambient.absolute`: the absolute normal form of a path.
* `UnitLoader.Ambient.isDirectory`, `UnitLoader.Ambient.openDirectory`,
  `UnitLoader.Ambient.readFile`: what a path leads to.
-/

namespace UnitLoader

/-- A tree of files and the working directory. -/
structure Ambient where
  tree : Tree
  working : NodeId
  deriving Repr

/-- Whether a text holds a NUL, so that it is no path for the operating system. -/
def holdsNul (text : String) : Bool :=
  '\x00' ∈ text.toList

/-- The content of an open file. A directory can be opened as a file and cannot be read. -/
def Tree.read (t : Tree) (id : NodeId) : Except IoFault Bytes :=
  match t.node? id with
  | some (.file content _) => .ok content.read
  | _ => .error (.os .isDirectory)

namespace Ambient

/-- The absolute normal form of a path. A relative one is taken from the working directory, which
has to have a path. -/
def absolute (a : Ambient) (path : String) : Outcome (List String) := do
  if Path.isAbsolute path then (Path.absolute? [] path).mapError .badPath
  else
    match a.tree.placeOf? a.working with
    | some working => (Path.absolute? working path).mapError .badPath
    | none => throw (.io (.os .noEntry))

/-- The node that a path leads to. -/
def resolve (a : Ambient) (path : String) : Except IoFault NodeId :=
  if holdsNul path then .error .nulInName
  else (a.tree.resolve a.working path).mapError .os

/-- Whether a path leads to a directory. -/
def isDirectory (a : Ambient) (path : String) : Bool :=
  match a.resolve path with
  | .ok id => a.tree.isDirectory id
  | .error _ => false

/-- Whether a path leads anywhere. -/
def leadsAnywhere (a : Ambient) (path : String) : Bool :=
  (a.resolve path).isOk

/-- The directory that a path leads to. -/
def openDirectory (a : Ambient) (path : String) : Except IoFault NodeId := do
  let id ← a.resolve path
  if a.tree.isDirectory id then return id else throw (.os .notDirectory)

/-- The content of the file that a path leads to. -/
def readFile (a : Ambient) (path : String) : Except IoFault Bytes := do
  a.tree.read (← a.resolve path)

end Ambient

end UnitLoader
