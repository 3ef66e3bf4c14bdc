import UnitLoader.Tree.Basic

/-!
# Changing a tree

Nodes are added and never taken away: what is removed or replaced loses its entry only, so that
whoever has it open keeps it. A removed directory loses its entries too. A directory that comes into
being by the way, or whose entries change, gets the present time.

## Main definitions

* `UnitLoader.Tree.fresh`: the tree of an empty root.
* `UnitLoader.Tree.makeDirectories`, `UnitLoader.Tree.makePath`: the directory of a path, made where
  it is missing.
* `UnitLoader.Tree.put`: a new node at a path.
* `UnitLoader.Tree.remove`, `UnitLoader.Tree.rename`.
* `UnitLoader.Tree.writeFile`: the content of the file that a path leads to.
-/

namespace UnitLoader.Tree

/-- The time of a node for which none is told. -/
def usualTime : Int := 1000000000

/-- The time of every change, which stands for the present. -/
def presentTime : Int := 1793456789

/-- A tree that is an empty root. -/
def fresh : Tree :=
  ⟨[.directory root .empty usualTime]⟩

/-- The tree with the node of a number replaced. -/
def setNode (t : Tree) (id : NodeId) (node : Node) : Tree :=
  ⟨t.nodes.set id node⟩

/-- The tree with the entries of a directory changed. -/
def mapEntries (t : Tree) (id : NodeId) (f : Table NodeId → Table NodeId) : Tree :=
  match t.node? id with
  | some (.directory parent entries _) => t.setNode id (.directory parent (f entries) presentTime)
  | _ => t

/-- The number of the next node that is added. -/
def nextId (t : Tree) : NodeId :=
  t.nodes.length

/-- The tree with a node added under a name in a directory, in place of what had the name. -/
def add (t : Tree) (parent : NodeId) (name : String) (node : Node) : Tree :=
  (Tree.mk (t.nodes ++ [node])).mapEntries parent (·.insert name t.nextId)

/-- The directory that segments lead to, and the tree with the missing ones made. Those that are
made before a failure stay. No directory is made where a link leads nowhere. -/
def makeDirectories (t : Tree) (here : NodeId) : List String → Tree × Except Errno NodeId
  | [] => (t, if t.isDirectory here then .ok here else .error .notDirectory)
  | segment :: rest =>
    match t.walk maxLinks here [segment], t.step here segment with
    | .ok id, _ => makeDirectories t id rest
    | .error .noEntry, .error _ =>
      makeDirectories (t.add here segment (.directory here .empty presentTime)) t.nextId rest
    | .error e, _ => (t, .error e)

/-- The directory that a path leads to, and the tree with the missing ones made. -/
def makePath (t : Tree) (here : NodeId) (path : String) : Tree × Except Errno NodeId :=
  if maxPath ≤ path.utf8ByteSize then (t, .error .nameTooLong)
  else t.makeDirectories (start here path) (Path.segments path)

/-- The segments of the directory around what a path names, and its name. -/
def around (path : String) : List String × String :=
  match (Path.dropFillers (Path.segments path)).reverse with
  | [] => ([], "")
  | name :: before => (before.reverse, name)

/-- The tree with a node at a path, in place of a file or link there. The directories before it are
made. Of a directory that is there only the time is set. -/
def put (t : Tree) (here : NodeId) (path : String) (node : Node) : Except Errno Tree := do
  let (before, name) := around path
  let (t, made) := t.makeDirectories (start here path) before
  let parent ← made
  match t.step parent name, node with
  | .ok id, .directory _ _ mtime =>
    match t.node? id with
    | some (.directory p entries _) => return t.setNode id (.directory p entries mtime)
    | _ => return t.add parent name (.directory parent .empty mtime)
  | _, .directory _ entries mtime => return t.add parent name (.directory parent entries mtime)
  | _, node => return t.add parent name node

/-- Whether a node is the given one, or beneath it by going up so many times at most. -/
def isWithin (t : Tree) (ancestor : NodeId) : Nat → NodeId → Bool
  | 0, _ => false
  | height + 1, id =>
    id = ancestor ||
      match t.node? id with
      | some (.directory parent _ _) => id ≠ root && isWithin t ancestor height parent
      | _ => false

/-- The directories from a node down, emptied. -/
def emptied (t : Tree) (id : NodeId) : Tree :=
  ⟨t.nodes.mapIdx fun i node =>
    match node with
    | .directory parent _ mtime =>
      if t.isWithin id (t.nodes.length + 1) i then .directory parent .empty mtime else node
    | _ => node⟩

/-- The entry of a directory that a path names, a link at the end of the path not followed. -/
def entryAt (t : Tree) (here : NodeId) (path : String) :
    Except Errno (NodeId × String × NodeId) := do
  let (before, name) := around path
  let parent ← t.walk maxLinks (start here path) before
  return (parent, name, ← t.step parent name)

/-- The tree without what a path names. -/
def remove (t : Tree) (here : NodeId) (path : String) : Except Errno Tree := do
  let (parent, name, id) ← t.entryAt here path
  return (t.emptied id).mapEntries parent (·.erase name)

/-- The tree with what one path names under another path. -/
def rename (t : Tree) (here : NodeId) (path new : String) : Except Errno Tree := do
  let (parent, name, id) ← t.entryAt here path
  let (before, newName) := around new
  let newParent ← t.walk maxLinks (start here new) before
  let t := (t.mapEntries parent (·.erase name)).mapEntries newParent (·.insert newName id)
  match t.node? id with
  | some (.directory _ entries mtime) => return t.setNode id (.directory newParent entries mtime)
  | _ => return t

/-- The directory and the name in it that a path leads to, if there is nothing yet and the path does
not ask for a directory. So many links at most are followed at the end of the path. -/
def vacancy (t : Tree) : Nat → NodeId → String → Except Errno (NodeId × String)
  | 0, _, _ => .error .tooManyLinks
  | links + 1, here, path => do
    let (before, name) := around path
    let parent ← t.walk maxLinks (start here path) before
    match t.step parent name with
    | .ok id =>
      match t.node? id with
      | some (.link target) => vacancy t links parent target
      | _ => throw .noEntry
    | .error .noEntry =>
      if Path.namesDirectory path then throw .isDirectory
      return (parent, name)
    | .error e => throw e

/-- The tree with the content of the file that a path leads to replaced, or with a new file where
it leads. -/
def writeFile (t : Tree) (here : NodeId) (path : String) (content : Content) :
    Except Errno Tree := do
  match t.resolve here path with
  | .ok id =>
    match t.node? id with
    | some (.file ..) => return t.setNode id (.file content presentTime)
    | _ => throw .isDirectory
  | .error .noEntry =>
    let (parent, name) ← t.vacancy (maxLinks + 1) here path
    return t.add parent name (.file content presentTime)
  | .error e => throw e

end UnitLoader.Tree
