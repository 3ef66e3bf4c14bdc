import UnitLoader.Fault.Io
import UnitLoader.Native.HostCall
import UnitLoader.Path
import UnitLoader.Table

/-!
# Trees of files

A tree is a list of nodes, in which a node's place is its number: a file, a directory with its
entries, or a symbolic link. A number keeps naming the same node when the node is moved, as an
open descriptor does.

Everybody may do everything in a tree: owners and permission bits are left out, and so are devices,
sockets and names that are not UTF-8. The limits on links, names and paths are those of Linux.

## Main definitions

* `UnitLoader.Tree`, `UnitLoader.Node`, `UnitLoader.Content`.
* `UnitLoader.Tree.walk`: the node that segments lead to, links followed.
* `UnitLoader.Tree.resolve`: the node that a path leads to.
* `UnitLoader.Tree.placeOf?`: the path of a directory from the root.

## Main results

* `UnitLoader.Tree.walkWith_append`: a way without links is walked in two parts as in one.
-/

namespace UnitLoader

/-- The content of a file. -/
inductive Content where
  | bytes (bytes : Bytes)
  | library (library : NativeLibrary)
  deriving Repr

/-- The bytes that every native library begins with. -/
def Content.libraryMark : Bytes :=
  [0x7f, 0x45, 0x4c, 0x46, 2, 1, 1, 0]

/-- A content as it is read. -/
def Content.read : Content → Bytes
  | .bytes b => b
  | .library _ => libraryMark

/-- The number of a node. -/
abbrev NodeId := Nat

/-- A node of a tree. Times are in whole seconds. -/
inductive Node where
  | file (content : Content) (mtime : Int)
  | directory (parent : NodeId) (entries : Table NodeId) (mtime : Int)
  | link (target : String)
  deriving Repr

/-- A tree of files. Its root is the node 0. -/
structure Tree where
  nodes : List Node
  deriving Repr

namespace Tree

/-- The node of the root. -/
def root : NodeId := 0

/-- The node with the given number. -/
def node? (t : Tree) (id : NodeId) : Option Node :=
  t.nodes[id]?

/-- Whether a node is a directory. -/
def isDirectory (t : Tree) (id : NodeId) : Bool :=
  match t.node? id with
  | some (.directory ..) => true
  | _ => false

/-! ## Walking -/

/-- The most bytes that a name has. -/
def maxName : Nat := 255

/-- A path has fewer bytes than this. -/
def maxPath : Nat := 4096

/-- How many links are followed on one way. -/
def maxLinks : Nat := 40

/-- The node that one segment leads to from another node, which has to be a directory. -/
def step (t : Tree) (here : NodeId) (segment : String) : Except Errno NodeId :=
  match t.node? here with
  | some (.directory parent entries _) =>
    if Path.isFiller segment then .ok here
    else if segment = ".." then .ok parent
    else if maxName < segment.utf8ByteSize then .error .nameTooLong
    else match entries.get? segment with
      | some id => .ok id
      | none => .error .noEntry
  | _ => .error .notDirectory

/-- Where segments begin to lead from. -/
def start (here : NodeId) (path : String) : NodeId :=
  if Path.isAbsolute path then root else here

/-- The node that segments lead to from another. What comes after a link, with the link's target
in front, is left to `follow`. -/
def walkWith (t : Tree) (follow : NodeId → List String → Except Errno NodeId) :
    NodeId → List String → Except Errno NodeId
  | here, [] => .ok here
  | here, segment :: rest =>
    match t.step here segment with
    | .error e => .error e
    | .ok id =>
      match t.node? id with
      | some (.link target) => follow (start here target) (Path.segments target ++ rest)
      | _ => walkWith t follow id rest

/-- The node that segments lead to from another, if there are no more links on the way than
given. -/
def walk (t : Tree) : Nat → NodeId → List String → Except Errno NodeId
  | 0 => t.walkWith fun _ _ => .error .tooManyLinks
  | links + 1 => t.walkWith (t.walk links)

/-- The node that a path leads to from a directory. -/
def resolve (t : Tree) (here : NodeId) (path : String) : Except Errno NodeId :=
  if path = "" then .error .noEntry
  else if maxPath ≤ path.utf8ByteSize then .error .nameTooLong
  else t.walk maxLinks (start here path) (Path.segments path)

/-- The directory that a path leads to. -/
def resolveDirectory (t : Tree) (here : NodeId) (path : String) : Except Errno NodeId := do
  let id ← t.resolve here path
  if t.isDirectory id then return id else throw .notDirectory

/-- A way on which `follow` goes nowhere is walked in two parts as in one. -/
theorem walkWith_append (t : Tree) (e : Errno) (here : NodeId) (a b : List String) :
    t.walkWith (fun _ _ => .error e) here (a ++ b) =
      (t.walkWith (fun _ _ => .error e) here a).bind fun mid =>
        t.walkWith (fun _ _ => .error e) mid b := by
  induction a generalizing here with
  | nil => rfl
  | cons s a ih =>
    simp only [List.cons_append, walkWith]
    split
    · rfl
    · split
      · rfl
      · exact ih _

/-! ## The place of a directory -/

/-- The path of a directory from the root, found by going up through its parents so many times at
most. -/
def placeWithin? (t : Tree) : Nat → NodeId → Option (List String)
  | 0, _ => none
  | height + 1, id =>
    if id = root then some []
    else do
      let .directory parent _ _ ← t.node? id | none
      let .directory _ entries _ ← t.node? parent | none
      let (name, _) ← entries.entries.find? (·.2 = id)
      return (← placeWithin? t height parent) ++ [name]

/-- The path of a directory from the root. There is none if the directory was removed. -/
def placeOf? (t : Tree) (id : NodeId) : Option (List String) :=
  t.placeWithin? (t.nodes.length + 1) id

end Tree

end UnitLoader
