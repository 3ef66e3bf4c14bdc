import UnitLoader.Lookup.Resolution
import UnitLoader.Program.UnitName

/-!
# Finding units beneath a root

A finder has a handle on a root and looks for a unit in that directory, or in directories beneath
it that the unit's container names. The unit's short name with a suffix names a file; a directory
of the short name may hold an initializer. The kinds are tried in the order of the suffix rules,
and for each suffix the file before the initializer. The first directory in which one of them is
found decides; directories of the short name without either are kept in mind, and are the answer
if nothing else is found.

## Main definitions

* `UnitLoader.RootFinder`: finders with a root.
* `UnitLoader.Probe`, `UnitLoader.probes`: the files that are looked for in one directory.
* `UnitLoader.RootFinder.resolve`: what is found for a name.
-/

namespace UnitLoader

/-- A file that is looked for in a directory. -/
structure Probe where
  kind : ArtifactKind
  path : String
  /-- Whether the file makes its directory a container. -/
  isInitializer : Bool
  deriving DecidableEq, Repr

/-- The files that are looked for in a directory, in order. The last segment of the unit's name is
given, and whether the directory has a directory of that name. -/
def probes (rules : SuffixRules) (tail : String) (hasDirectory : Bool) : List Probe :=
  rules.candidates.flatMap fun (kind, suffix) =>
    ⟨kind, tail ++ suffix, false⟩ ::
      if hasDirectory then [⟨kind, Path.join tail (rules.initializer ++ suffix), true⟩] else []

/-- The first of the files that is there. -/
def firstFile (h : Handle) (t : Tree) : List Probe → Outcome (Option Probe)
  | [] => .ok none
  | p :: ps => do
    if ← h.isFile t p.path then return some p
    firstFile h t ps

/-- A finder that looks beneath a root. -/
structure RootFinder where
  root : Handle
  rules : SuffixRules
  /-- The number under which the root's handle is shared, if it is. -/
  share : Option Nat := none
  deriving Repr

namespace RootFinder

/-- A finder on the root that an ambient path leads to, limited by every set of rights in turn. -/
def openRoot (a : Ambient) (path : String) (rules : SuffixRules) (limits : List Rights) :
    Outcome RootFinder := do
  let h ← Handle.openRoot a path
  return { root := ← limits.foldlM Handle.limit h, rules }

/-- The directories that a unit is looked for in: the root, or those that the search path names.
There are none if the root does not lead to one of these. -/
def directories (f : RootFinder) (t : Tree) :
    Option (List String) → Outcome (Option (List Handle))
  | none => .ok (some [f.root])
  | some entries => open_ entries
where
  /-- Handles on the entries of a search path. -/
  open_ : List String → Outcome (Option (List Handle))
    | [] => .ok (some [])
    | entry :: entries =>
      match f.root.subdirectory t entry with
      | .ok h => do return (← open_ entries).map (h :: ·)
      | .error (.closedHandle name) => .error (.closedHandle name)
      | .error _ => .ok none

/-- The path of the directory of a unit in another directory. -/
def location (h : Handle) (tail : String) : String :=
  Path.absoluteText (h.name ++ [tail])

/-- The resolution to a file that was found. -/
def bind (rules : SuffixRules) (name tail : String) (h : Handle) (p : Probe) : Resolution :=
  .artifact ⟨name, h, p.path, p.kind, if p.isInitializer then some [location h tail] else none⟩
    (.forArtifact rules p.kind p.path)

/-- What is found in directories, after the given locations. -/
def search (rules : SuffixRules) (t : Tree) (name tail : String) :
    List Handle → List String → Outcome (Option Resolution)
  | [], found => .ok (if found = [] then none else some (.portions name found))
  | h :: hs, found => do
    let hasDirectory ← h.isDirectory t tail
    match ← firstFile h t (probes rules tail hasDirectory) with
    | some p => return some (bind rules name tail h p)
    | none =>
      search rules t name tail hs (if hasDirectory then found ++ [location h tail] else found)

/-- Whether the last segment of a name can be a name in a directory. -/
def isSearchable (tail : String) : Bool :=
  Path.isOrdinary tail && '/' ∉ tail.toList

/-- What is found for a name, in the root or in the directories of a search path. -/
def resolve (f : RootFinder) (t : Tree) (name : String) (searchPath : Option (List String)) :
    Outcome (Option Resolution) := do
  let tail := UnitName.short name
  if isSearchable tail then
    match ← f.directories t searchPath with
    | some hs => search f.rules t name tail hs []
    | none => return none
  else return none

end RootFinder

end UnitLoader
