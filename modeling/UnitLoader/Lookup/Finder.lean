import UnitLoader.Lookup.RootFinder

/-!
# Finders

There are finders that keep a handle on their root, and ambient finders, which open their roots by
path on every lookup. Finders are asked one after the other; the first that finds anything decides.

## Main definitions

* `UnitLoader.Finder`: finders, with `find` and `serves`.
* `UnitLoader.findInChain`: what a chain of finders finds.
-/

namespace UnitLoader

/-- A finder. -/
inductive Finder where
  | root (finder : RootFinder)
  | ambient (roots : List String) (rules : SuffixRules)
  deriving Repr

namespace Finder

/-- What an ambient finder finds: the first root that is a directory and has the unit decides. -/
def findAmbient (a : Ambient) (rules : SuffixRules) (name : String)
    (searchPath : Option (List String)) : List String → Outcome (Option Resolution)
  | [] => .ok none
  | path :: paths =>
    if a.isDirectory path then do
      let f ← RootFinder.openRoot a path rules []
      match ← f.resolve a.tree name searchPath with
      | some r => return some r
      | none => findAmbient a rules name searchPath paths
    else findAmbient a rules name searchPath paths

/-- What a finder finds for a name. -/
def find (a : Ambient) (name : String) (searchPath : Option (List String)) :
    Finder → Outcome (Option Resolution)
  | .root f => f.resolve a.tree name searchPath
  | .ambient roots rules => findAmbient a rules name searchPath roots

/-- Whether two ambient paths have the same normal form. -/
def sameDirectory (a : Ambient) (path : String) (name : List String) : Bool :=
  match a.absolute path with
  | .ok parts => parts = name
  | .error _ => false

/-- Whether a path names a root of the finder. -/
def serves (a : Ambient) (path : String) : Finder → Bool
  | .root f => sameDirectory a path f.root.name
  | .ambient roots _ =>
    match a.absolute path with
    | .ok name => roots.any (sameDirectory a · name)
    | .error _ => false

/-- How a finder reads in a message. -/
def description : Finder → String
  | .root f => s!"<NamespaceFinder for {f.root.nameText}>"
  | .ambient roots _ => s!"<PathFinder for {roots.length} roots>"

end Finder

/-- What a chain of finders finds for a name. -/
def findInChain (a : Ambient) (name : String) (searchPath : Option (List String)) :
    List Finder → Outcome (Option Resolution)
  | [] => .ok none
  | f :: fs => do
    match ← f.find a name searchPath with
    | some r => return some r
    | none => findInChain a name searchPath fs

end UnitLoader
