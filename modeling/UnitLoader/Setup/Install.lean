import UnitLoader.Loader.Import
import UnitLoader.Settings.Basic
import UnitLoader.Setup.Error

/-!
# Installing roots

Roots are installed while paths still lead somewhere. First units are imported in advance, through
the chain that is there; then the chain is replaced by one finder for each root. A root that is no
directory is skipped, and one that an earlier root has as its directory already.

## Main definitions

* `UnitLoader.Host`, `UnitLoader.SetupM`: a process that is being set up.
* `UnitLoader.openRoots`: the finders on roots.
* `UnitLoader.install`, `UnitLoader.installSettings`: roots installed.
* `UnitLoader.Loader.ofSettings`: a loader that finds units in the roots by path.
-/

namespace UnitLoader

/-- A process that is being set up. -/
structure Host where
  loader : Loader := {}
  /-- How often entering a mode was tried. -/
  entries : Nat := 0

/-- A step of the setup. The changes before a failure stay. -/
abbrev SetupM := ExceptT SetupError (StateM Host)

/-- A computation on the loader as a step of the setup. -/
def SetupM.onLoader {α : Type} (wrap : LoadError → SetupError) (x : LoadM α) : SetupM α :=
  ExceptT.mk fun host =>
    let (result, loader) := x.run.run host.loader
    (result.mapError wrap, { host with loader })

/-! ## Roots -/

/-- Roots that were gone through. -/
structure OpenedRoots where
  finders : List Finder := []
  opened : List String := []
  skipped : List String := []

/-- The roots with one more gone through. -/
def OpenedRoots.add (a : Ambient) (limits : List Rights) (rules : SuffixRules)
    (done : OpenedRoots) (root : String) : Except SetupError OpenedRoots :=
  if a.isDirectory root && !done.finders.any (·.serves a root) then do
    let f ← (RootFinder.openRoot a root rules limits).mapError (.root root)
    return { done with finders := done.finders ++ [.root f], opened := done.opened ++ [root] }
  else return { done with skipped := done.skipped ++ [root] }

/-- The finders on roots, each limited by every set of rights. -/
def openRoots (a : Ambient) (limits : List Rights) (rules : SuffixRules) (roots : List String) :
    Except SetupError OpenedRoots :=
  roots.foldlM (OpenedRoots.add a limits rules) {}

/-! ## Installing -/

/-- What was installed. -/
structure InstallReport where
  preloaded : List String
  roots : List String
  skippedRoots : List String
  deriving DecidableEq, Repr

/-- Import units in advance, in order. -/
def preload (a : Ambient) (names : List String) : SetupM Unit :=
  names.forM fun name => SetupM.onLoader (.preload name) (discard (import? a name))

/-- Import units in advance, then replace the chain by finders on roots. -/
def install (a : Ambient) (roots : List String) (limits : List Rights) (names : List String)
    (rules : SuffixRules) : SetupM InstallReport := do
  preload a names
  let done ← openRoots a limits rules roots
  modify fun host => { host with loader := { host.loader with chain := done.finders } }
  return ⟨names, done.opened, done.skipped⟩

/-- Install what settings say. -/
def installSettings (a : Ambient) (s : Settings) : SetupM InstallReport :=
  install a s.roots [.ofNames s.granted] s.preload s.rules

/-- A loader that finds units in the roots by path. -/
def Loader.ofSettings (s : Settings) : Loader :=
  ({} : Loader).push (.ambient s.roots s.rules)

end UnitLoader
