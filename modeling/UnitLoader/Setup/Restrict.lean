import UnitLoader.Setup.Install

/-!
# Restricting a process

The roots are installed while paths still lead somewhere. Then the restricted mode is entered,
after which they do not. Last, the units that only served the setup are evicted, so that nothing
imported later sees them. All of it is left out where the environment asks for that.

## Main definitions

* `UnitLoader.Mode`, `UnitLoader.Mode.enter`: restricted modes.
* `UnitLoader.Environment.isSet`: whether a variable is set.
* `UnitLoader.restrict`: the whole sequence.
-/

namespace UnitLoader

/-- What restricts a process. -/
structure Mode where
  name : String
  /-- Whether it cannot be entered. -/
  refuses : Bool := false
  deriving DecidableEq, Repr

/-- The mode in which everything goes on as before. It is there where no other is. -/
def Mode.unrestricted : Mode :=
  { name := "unrestricted" }

/-- Enter a mode. -/
def Mode.enter (m : Mode) : SetupM Unit := do
  modify fun host => { host with entries := host.entries + 1 }
  if m.refuses then throw (.mode m.name)

/-- What restricting did. -/
structure RestrictReport where
  /-- Whether the environment asked to stay unrestricted. -/
  skipped : Bool := false
  install : Option InstallReport := none
  /-- The units that were registered and are evicted. -/
  evicted : List String := []
  deriving DecidableEq, Repr

/-- Evict units, unless reclamation is suspended; tell which were registered. -/
def SetupM.evict (names : List String) : SetupM (List String) :=
  modifyGet fun host =>
    match host.loader.reclaim? names with
    | some (loader, evicted) => (evicted, { host with loader })
    | none => ([], host)

/-- The entries of the variables of a process: a name, an equals sign and a value. -/
abbrev Environment := List String

/-- Whether a variable is set: an entry begins with its name and an equals sign. -/
def Environment.isSet (environment : Environment) (name : String) : Bool :=
  environment.any fun entry => (name ++ "=").toList.isPrefixOf entry.toList

/-- Install what settings say, enter a mode, and evict the units of the setup. Nothing of it is done
where the environment asks to stay unrestricted. -/
def restrict (a : Ambient) (environment : Environment) (s : Settings) (mode : Mode) :
    SetupM RestrictReport := do
  if environment.isSet s.skipVariable then return { skipped := true }
  let report ← installSettings a s
  mode.enter
  let evicted ← SetupM.evict s.evictAfter
  return { install := some report, evicted }

end UnitLoader
