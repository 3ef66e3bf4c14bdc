import UnitLoader.Builtin
import UnitLoader.Fault.Load
import UnitLoader.Loader.Event
import UnitLoader.Lookup.Finder
import UnitLoader.Native.Scope

/-!
# Loaders

A loader has a registry of units, builtins and a chain of finders. Loading changes it step by
step, and what an unfinished load has done stays done.

One import runs at a time, and the imports that its programs ask for run inside of it. Threads are
left out, and with them the locks that keep imports of several threads apart; so are finders other
than those on roots, and the messages that are logged on the way.

## Main definitions

* `UnitLoader.Loader`: loaders.
* `UnitLoader.LoadM`: computations that change a loader and may fail.
* `UnitLoader.Loader.evict`, `UnitLoader.Loader.reclaim?`: units taken from the registry.
* `UnitLoader.Loader.note`, `UnitLoader.Loader.create`, `UnitLoader.Loader.modifyUnit`: single
  changes.
* `UnitLoader.LoadM.always`, `UnitLoader.LoadM.onError`: what is done after a computation.
-/

namespace UnitLoader

/-- What units are loaded into, and from where. -/
structure Loader where
  registry : Registry := {}
  builtins : Builtins := .standard
  /-- The finders, in the order in which they are asked. -/
  chain : List Finder := []
  gate : Gate := {}
  /-- The number of native libraries that were linked. -/
  libraries : Nat := 0
  /-- The context that is published to native code. -/
  context : Option NativeContext := none
  /-- The return codes of the calls of native code so far. -/
  codes : List Int := []
  /-- What happened so far, the latest first. -/
  history : List Event := []

/-- There is a loader, with nothing registered and the standard builtins. -/
instance : Inhabited Loader := ⟨{}⟩

/-- A computation that changes a loader and may fail. The changes before a failure stay. -/
abbrev LoadM := ExceptT LoadError (StateM Loader)

/-! ## Chains -/

namespace Loader

/-- The loader with one more finder at the end of the chain. -/
def push (l : Loader) (f : Finder) : Loader :=
  { l with chain := l.chain ++ [f] }

/-- The chain as it reads in messages. -/
def descriptions (l : Loader) : List String :=
  l.chain.map Finder.description

/-- What the chain finds for a name. -/
def find (l : Loader) (a : Ambient) (name : String) (searchPath : Option (List String)) :
    Outcome (Option Resolution) :=
  findInChain a name searchPath l.chain

/-- The chain with the root of the finders that share it under a number replaced. -/
def replaceRoot (l : Loader) (share : Nat) (root : Handle) : Loader :=
  { l with chain := l.chain.map fun
      | .root f => .root (if f.share = some share then { f with root } else f)
      | f => f }

/-! ## Single changes -/

/-- The loader after one more event. -/
def note (l : Loader) (e : Event) : Loader :=
  { l with history := e :: l.history }

/-- The loader with a new unit registered under a name. -/
def create (l : Loader) (name : String) : Loader :=
  { l with registry := l.registry.insertNew name }

/-- The loader with the unit of a number changed. -/
def modifyUnit (l : Loader) (id : UnitId) (f : LoadedUnit → LoadedUnit) : Loader :=
  { l with registry := l.registry.modify id f }

/-- The loader without the unit of a name. -/
def evict (l : Loader) (name : String) : Loader :=
  { l with registry := l.registry.evict name }

section

variable (l : Loader) (e : Event) (name : String) (id : UnitId) (f : LoadedUnit → LoadedUnit)

/-- Noting an event leaves the registry as it is. -/
@[simp] theorem registry_note : (l.note e).registry = l.registry := rfl

/-- Noting an event leaves the builtins as they are. -/
@[simp] theorem builtins_note : (l.note e).builtins = l.builtins := rfl

/-- An event that is noted is the latest of the history. -/
@[simp] theorem history_note : (l.note e).history = e :: l.history := rfl

/-- Creating a unit inserts it into the registry. -/
@[simp] theorem registry_create : (l.create name).registry = l.registry.insertNew name := rfl

/-- Creating a unit leaves the builtins as they are. -/
@[simp] theorem builtins_create : (l.create name).builtins = l.builtins := rfl

/-- Creating a unit is no event. -/
@[simp] theorem history_create : (l.create name).history = l.history := rfl

/-- Changing a unit changes it in the registry. -/
@[simp] theorem registry_modifyUnit : (l.modifyUnit id f).registry = l.registry.modify id f := rfl

/-- Changing a unit leaves the builtins as they are. -/
@[simp] theorem builtins_modifyUnit : (l.modifyUnit id f).builtins = l.builtins := rfl

/-- Changing a unit is no event. -/
@[simp] theorem history_modifyUnit : (l.modifyUnit id f).history = l.history := rfl

/-- Evicting a unit takes its name out of the registry. -/
@[simp] theorem registry_evict : (l.evict name).registry = l.registry.evict name := rfl

/-- Evicting a unit leaves the builtins as they are. -/
@[simp] theorem builtins_evict : (l.evict name).builtins = l.builtins := rfl

/-- Evicting a unit is no event. -/
@[simp] theorem history_evict : (l.evict name).history = l.history := rfl

end

/-! ## Taking units away -/

/-- The loader without the units of some names, and those of the names that were registered. -/
def evictAll (l : Loader) : List String → Loader × List String
  | [] => (l, [])
  | name :: names =>
    if l.registry.contains name then
      let (l, evicted) := (l.evict name).evictAll names
      (l, name :: evicted)
    else l.evictAll names

/-- Evict units in one pass, unless reclamation is suspended. -/
def reclaim? (l : Loader) (names : List String) : Option (Loader × List String) :=
  l.gate.reclaim? fun _ => l.evictAll names

end Loader

/-! ## Computations -/

namespace LoadM

/-- The result of an operation that changes nothing. -/
def ofOutcome {α : Type} : Outcome α → LoadM α
  | .ok a => pure a
  | .error e => throw e

/-- Do something after a computation that fails. -/
def onError {α : Type} (x : LoadM α) (change : Loader → Loader) : LoadM α :=
  tryCatch x fun e => do
    modify change
    throw e

/-- Do something after a computation, whether it fails or not. -/
def always {α : Type} (x : LoadM α) (change : Loader → Loader) : LoadM α := do
  let a ← x.onError change
  modify change
  return a

/-- An event happens. -/
def note (e : Event) : LoadM Unit :=
  modify (·.note e)

/-- The number of the unit that is registered under a name. -/
def registered? (name : String) : LoadM (Option UnitId) := do
  return (← get).registry.find? name

/-- The unit of a number. -/
def unit (id : UnitId) : LoadM LoadedUnit := do
  return (← get).registry.unit id

/-- Change the unit of a number. -/
def modifyUnit (id : UnitId) (f : LoadedUnit → LoadedUnit) : LoadM Unit :=
  modify (·.modifyUnit id f)

/-- The unit that is registered under a name, a new one if there is none, and whether it is new. -/
def getOrCreate (name : String) : LoadM (UnitId × Bool) :=
  modifyGet fun l =>
    match l.registry.find? name with
    | some id => ((id, false), l)
    | none => ((l.registry.nextId, true), l.create name)

end LoadM

end UnitLoader
