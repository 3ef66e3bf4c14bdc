import UnitLoader.Loader.Artifact
import UnitLoader.Loader.Run

/-!
# Loading artifacts

An artifact is read, its unit is registered, and the unit's code runs, in this order. A unit that
is registered is not loaded again. A unit whose code fails is not registered afterwards.

## Main definitions

* `UnitLoader.Loader.callEntryPoint`: what calling the entry point of a library does.
* `UnitLoader.Artifact.install`: run a program as the code of an artifact's unit.
* `UnitLoader.Artifact.loadNative`: link a library and call its entry point.
* `UnitLoader.Artifact.load`: load an artifact in a given way.
-/

namespace UnitLoader

/-! ## Native code -/

/-- The units that calls register in a context, as events. -/
def HostCall.registrations (context : NativeContext) : List HostCall → List Event
  | [] => []
  | .register (some name) :: calls =>
    registrations context calls ++ [.registered (context.qualify name) context.name]
  | _ :: calls => registrations context calls

/-- The loader after the entry point of a library was called for a unit. -/
def Loader.callEntryPoint (l : Loader) (library : NativeLibrary) (name : String) : Loader :=
  let published : NativeContext := { name, gate := some 0 }
  let (context, scope) := NativeScope.enter l.context published
  let (_, registry, codes) :=
    HostCall.performAll context l.registry (some l.gate.depth) library.calls
  { l with registry, context := scope.leave, codes := l.codes ++ codes
           history := HostCall.registrations published library.calls ++ l.history }

/-! ## Artifacts -/

namespace Artifact

/-- Register the unit of an artifact and run a program in it, unless the unit is registered. -/
def install (importer : Importer) (a : Artifact) (kind : ArtifactKind) (p : Program) :
    LoadM UnitId := do
  let (id, isNew) ← LoadM.getOrCreate a.name
  if isNew then
    LoadM.modifyUnit id (·.bindMetadata (some a.origin) (some kind) a.locations)
    LoadM.note (.began a.name id)
    (p.run importer id).onError fun l => (l.evict a.name).note (.failed a.name id)
    LoadM.note (.ended a.name id)
  return id

/-- Run the source of a unit. -/
def loadSource (t : Tree) (importer : Importer) (a : Artifact) : LoadM UnitId := do
  let p ← LoadM.ofOutcome (a.directory.readSource t a.path)
  a.install importer .source p

/-- Run the cache of a unit. -/
def loadCache (t : Tree) (importer : Importer) (a : Artifact) (source : Option String) :
    LoadM UnitId := do
  let p ← LoadM.ofOutcome (a.directory.readCache t a.path source)
  a.install importer .compiledCache p

/-- Run the cache at a path, or the source if that cache is of no use. A cache is of use if it can
be read, even if running its program fails. -/
def loadCacheOrSource (t : Tree) (importer : Importer) (a : Artifact) (cache : String) :
    LoadM UnitId :=
  match a.directory.readCache t cache (some a.path) with
  | .ok p => a.install importer .compiledCache p
  | .error e => if e.isCacheRecoverable then a.loadSource t importer else throw e

/-- The library that a file is, if the linker takes it. -/
def link (t : Tree) (a : Artifact) : Outcome NativeLibrary := do
  let file ← a.directory.openArtifact t a.path
  match t.node? file.node with
  | some (.file (.library library) _) => return library
  | _ => throw (.dynamicLoadFailure (.refused a.origin))

/-- Link the library of a unit and call its entry point, which has to register the unit.
Reclamation is suspended meanwhile. -/
def loadNative (t : Tree) (a : Artifact) : LoadM UnitId := do
  modify fun l => { l with gate := l.gate.suspend }
  let loading : LoadM UnitId := do
    let library ← LoadM.ofOutcome (a.link t)
    let symbol := entryPointSymbol (UnitName.short a.name)
    if !library.exports symbol then throw (.entryPointNotFound symbol none)
    modify fun l => { l with libraries := l.libraries + 1 }
    modify (·.callEntryPoint library a.name)
    match ← LoadM.registered? a.name with
    | none => throw (.dynamicLoadFailure (.unregistered symbol a.name))
    | some id =>
      LoadM.modifyUnit id (·.bindMetadata (some a.origin) (some .nativeLibrary) a.locations)
      return id
  loading.always fun l => { l with gate := l.gate.resume }

/-- Load an artifact in a given way, unless its unit is registered. -/
def load (t : Tree) (importer : Importer) (a : Artifact) (strategy : Strategy) :
    LoadM UnitId := do
  match ← LoadM.registered? a.name with
  | some id => return id
  | none =>
    match strategy with
    | .source => a.loadSource t importer
    | .compiledCache source => a.loadCache t importer source
    | .cacheThenSource cache => a.loadCacheOrSource t importer cache
    | .nativeLibrary => a.loadNative t

end Artifact

end UnitLoader
