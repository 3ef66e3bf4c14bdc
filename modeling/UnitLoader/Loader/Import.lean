import UnitLoader.Loader.Load
import UnitLoader.Program.Mention

/-!
# Importing units

A unit is imported by its full name. A registered unit is taken as it is, even while its code is
still running. Otherwise the unit around it comes first, which has to be a container, and whose
locations tell where to look; a unit of that name among the builtins comes before anything that a
finder finds. An imported unit becomes an attribute of the unit around it.

The code of a unit may import other units, and those others again. No unit's code is started while
it is running already, so that imports nest no deeper than there are units to be asked for.

## Main definitions

* `UnitLoader.importWithin`: import a unit, with a bound on the nesting.
* `UnitLoader.Loader.universe`: the names of all units that can be asked for.
* `UnitLoader.import?`: import a unit.
* `UnitLoader.runIn`, `UnitLoader.loadArtifact`: run a program and load an artifact, as importing
  does.
-/

namespace UnitLoader

/-! ## One unit -/

/-- Bring in what the chain finds for a name that is not registered. -/
def bringFound (a : Ambient) (importer : Importer) (name : String)
    (searchPath : Option (List String)) : LoadM UnitId := do
  match ← LoadM.ofOutcome ((← get).find a name searchPath) with
  | none => throw (.missingArtifact (.unit name))
  | some (.artifact artifact strategy) =>
    (artifact.load a.tree importer strategy).onError (·.evict name)
  | some (.portions name locations) =>
    let (id, _) ← LoadM.getOrCreate name
    LoadM.modifyUnit id (·.bindMetadata none none (some locations))
    return id

/-- Bring in the unit of a name that is not registered: a builtin, or what the chain finds. -/
def bring (a : Ambient) (importer : Importer) (name : String)
    (searchPath : Option (List String)) : LoadM UnitId := do
  match (← get).builtins.get? name with
  | some bindings =>
    let (id, _) ← LoadM.getOrCreate name
    LoadM.modifyUnit id (·.becomeBuiltin bindings)
    return id
  | none => bringFound a importer name searchPath

/-- Bring in a unit inside of the unit around it, which is imported, unless importing that one
brought it in. -/
def bringInside (a : Ambient) (importer : Importer) (name parent : String) (parentId : UnitId) :
    LoadM UnitId := do
  match ← LoadM.registered? name with
  | some id => return id
  | none =>
    let parentUnit ← LoadM.unit parentId
    if !parentUnit.isContainer then throw (.missingArtifact (.inNoContainer name parent))
    let id ← bring a importer name (some parentUnit.locations)
    LoadM.assign parentId (UnitName.short name) (.unit name)
    return id

/-- Import a unit after the units around it, given by their names inside out. -/
def importLineage (a : Ambient) (importer : Importer) (name : String) :
    List String → LoadM UnitId
  | [] => do
    match ← LoadM.registered? name with
    | some id => return id
    | none => bring a importer name none
  | parent :: around => do
    match ← LoadM.registered? name with
    | some id => return id
    | none => bringInside a importer name parent (← importLineage a importer parent around)

/-! ## Nested imports -/

/-- Import a unit, with an importer for the units that its code asks for. -/
def importOnce (a : Ambient) (importer : Importer) (name : String) : LoadM UnitId :=
  if UnitName.isImportable name then
    importLineage a importer name (UnitName.ancestors name)
  else throw (.badPath (.unitName name))

/-- Import a unit, with imports nested no deeper than the bound. -/
def importWithin (a : Ambient) : Nat → Importer
  | 0, _ => throw .tooDeep
  | depth + 1, name => importOnce a (importWithin a depth) name

/-- The units that the files of a tree can ask for, whether they are read as sources or as
caches. -/
def Tree.mentions (t : Tree) : List String :=
  t.nodes.flatMap fun
    | .file content _ =>
      let source := match Program.ofSource "" content.read with
        | .ok p => p.mentions
        | .error _ => []
      let cached := match Program.ofBody? (content.read.drop (2 * CacheHeader.fieldSize)) with
        | some p => p.mentions
        | none => []
      source ++ cached
    | _ => []

/-- The units that the attributes of units refer to. -/
def Registry.mentions (r : Registry) : List String :=
  r.units.flatMap fun u => u.attributes.entries.flatMap fun e => e.2.mentions

/-- The units that the attributes of builtins refer to. -/
def Builtins.mentions (b : Builtins) : List String :=
  b.entries.flatMap fun e => e.2.flatMap fun binding => binding.2.mentions

/-- The names of all units that can be asked for, beginning with the given names. -/
def Loader.universe (l : Loader) (t : Tree) (names : List String) : List String :=
  UnitName.closure (names ++ t.mentions ++ l.registry.mentions ++ l.builtins.mentions)

/-- The importer for code that asks for the given names. Its bound is never reached, because an
inner import is made by the running code of one more unit. -/
def importerFor (a : Ambient) (names : List String) : LoadM Importer := do
  return importWithin a (((← get).universe a.tree names).length + 1)

/-! ## From outside -/

/-- Import a unit. -/
def import? (a : Ambient) (name : String) : LoadM UnitId := do
  let importer ← importerFor a [name]
  importer name

/-- Run a program in a unit. -/
def runIn (a : Ambient) (unit : UnitId) (p : Program) : LoadM Unit := do
  let importer ← importerFor a p.mentions
  p.run importer unit

/-- Load an artifact in a given way. -/
def loadArtifact (a : Ambient) (artifact : Artifact) (strategy : Strategy) : LoadM UnitId := do
  let importer ← importerFor a [artifact.name]
  artifact.load a.tree importer strategy

end UnitLoader
