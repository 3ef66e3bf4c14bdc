import Mathlib.Logic.Relation
import Mathlib.Tactic.Lemma
import UnitLoader.Loader.Import

/-!
# Loads as sequences of steps

While units are loaded, units are asked for, looked for and brought in, and programs run, each of
them inside of another. This is a stack of frames, the innermost first. A load is a sequence of
steps, each of which changes the loader in one way and looks at the innermost frame only. What a
step can do is said here once; every invariant of loads is proved about single steps.

## Main definitions

* `UnitLoader.Frame`, `UnitLoader.Moment` — what is going on, and the loader meanwhile.
* `UnitLoader.Program.Asks`, `UnitLoader.Program.Computes` — the units that a program can ask for
  and the values that it can set, at a moment.
* `UnitLoader.Artifact.read` — the program of an artifact, read in a given way.
* `UnitLoader.failures` — the number of programs that have failed.
* `UnitLoader.Step`, `UnitLoader.Steps` — one step of a load, and any number of them.
-/

set_option relaxedAutoImplicit false
set_option autoImplicit false

namespace UnitLoader

/-! ## Moments -/

/-- Something that is going on while units are loaded. -/
inductive Frame where
  /-- A unit was asked for, from outside or by a program. -/
  | asking (name : String)
  /-- A unit is brought in, which is looked for in the search path. -/
  | bringing (name : String) (searchPath : Option (List String))
  /-- A program runs in a unit. -/
  | running (name : String) (unit : UnitId) (program : Program)

/-- A moment of a load: what is going on, the innermost first, and the loader. -/
structure Moment where
  frames : List Frame
  loader : Loader

/-- The names of the units whose programs are running. -/
def Frame.runningNames : List Frame → List String
  | [] => []
  | .running name _ _ :: s => name :: runningNames s
  | .asking _ :: s | .bringing _ _ :: s => runningNames s

/-- The units whose programs are running, by name and number. -/
def Frame.runningUnits : List Frame → List (String × UnitId)
  | [] => []
  | .running name id _ :: s => (name, id) :: runningUnits s
  | .asking _ :: s | .bringing _ _ :: s => runningUnits s

/-! ## What programs can do -/

/-- The units that a program can ask for: those that it imports, children that it imports from
them, and those that an attribute refers to. -/
inductive Program.Asks (p : Program) (l : Loader) : String → Prop
  | imported {name : String} {newName : Option String}
      (h : .importUnit name newName ∈ p.statements) : Asks p l name
  | source {name : String} {names : List String} (h : .fromImport name names ∈ p.statements) :
      Asks p l name
  | child {name key : String} {names : List String} (h : .fromImport name names ∈ p.statements)
      (hk : key ∈ names) : Asks p l (UnitName.child name key)
  | reference {id : UnitId} {key name : String}
      (h : (l.registry.unit id).attribute? key = some (.unit name)) : Asks p l name

/-- The values that a program can set: its literals, attributes, and references to the units that
it imports. -/
inductive Program.Computes (p : Program) (l : Loader) : Value → Prop
  | literal {target : String} {v : Value} (h : .assign target (.literal v) ∈ p.statements) :
      Computes p l v
  | read {id : UnitId} {key : String} {v : Value}
      (h : (l.registry.unit id).attribute? key = some v) : Computes p l v
  | imported {name newName : String} (h : .importUnit name (some newName) ∈ p.statements) :
      Computes p l (.unit name)
  | outermost {name : String} (h : .importUnit name none ∈ p.statements) :
      Computes p l (.unit (UnitName.top name))
  | child {name key : String} {names : List String} (h : .fromImport name names ∈ p.statements)
      (hk : key ∈ names) : Computes p l (.unit (UnitName.child name key))

/-- Where a unit is looked for: anywhere if there is no unit around it, and else in the locations
of that unit, which has to be a container. -/
inductive Loader.Searches (l : Loader) (name : String) : Option (List String) → Prop
  | anywhere (h : UnitName.parent? name = none) : Searches l name none
  | within {parent : String} {id : UnitId} (h : UnitName.parent? name = some parent)
      (hr : l.registry.find? parent = some id) (hc : (l.registry.unit id).isContainer) :
      Searches l name (some (l.registry.unit id).locations)

/-! ## Reading artifacts -/

/-- The program of an artifact that is not a library, and the kind as which it is loaded. -/
def Artifact.read (t : Tree) (artifact : Artifact) : Strategy → Outcome (ArtifactKind × Program)
  | .source => do return (.source, ← artifact.directory.readSource t artifact.path)
  | .compiledCache source => do
    return (.compiledCache, ← artifact.directory.readCache t artifact.path source)
  | .cacheThenSource cache =>
    match artifact.directory.readCache t cache (some artifact.path) with
    | .ok p => .ok (.compiledCache, p)
    | .error e =>
      if e.isCacheRecoverable then do
        return (.source, ← artifact.directory.readSource t artifact.path)
      else .error e
  | .nativeLibrary => .error (.dynamicLoadFailure (.refused artifact.origin))

/-- The loader in which the program of an artifact's unit begins to run. -/
def Loader.begin (l : Loader) (artifact : Artifact) (kind : ArtifactKind) : Loader :=
  ((l.create artifact.name).modifyUnit l.registry.nextId
    (·.bindMetadata (some artifact.origin) (some kind) artifact.locations)).note
      (.began artifact.name l.registry.nextId)

/-- The beginning of a program registers a unit with the metadata of the artifact. -/
@[simp]
lemma Loader.registry_begin (l : Loader) (artifact : Artifact) (kind : ArtifactKind) :
    (l.begin artifact kind).registry = (l.registry.insertNew artifact.name).modify
      l.registry.nextId (·.bindMetadata (some artifact.origin) (some kind) artifact.locations) :=
  rfl

/-- The beginning of a program is the latest event then. -/
@[simp]
lemma Loader.history_begin (l : Loader) (artifact : Artifact) (kind : ArtifactKind) :
    (l.begin artifact kind).history = .began artifact.name l.registry.nextId :: l.history := rfl

/-! ## Steps -/

/-- The number of programs that have failed. -/
def failures (history : List Event) : Nat :=
  history.countP fun
    | .failed .. => true
    | _ => false

/-- One step of a load before which so many programs had failed. -/
inductive Step (a : Ambient) (k : Nat) : Moment → Moment → Prop
  /-- A running program asks for a unit. -/
  | ask {unit name : String} {id : UnitId} {p : Program} {s : List Frame} {l : Loader}
      (h : p.Asks l name) :
      Step a k ⟨.running unit id p :: s, l⟩
        ⟨.asking name :: .running unit id p :: s, l.note (.asked name)⟩
  /-- The unit that was asked for is registered, and given. -/
  | give {name : String} {id : UnitId} {s : List Frame} {l : Loader}
      (h : l.registry.find? name = some id) :
      Step a k ⟨.asking name :: s, l⟩ ⟨s, l.note (.given name id)⟩
  /-- The unit that was asked for is not to be had. Its program is not running, unless its name is
  not importable. -/
  | deny {name : String} {s : List Frame} {l : Loader}
      (hn : UnitName.isImportable name → name ∉ Frame.runningNames s) :
      Step a k ⟨.asking name :: s, l⟩ ⟨s, l⟩
  /-- The unit that was asked for, or one around it, is not registered and begins to be brought
  in. -/
  | bring {asked name : String} {searchPath : Option (List String)} {s : List Frame} {l : Loader}
      (hm : name ∈ UnitName.lineage asked) (hfree : l.registry.find? name = none)
      (hs : l.Searches name searchPath) (hi : UnitName.isImportable asked)
      (hn : asked ∉ Frame.runningNames s) :
      Step a k ⟨.asking asked :: s, l⟩ ⟨.bringing name searchPath :: .asking asked :: s, l⟩
  /-- The unit is a builtin. -/
  | builtin {name : String} {searchPath : Option (List String)} {bindings : Bindings}
      {s : List Frame} {l : Loader} (hfree : l.registry.find? name = none)
      (hb : l.builtins.get? name = some bindings) :
      Step a k ⟨.bringing name searchPath :: s, l⟩ ⟨.bringing name searchPath :: s,
        (l.create name).modifyUnit l.registry.nextId (·.becomeBuiltin bindings)⟩
  /-- The unit has directories and no initializer. -/
  | portions {name : String} {searchPath : Option (List String)} {locations : List String}
      {s : List Frame} {l : Loader} (hfree : l.registry.find? name = none)
      (hf : l.find a name searchPath = .ok (some (.portions name locations))) :
      Step a k ⟨.bringing name searchPath :: s, l⟩ ⟨.bringing name searchPath :: s,
        (l.create name).modifyUnit l.registry.nextId (·.bindMetadata none none (some locations))⟩
  /-- The unit has a program, which begins to run, if none has failed. -/
  | begin {searchPath : Option (List String)} {artifact : Artifact} {strategy : Strategy}
      {kind : ArtifactKind} {p : Program} {s : List Frame} {l : Loader}
      (hfree : l.registry.find? artifact.name = none)
      (hf : l.find a artifact.name searchPath = .ok (some (.artifact artifact strategy)))
      (hr : artifact.read a.tree strategy = .ok (kind, p)) (hc : failures l.history = k) :
      Step a k ⟨.bringing artifact.name searchPath :: s, l⟩
        ⟨.running artifact.name l.registry.nextId p :: .bringing artifact.name searchPath :: s,
          l.begin artifact kind⟩
  /-- A running program sets an attribute of its unit. -/
  | assign {unit key : String} {id : UnitId} {p : Program} {v : Value} {s : List Frame}
      {l : Loader} (h : p.Computes l v) :
      Step a k ⟨.running unit id p :: s, l⟩
        ⟨.running unit id p :: s, l.modifyUnit id (·.setAttribute key v)⟩
  /-- A program ran to its end. -/
  | finish {unit : String} {id : UnitId} {p : Program} {s : List Frame} {l : Loader} :
      Step a k ⟨.running unit id p :: s, l⟩ ⟨s, l.note (.ended unit id)⟩
  /-- A program fails, and its unit is evicted. -/
  | fail {unit : String} {id : UnitId} {p : Program} {s : List Frame} {l : Loader} :
      Step a k ⟨.running unit id p :: s, l⟩ ⟨s, (l.evict unit).note (.failed unit id)⟩
  /-- Native code of the unit registers a unit that is not registered. -/
  | register {name other : String} {searchPath : Option (List String)} {artifact : Artifact}
      {library : NativeLibrary} {s : List Frame} {l : Loader}
      (hl : artifact.link a.tree = .ok library) (hfree : l.registry.find? other = none) :
      Step a k ⟨.bringing name searchPath :: s, l⟩
        ⟨.bringing name searchPath :: s, (l.create other).note (.registered other name)⟩
  /-- Native code of the unit registers a unit that is registered. -/
  | reregister {name other : String} {searchPath : Option (List String)} {id : UnitId}
      {s : List Frame} {l : Loader} (hr : l.registry.find? other = some id) :
      Step a k ⟨.bringing name searchPath :: s, l⟩
        ⟨.bringing name searchPath :: s, l.note (.registered other name)⟩
  /-- Native code of the unit sets an attribute, which refers to no unit. -/
  | set {name key : String} {searchPath : Option (List String)} {artifact : Artifact}
      {library : NativeLibrary} {id : UnitId} {v : Value} {s : List Frame} {l : Loader}
      (hl : artifact.link a.tree = .ok library) (hv : v.mentions = []) :
      Step a k ⟨.bringing name searchPath :: s, l⟩
        ⟨.bringing name searchPath :: s, l.modifyUnit id (·.setAttribute key v)⟩
  /-- The calls of native code are counted. -/
  | count {name : String} {searchPath : Option (List String)} {s : List Frame} {l : Loader}
      {libraries : Nat} {codes : List Int} :
      Step a k ⟨.bringing name searchPath :: s, l⟩
        ⟨.bringing name searchPath :: s, { l with libraries, codes }⟩
  /-- The unit that a native library registered is told where it came from. -/
  | bind {name : String} {searchPath : Option (List String)} {artifact : Artifact}
      {strategy : Strategy} {library : NativeLibrary} {id : UnitId} {s : List Frame} {l : Loader}
      (hr : l.registry.find? name = some id) (hl : artifact.link a.tree = .ok library)
      (hf : l.find a name searchPath = .ok (some (.artifact artifact strategy))) :
      Step a k ⟨.bringing name searchPath :: s, l⟩ ⟨.bringing name searchPath :: s, l.modifyUnit id
        (·.bindMetadata (some artifact.origin) (some .nativeLibrary) artifact.locations)⟩
  /-- The unit was brought in, and there is none around it. -/
  | settle {name : String} {searchPath : Option (List String)} {id : UnitId} {s : List Frame}
      {l : Loader} (hr : l.registry.find? name = some id) (h : UnitName.parent? name = none) :
      Step a k ⟨.bringing name searchPath :: s, l⟩ ⟨s, l⟩
  /-- The unit was brought in, and becomes an attribute of the unit around it. -/
  | adopt {name parent : String} {searchPath : Option (List String)} {id parentId : UnitId}
      {s : List Frame} {l : Loader} (hr : l.registry.find? name = some id)
      (h : UnitName.parent? name = some parent)
      (hp : l.registry.find? parent = some parentId) :
      Step a k ⟨.bringing name searchPath :: s, l⟩
        ⟨s, l.modifyUnit parentId (·.setAttribute (UnitName.short name) (.unit name))⟩
  /-- The unit was not brought in. -/
  | abandon {name : String} {searchPath : Option (List String)} {s : List Frame} {l : Loader}
      (hfree : l.registry.find? name = none) :
      Step a k ⟨.bringing name searchPath :: s, l⟩ ⟨s, l⟩

/-- Any number of steps of a load. -/
abbrev Steps (a : Ambient) (m : Moment) : Moment → Prop :=
  Relation.ReflTransGen (Step a (failures m.loader.history)) m

/-- A load goes on if no program has failed. -/
lemma Steps.andThen {a : Ambient} {m m' m'' : Moment} (h : Steps a m m')
    (hc : failures m'.loader.history = failures m.loader.history) (h' : Steps a m' m'') :
    Steps a m m'' := by
  rw [Steps, hc] at h'
  exact h.trans h'

end UnitLoader
