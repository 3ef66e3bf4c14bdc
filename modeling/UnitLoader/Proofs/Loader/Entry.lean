import UnitLoader.Proofs.Chain
import UnitLoader.Proofs.Loader.Reasons
import UnitLoader.Proofs.Native.Calls
import UnitLoader.Proofs.Setup.Restrict

/-!
# Importing native libraries

A unit that is a native library is imported if the entry point of the library registers it, under
its short name or under its full name. Whatever else the entry point does stays done, also
if the import fails; but the unit is not registered then, and neither the context that is published
to native code nor the suspension of reclamation outlives the import.

## Main results

* `UnitLoader.LoadM.exec_bring_library` — what bringing in a native library does.
* `UnitLoader.import?_context_and_gate` — imports leave the context and the gate as they were.
* `UnitLoader.import?_library` — what importing a native library does.
-/

set_option relaxedAutoImplicit false
set_option autoImplicit false

namespace UnitLoader

open LoadM (exec)
open HostCall (Run registered)

variable {a : Ambient} {l l₁ : Loader} {name : String} {searchPath : Option (List String)}
  {x : Artifact} {library : NativeLibrary} {m m' : Moment} {k : Nat}

/-! ## The context and the gate -/

/-- A step does not change the context of native code. -/
lemma Step.context_eq (h : Step a k m m') : m'.loader.context = m.loader.context := by
  cases h <;> rfl

/-- Steps do not change the context of native code. -/
lemma Steps.context_eq (h : Steps a m m') : m'.loader.context = m.loader.context := by
  induction h with
  | refl => rfl
  | tail _ hstep ih => exact hstep.context_eq.trans ih

/-- Whatever an import does, afterwards the context that is published to native code is the one that
was published before, and reclamation is suspended as often as before. -/
theorem import?_context_and_gate (a : Ambient) (l : Loader) (name : String) :
    (l.after a name).context = l.context ∧ (l.after a name).gate = l.gate :=
  ⟨(steps_import? a l name).context_eq, (steps_import? a l name).chain_eq_and_gate_eq.2⟩

/-! ## Bringing in a library -/

/-- The loader after the entry point of a library was called for a unit and left behind a registry
and return codes. -/
def Loader.called (l : Loader) (library : NativeLibrary) (name : String) (r : Registry)
    (codes : List Int) : Loader :=
  { l with
    registry := r
    libraries := l.libraries + 1
    codes := l.codes ++ codes
    history := HostCall.registrations { name, gate := some 0 } library.calls ++ l.history }

/-- Bringing in a native library runs its calls. The unit is told where it came from if they
register it, and else it is an error that they do not. -/
lemma LoadM.exec_bring_library (hfree : l.registry.find? name = none)
    (hb : l.builtins.get? name = none)
    (hf : l.find a name searchPath = .ok (some (.artifact x .nativeLibrary)))
    (hlink : x.link a.tree = .ok library)
    (hsymbol : library.exports (entryPointSymbol (UnitName.short name)) = true) :
    ∃ r codes, Run name (l.gate.depth + 1) [] library.calls l.registry r codes ∧
      exec (bring a (import? a) name searchPath) l = match r.find? name with
        | some id => (.ok id, (l.called library name r codes).modifyUnit id
            (·.bindMetadata (some x.origin) (some .nativeLibrary) x.locations))
        | none => (.error (.dynamicLoadFailure
            (.unregistered (entryPointSymbol (UnitName.short name)) name)),
            l.called library name r codes) := by
  obtain rfl : x.name = name := name_of_find hf
  have hrun := HostCall.run_performAll (HostCall.isContext_nil x.name l.registry)
    (l.gate.depth + 1) library.calls
  refine ⟨_, _, hrun, ?_⟩
  -- From here on the calls are known by what they leave in the registry and by their codes.
  generalize hr : Prod.fst (Prod.snd (HostCall.performAll _ l.registry _ _)) = r at hrun ⊢
  generalize hcodes : Prod.snd (Prod.snd (HostCall.performAll _ l.registry _ _)) = codes at hrun ⊢
  have hcalled : { ({ l with gate := l.gate.suspend, libraries := l.libraries + 1 } :
      Loader).callEntryPoint library x.name with gate := l.gate } =
      l.called library x.name r codes := by
    rw [← hr, ← hcodes]
    rfl
  have hload :
      exec (x.load a.tree (import? a) .nativeLibrary) l = exec (x.loadNative a.tree) l := by
    rw [Artifact.load.eq_def, exec_bind, exec_registered?, hfree]
  rw [exec_bring, hb]
  dsimp only
  rw [exec_bringFound, hf]
  dsimp only
  rw [exec_onError, hload, exec_loadNative, hlink]
  simp only [hsymbol, if_true, hcalled]
  have hregistry : (({ l with gate := l.gate.suspend, libraries := l.libraries + 1 } :
      Loader).callEntryPoint library x.name).registry = r := hr
  rw [hregistry]
  cases hfound : r.find? x.name with
  | none =>
    -- A load that fails evicts the unit, but here the unit was never registered.
    have hevict : (l.called library x.name r codes).evict x.name =
        l.called library x.name r codes :=
      congrArg (fun r => l.called library x.name r codes) (Registry.evict_of_find?_none hfound)
    dsimp only
    rw [hevict]
  | some id => rfl

/-! ## Importing a library -/

namespace Loader

/-- Preparing for a unit leaves the gate as it was. -/
lemma Prepares.gate_eq (hl : l.Prepares a name l₁) : l₁.gate = l.gate := by
  cases hl with
  | outermost _ => rfl
  | @within parent id _ _ hi =>
    have hgate := (import?_context_and_gate a l parent).2
    rwa [Loader.after, hi] at hgate

/-- Telling the unit around of a unit is no call of native code. -/
lemma codes_adopted (l : Loader) (name : String) : (l.adopted name).codes = l.codes := by
  unfold adopted
  split <;> rfl

/-- Telling the unit around of a unit does not change what is registered. -/
lemma find?_adopted (l : Loader) (name other : String) :
    (l.adopted name).registry.find? other = l.registry.find? other := by
  unfold adopted
  split <;> rfl

/-- Telling the unit around of a unit changes nothing but attributes. -/
lemma bare_adopted (l : Loader) (name : String) (id : UnitId) :
    ((l.adopted name).registry.unit id).bare = (l.registry.unit id).bare := by
  unfold adopted
  split
  · rw [registry_modifyUnit, Registry.unit_modify]
    split
    · exact LoadedUnit.bare_setAttribute ..
    · rfl
  · rfl

end Loader

/-- A unit has the metadata of the native library that it was loaded from, and is a container if the
library initializes one. -/
structure LoadedUnit.IsOfLibrary (u : LoadedUnit) (x : Artifact) : Prop where
  name_eq : u.name = x.name
  origin_eq : u.origin = some x.origin
  kind_eq : u.kind = some .nativeLibrary
  isContainer_eq : u.isContainer = x.locations.isSome
  locations_eq : u.locations = x.locations.getD []

namespace LoadedUnit.IsOfLibrary

variable {u v : LoadedUnit}

/-- Attributes do not matter for whether a unit has the metadata of a library. -/
lemma of_bare_eq (h : u.IsOfLibrary x) (he : v.bare = u.bare) : v.IsOfLibrary x := by
  simp only [bare, mk.injEq] at he
  obtain ⟨hname, horigin, hkind, hcontainer, hlocations, -⟩ := he
  exact ⟨hname.trans h.name_eq, horigin.trans h.origin_eq, hkind.trans h.kind_eq,
    hcontainer.trans h.isContainer_eq, hlocations.trans h.locations_eq⟩

/-- A unit with nothing but its name is told this by binding the metadata. -/
lemma bindMetadata (hu : u.bare = (LoadedUnit.ofName x.name).bare) :
    (u.bindMetadata (some x.origin) (some .nativeLibrary) x.locations).IsOfLibrary x := by
  simp only [bare, ofName, mk.injEq] at hu
  obtain ⟨hname, -, -, hcontainer, hlocations, -⟩ := hu
  cases hx : x.locations with
  | none => exact ⟨hname, rfl, rfl, by rw [hx]; exact hcontainer, by rw [hx]; exact hlocations⟩
  | some found => exact ⟨hname, rfl, rfl, by rw [hx]; rfl, by rw [hx]; rfl⟩

end LoadedUnit.IsOfLibrary

/-- A unit that the calls created, since its name was free before them, is told where it came from
when its metadata is bound: the calls gave it nothing but attributes. -/
lemma LoadedUnit.IsOfLibrary.of_run {r : Registry} {codes : List Int} {depth : Nat} {id : UnitId}
    (hrun : Run x.name depth [] library.calls l.registry r codes)
    (hfree : l.registry.find? x.name = none) (hr : r.find? x.name = some id) :
    (((l.called library x.name r codes).modifyUnit id (·.bindMetadata
      (some x.origin) (some .nativeLibrary) x.locations)).registry.unit id).IsOfLibrary x := by
  obtain ⟨hlt, hbare⟩ := hrun.bare_of_new hfree hr
  rw [Loader.registry_modifyUnit, Registry.unit_modify, if_pos ⟨rfl, hlt⟩]
  exact .bindMetadata hbare

/-- An import of a native library runs its calls in the loader that is prepared, and ends as they
left the unit registered or not. -/
lemma LoadM.exec_import?_library (hi : UnitName.isImportable name)
    (hfree : l.registry.find? name = none) (hl : l.Prepares a name l₁)
    (hfree₁ : l₁.registry.find? name = none) (hs : l₁.Searches name searchPath)
    (hb : l₁.builtins.get? name = none)
    (hf : l₁.find a name searchPath = .ok (some (.artifact x .nativeLibrary)))
    (hlink : x.link a.tree = .ok library)
    (hsymbol : library.exports (entryPointSymbol (UnitName.short name)) = true) :
    ∃ r codes, Run name (l.gate.depth + 1) [] library.calls l₁.registry r codes ∧
      exec (import? a name) l = match r.find? name with
        | some id => (.ok id, ((l₁.called library name r codes).modifyUnit id
            (·.bindMetadata (some x.origin) (some .nativeLibrary) x.locations)).adopted name)
        | none => (.error (.dynamicLoadFailure
            (.unregistered (entryPointSymbol (UnitName.short name)) name)),
            l₁.called library name r codes) := by
  obtain ⟨r, codes, hrun, hbring⟩ := exec_bring_library hfree₁ hb hf hlink hsymbol
  rw [hl.gate_eq] at hrun
  refine ⟨r, codes, hrun, ?_⟩
  rw [exec_import?_of_prepares hi hfree hl hfree₁ hs, hbring]
  cases r.find? name <;> rfl

/-- **Importing a native library.** The entry point runs with reclamation suspended once more, and
each of its calls does and returns what `HostCall.Does` says. Those names are registered afterwards
that were before and that the calls register. The import succeeds if one of the calls passes the
short name or the full name of the unit, and only then; the unit is told its origin, its kind and
its locations then, and becomes an attribute of the unit around it. After every failure, be it one
to open or to link the library or to find its entry point, the unit is not registered. And after
every outcome the context that is published and the suspension of reclamation are what they were
before.

**Proof sketch.** The import brings in the unit in the loader that is prepared. There the calls run
in a context that keeps the unit registered last (`HostCall.run_performAll`). They create the unit
if they register it, since its name is free, so that nothing but attributes is known of it when its
metadata is bound. -/
theorem import?_library (hi : UnitName.isImportable name) (hfree : l.registry.find? name = none)
    (hl : l.Prepares a name l₁) (hfree₁ : l₁.registry.find? name = none)
    (hs : l₁.Searches name searchPath) (hb : l₁.builtins.get? name = none)
    (hf : l₁.find a name searchPath = .ok (some (.artifact x .nativeLibrary))) :
    (∀ library, x.link a.tree = .ok library →
      library.exports (entryPointSymbol (UnitName.short name)) = true →
      ∃ r codes, Run name (l.gate.depth + 1) [] library.calls l₁.registry r codes ∧
        (l.after a name).codes = l₁.codes ++ codes ∧
        (∀ other, ((l.after a name).registry.find? other).isSome = true ↔
          (l₁.registry.find? other).isSome = true ∨ other ∈ registered name library.calls) ∧
        ((∃ requested, .register (some requested) ∈ library.calls ∧
            (requested = UnitName.short name ∨ requested = name)) →
          ∃ id, exec (import? a name) l = (.ok id, l.after a name) ∧ r.find? name = some id ∧
            l.after a name = ((l₁.called library name r codes).modifyUnit id (·.bindMetadata
              (some x.origin) (some .nativeLibrary) x.locations)).adopted name ∧
            ((l.after a name).registry.unit id).IsOfLibrary x) ∧
        ((¬ ∃ requested, .register (some requested) ∈ library.calls ∧
            (requested = UnitName.short name ∨ requested = name)) →
          exec (import? a name) l = (.error (.dynamicLoadFailure
            (.unregistered (entryPointSymbol (UnitName.short name)) name)), l.after a name) ∧
          l.after a name = l₁.called library name r codes)) ∧
    (∀ e, (exec (import? a name) l).1 = .error e → (l.after a name).registry.find? name = none) ∧
    (l.after a name).context = l.context ∧ (l.after a name).gate = l.gate := by
  refine ⟨fun library hlink hsymbol => ?_, fun e he => ?_, import?_context_and_gate a l name⟩
  · obtain rfl : x.name = name := name_of_find hf
    obtain ⟨r, codes, hrun, himport⟩ :=
      LoadM.exec_import?_library hi hfree hl hfree₁ hs hb hf hlink hsymbol
    have hnames := fun other => (hrun.find? other).1
    rw [← HostCall.mem_registered_self]
    refine ⟨r, codes, hrun, ?_⟩
    -- Whether the calls registered the unit decides on the outcome.
    cases hr : r.find? x.name with
    | some id =>
      rw [hr] at himport
      have hafter : l.after a x.name = ((l₁.called library x.name r codes).modifyUnit id
          (·.bindMetadata (some x.origin) (some .nativeLibrary) x.locations)).adopted x.name :=
        congrArg Prod.snd himport
      have hmem : x.name ∈ registered x.name library.calls :=
        ((hnames x.name).1 (by simp [hr])).resolve_left (by simp [hfree₁])
      refine ⟨?_, fun other => ?_, fun _ => ⟨id, ?_, rfl, hafter, ?_⟩, fun h => absurd hmem h⟩
      · rw [hafter, Loader.codes_adopted]
        rfl
      · rw [← hnames other, hafter, Loader.find?_adopted]
        rfl
      · rw [hafter, himport]
      · rw [hafter]
        exact (LoadedUnit.IsOfLibrary.of_run hrun hfree₁ hr).of_bare_eq
          (Loader.bare_adopted _ _ id)
    | none =>
      rw [hr] at himport
      have hafter : l.after a x.name = l₁.called library x.name r codes :=
        congrArg Prod.snd himport
      have hnot : x.name ∉ registered x.name library.calls := fun hmem => by
        have hsome := (hnames x.name).2 (.inr hmem)
        simp [hr] at hsome
      refine ⟨by rw [hafter]; rfl, fun other => ?_, fun h => absurd h hnot, fun _ => ⟨?_, hafter⟩⟩
      · rw [← hnames other, hafter]
        rfl
      · rw [hafter, himport]
  · have himport := exec_import?_of_prepares hi hfree hl hfree₁ hs
    rcases hbring : exec (bring a (import? a) name searchPath) l₁ with ⟨_ | id, l₂⟩
    · rw [hbring] at himport
      rw [Loader.after, himport]
      exact find?_none_of_bring hfree₁ hbring
    · rw [himport, hbring] at he
      cases he

/-- A tree with a directory `p` that has a native library `fast.so`. -/
def Tree.withLibrary (library : NativeLibrary) : Tree :=
  ⟨[.directory 0 (.ofList [("p", 1)]) 0, .directory 0 (.ofList [("fast.so", 2)]) 0,
    .file (.library library) 0]⟩

/-- A library sets an attribute before any unit is registered, registers its unit under the short
name, sets an attribute of it, registers another unit, passes what is no text and asks for the
depth. -/
theorem import?_library_fast :
    let calls : List HostCall := [.setInt (some "early") 1, .register (some "fast"),
      .setText (some "greeting") (some "hi"), .register (some "other"), .setInt none 2,
      .register none, .depth]
    let a : Ambient := ⟨.withLibrary ⟨some "fast", calls⟩, Tree.root⟩
    let l' := Loader.rooted.after a "p.fast"
    l'.codes = [-1, 0, 0, 0, -1, -1, 1] ∧ (l'.registry.find? "other").isSome = true ∧
      ∃ id x, exec (import? a "p.fast") Loader.rooted = (.ok id, l') ∧
        (l'.registry.unit id).IsOfLibrary x ∧ x.locations = none ∧
        l'.context = none ∧ l'.gate = ⟨0⟩ := by
  intro calls a l'
  have hp : UnitName.parent? "p.fast" = some "p" := by decide +kernel
  have hl : Loader.rooted.Prepares a "p.fast" (Loader.rooted.after a "p") :=
    .after hp (by decide +kernel)
  have hr : (Loader.rooted.after a "p").registry.find? "p" = some 0 := by decide +kernel
  have hc : ((Loader.rooted.after a "p").registry.unit 0).isContainer = true := by decide +kernel
  let x : Artifact := ⟨"p.fast", ⟨["p"], some 1, none⟩, "fast.so", .nativeLibrary, none⟩
  have hf : (Loader.rooted.after a "p").find a "p.fast" (some
      ((Loader.rooted.after a "p").registry.unit 0).locations) =
        .ok (some (.artifact x .nativeLibrary)) := by decide +kernel
  have hlink : x.link a.tree = .ok ⟨some "fast", calls⟩ := by decide +kernel
  obtain ⟨hcalls, -, hcontext, hgate⟩ := import?_library (by decide +kernel) (by decide +kernel) hl
    (by decide +kernel) (.within hp hr hc) (by decide +kernel) hf
  obtain ⟨r, codes, -, -, hnames, hok, -⟩ := hcalls _ hlink (by decide +kernel)
  obtain ⟨id, hid, -, -, hunit⟩ := hok ⟨"fast", by simp [calls], .inl (by decide +kernel)⟩
  refine ⟨by decide +kernel, (hnames "other").2 (.inr ?_), id, x, hid, hunit, rfl, hcontext, hgate⟩
  decide +kernel

end UnitLoader
