import UnitLoader.Proofs.Loader.Libraries
import UnitLoader.Proofs.Loader.Programs
import UnitLoader.Proofs.Lookup

/-!
# Bringing in units as sequences of steps

A unit that is not registered is a builtin, or the chain finds an artifact or directories for it.
Whichever it is, it is registered afterwards, unless it failed; and if it failed, it is not.

## Main results

* `UnitLoader.LoadM.exec_install`, `UnitLoader.LoadM.exec_load` — what loading an artifact does.
* `UnitLoader.install_follows` — running the program of a unit is a sequence of steps.
* `UnitLoader.bring_follows` — bringing in a unit is a sequence of steps.
-/

set_option relaxedAutoImplicit false
set_option autoImplicit false

namespace UnitLoader

open LoadM (exec)

variable {a : Ambient} {n : Nat} {s : List Frame} {name : String}
  {searchPath : Option (List String)} {artifact : Artifact} {strategy : Strategy}
  {kind : ArtifactKind} {p : Program} {l : Loader} {i j : Importer}

/-! ## What loading does -/

namespace LoadM

/-- Installing a program under a free name creates a unit and runs the program in it. -/
lemma exec_install (hfree : l.registry.find? artifact.name = none) :
    exec (artifact.install i kind p) l =
      match exec (p.run i l.registry.nextId) (l.begin artifact kind) with
      | (.ok _, l') => (.ok l.registry.nextId, l'.note (.ended artifact.name l.registry.nextId))
      | (.error e, l') =>
        (.error e, (l'.evict artifact.name).note (.failed artifact.name l.registry.nextId)) := by
  rw [Artifact.install, exec_bind, exec_getOrCreate_of_none l hfree]
  simp only [if_true, exec_bind, exec_modifyUnit, exec_note, exec_onError, Loader.begin]
  rcases exec (p.run i l.registry.nextId) _ with ⟨_ | _, l'⟩ <;> rfl

/-- An artifact that is not a library is read, and its program is installed. -/
lemma exec_load (t : Tree) (hfree : l.registry.find? artifact.name = none)
    (hs : strategy ≠ .nativeLibrary) :
    exec (artifact.load t i strategy) l = match artifact.read t strategy with
      | .ok (kind, p) => exec (artifact.install i kind p) l
      | .error e => (.error e, l) := by
  rw [Artifact.load.eq_def, exec_bind, exec_registered?, hfree]
  cases strategy with
  | source =>
    dsimp only [Artifact.loadSource, Artifact.read]
    rw [exec_bind, exec_ofOutcome]
    cases artifact.directory.readSource t artifact.path <;> rfl
  | compiledCache source =>
    dsimp only [Artifact.loadCache, Artifact.read]
    rw [exec_bind, exec_ofOutcome]
    cases artifact.directory.readCache t artifact.path source <;> rfl
  | cacheThenSource cache =>
    dsimp only [Artifact.loadCacheOrSource, Artifact.read]
    cases artifact.directory.readCache t cache (some artifact.path) with
    | ok p => rfl
    | error e =>
      dsimp only [Artifact.loadSource]
      split
      · rw [exec_bind, exec_ofOutcome]
        cases artifact.directory.readSource t artifact.path <;> rfl
      · rfl
  | nativeLibrary => exact absurd rfl hs

/-- A unit that is not a builtin is brought in as what the chain finds. -/
lemma exec_bringFound (a : Ambient) (i : Importer) (name : String)
    (searchPath : Option (List String)) (l : Loader) :
    exec (bringFound a i name searchPath) l = match l.find a name searchPath with
      | .error e => (.error e, l)
      | .ok none => (.error (.missingArtifact (.unit name)), l)
      | .ok (some (.artifact artifact strategy)) =>
        exec ((artifact.load a.tree i strategy).onError (·.evict name)) l
      | .ok (some (.portions name locations)) => exec (do
          let (id, _) ← getOrCreate name
          modifyUnit id (·.bindMetadata none none (some locations))
          return id) l := by
  rw [bringFound, exec_bind, exec_get]
  dsimp only
  rw [exec_bind, exec_ofOutcome]
  rcases l.find a name searchPath with _ | _ | _ | _ <;> rfl

/-- A unit is brought in as the builtin of its name, if there is one, and otherwise as what the
chain finds. -/
lemma exec_bring (a : Ambient) (i : Importer) (name : String) (searchPath : Option (List String))
    (l : Loader) :
    exec (bring a i name searchPath) l = match l.builtins.get? name with
      | some bindings => exec (do
          let (id, _) ← getOrCreate name
          modifyUnit id (·.becomeBuiltin bindings)
          return id) l
      | none => exec (bringFound a i name searchPath) l := by
  rw [bring, exec_bind, exec_get]
  dsimp only
  cases l.builtins.get? name <;> rfl

/-- Under a free name a unit is created and described. -/
lemma exec_describe (hfree : l.registry.find? name = none) (f : LoadedUnit → LoadedUnit) :
    exec (do
      let (id, _) ← getOrCreate name
      modifyUnit id f
      return id) l =
      (.ok l.registry.nextId, (l.create name).modifyUnit l.registry.nextId f) := by
  rw [exec_bind, exec_getOrCreate_of_none l hfree]
  rfl

end LoadM

/-! ## Loading -/

/-- Running the program of a unit is a sequence of steps. -/
theorem install_follows (hfree : l.registry.find? artifact.name = none)
    (hf : l.find a artifact.name searchPath = .ok (some (.artifact artifact strategy)))
    (hr : artifact.read a.tree strategy = .ok (kind, p))
    (ho : Orderly l (.bringing artifact.name searchPath :: s))
    (hi : ∀ id p, Supplies a n
      (.running artifact.name id p :: .bringing artifact.name searchPath :: s) i j) :
    Follows a n (.bringing artifact.name searchPath :: s) l (artifact.install i kind p)
      (artifact.install j kind p) (Settles artifact.name) := by
  have hstep := Step.begin (s := s) hfree hf hr rfl
  have ho' := hstep.orderly ho
  refine .nest (.single hstep) rfl (run_follows ho' (hi _ p)) ?_ ?_ ?_
    (g := fun r => r.map fun _ => l.registry.nextId)
    (k := fun r l' => match r with
      | .ok _ => l'.note (.ended artifact.name l.registry.nextId)
      | .error _ =>
        (l'.evict artifact.name).note (.failed artifact.name l.registry.nextId))
  · intro r l' hs _
    cases r with
    | ok _ => exact ⟨.finish, (hs.orderly ho').2.1, fun _ _ => ⟨⟨_, rfl⟩, rfl⟩⟩
    | error e =>
      refine ⟨.fail, ?_, fun v hv => by simp [Except.map] at hv⟩
      show (l'.registry.evict artifact.name).find? artifact.name = none
      rw [Registry.find?_evict, if_pos rfl]
  all_goals
    rw [LoadM.exec_install hfree]
    split <;> simp_all [Except.map]

/-- Loading an artifact is a sequence of steps. -/
lemma load_follows (hfree : l.registry.find? artifact.name = none)
    (hf : l.find a artifact.name searchPath = .ok (some (.artifact artifact strategy)))
    (ho : Orderly l (.bringing artifact.name searchPath :: s))
    (hi : ∀ id p, Supplies a n
      (.running artifact.name id p :: .bringing artifact.name searchPath :: s) i j) :
    Follows a n (.bringing artifact.name searchPath :: s) l (artifact.load a.tree i strategy)
      (artifact.load a.tree j strategy) (Settles artifact.name) := by
  by_cases hs : strategy = .nativeLibrary
  · subst hs
    have he : ∀ k, exec (artifact.load a.tree k .nativeLibrary) l =
        exec (artifact.loadNative a.tree) l := fun k => by
      rw [Artifact.load.eq_def, LoadM.exec_bind, LoadM.exec_registered?, hfree]
    exact (loadNative_follows hfree hf).congr (he i) (he j)
  · have hx := LoadM.exec_load a.tree (i := i) hfree hs
    have hy := LoadM.exec_load a.tree (i := j) hfree hs
    cases hr : artifact.read a.tree strategy with
    | ok program =>
      rw [hr] at hx hy
      exact (install_follows hfree hf hr ho hi).congr hx hy
    | error e =>
      rw [hr] at hx hy
      exact (Follows.throw hfree).congr hx hy

/-- A unit that failed is not registered, so that there is nothing to evict. -/
lemma Follows.onError {x y : LoadM UnitId} (h : Follows a n s l x y (Settles name)) :
    Follows a n s l (x.onError (·.evict name)) (y.onError (·.evict name)) (Settles name) := by
  refine h.tryCatch (fun _ _ hr => hr) fun e l' hfree => ⟨e, ?_, hfree⟩
  rw [LoadM.exec_bind, LoadM.exec_modify, Loader.evict, Registry.evict_of_find?_none hfree]
  rfl

/-- Bringing in a unit is a sequence of steps. -/
theorem bring_follows (hfree : l.registry.find? name = none)
    (ho : Orderly l (.bringing name searchPath :: s))
    (hi : ∀ id p, Supplies a n (.running name id p :: .bringing name searchPath :: s) i j) :
    Follows a n (.bringing name searchPath :: s) l (bring a i name searchPath)
      (bring a j name searchPath) (Settles name) := by
  have hnew : ∀ {m : String} {f : LoadedUnit → LoadedUnit}, m = name →
      ((l.create m).modifyUnit l.registry.nextId f).registry.find? name =
        some l.registry.nextId := by
    rintro m f rfl
    simp [Registry.find?_insertNew]
  have hx := LoadM.exec_bring a i name searchPath l
  have hy := LoadM.exec_bring a j name searchPath l
  -- Every way to bring in the unit is one step, but for an artifact, which is loaded step by step.
  cases hb : l.builtins.get? name with
  | some bindings =>
    rw [hb] at hx hy
    refine .congr (.same (LoadM.exec_describe hfree _) (.single (.builtin hfree hb)) (hnew rfl)
      fun _ _ => rfl) hx hy
  | none =>
    rw [hb, LoadM.exec_bringFound] at hx hy
    cases hf : l.find a name searchPath with
    | error e =>
      rw [hf] at hx hy
      exact (Follows.throw hfree).congr hx hy
    | ok found =>
      rw [hf] at hx hy
      match found, hf with
      | none, hf => exact (Follows.throw hfree).congr hx hy
      | some (.artifact artifact strategy), hf =>
        obtain rfl := name_of_find hf
        exact (load_follows hfree hf ho hi).onError.congr hx hy
      | some (.portions m locations), hf =>
        obtain rfl := name_of_find hf
        exact .congr (.same (LoadM.exec_describe hfree _) (.single (.portions hfree hf)) (hnew rfl)
          fun _ _ => rfl) hx hy

end UnitLoader
