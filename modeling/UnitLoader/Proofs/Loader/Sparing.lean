import UnitLoader.Proofs.Loader.Artifacts
import UnitLoader.Proofs.Lookup.Presence

/-!
# Errors that come from artifacts

Running a program adds few kinds of errors to those of looking up and reading artifacts. So imports
do not fail with errors of other kinds unless a lookup does, or an artifact that is found cannot be
read or linked for that reason, however deep they nest.

## Main definitions

* `UnitLoader.LoadError.IsOfRun` — errors of running programs and of what they ask for.
* `UnitLoader.LoadM.Spares` — a computation does not fail with errors of some kind, and keeps the
  chain.
* `UnitLoader.FindsSparing` — neither do lookups, nor reading and linking what they find.
* `UnitLoader.LoadError.IsForeign` — errors that come from elsewhere.

## Main results

* `UnitLoader.spares_importWithin` — nested imports do not fail with such errors.
* `UnitLoader.spares_loadArtifact` — nor does loading an artifact.
-/

set_option relaxedAutoImplicit false
set_option autoImplicit false

namespace UnitLoader

open LoadM (exec)

/-- An error of a running program, or of bringing in what it asks for. -/
def LoadError.IsOfRun : LoadError → Prop
  | .badPath (.unitName name) => ¬ UnitName.isImportable name
  | .missingArtifact _ | .badPath _ | .tooDeep | .executionFailed _ _ | .dynamicLoadFailure _
  | .entryPointNotFound _ _ => True
  | _ => False

variable {α β : Type} {P : LoadError → Prop} {c : List Finder} {i : Importer}

/-! ## Computations -/

namespace LoadM

/-- On loaders with a chain, a computation does not fail with errors of some kind, and it leaves
loaders with that chain. -/
def Spares (P : LoadError → Prop) (c : List Finder) (x : LoadM α) : Prop :=
  ∀ l, l.chain = c → Avoids P (exec x l).1 ∧ (exec x l).2.chain = c

namespace Spares

variable {x : LoadM α}

/-- A computation that gives a value spares all errors. -/
lemma pure (v : α) : Spares P c (pure v) := fun _ hl => ⟨.ok v, hl⟩

/-- A computation that fails spares other errors. -/
lemma throw {e : LoadError} (h : ¬ P e) : Spares P c (throw e : LoadM α) :=
  fun _ hl => ⟨.error h, hl⟩

/-- A result that is known beforehand spares the errors that it avoids. -/
lemma ofOutcome {r : Outcome α} (h : Avoids P r) : Spares P c (ofOutcome r) := fun l hl => by
  rw [exec_ofOutcome]
  exact ⟨h, hl⟩

/-- Two computations one after the other spare the errors that both do. -/
lemma bind {f : α → LoadM β} (h : Spares P c x) (hf : ∀ v, Spares P c (f v)) :
    Spares P c (x >>= f) := by
  intro l hl
  obtain ⟨he, hc⟩ := h l hl
  rw [exec_bind]
  generalize exec x l = r at he hc
  obtain ⟨e | v, l'⟩ := r
  · exact ⟨.error (he e rfl), hc⟩
  · exact hf v l' hc

/-- What goes on from an operation goes on from a value that it gives. -/
lemma ofOutcome_bind {r : Outcome α} {f : α → LoadM β} (h : Avoids P r)
    (hf : ∀ v, r = .ok v → Spares P c (f v)) : Spares P c (LoadM.ofOutcome r >>= f) := by
  intro l hl
  rw [exec_bind, exec_ofOutcome]
  cases r with
  | error e => exact ⟨.error (h e rfl), hl⟩
  | ok v => exact hf v rfl l hl

/-- What goes on from a loader goes on from one with the chain. -/
lemma get_bind {f : Loader → LoadM β} (hf : ∀ l, l.chain = c → Spares P c (f l)) :
    Spares P c (get >>= f) := by
  intro l hl
  rw [exec_bind]
  exact hf l hl l hl

/-- A change that keeps the chain spares all errors. -/
lemma modify {change : Loader → Loader} (h : ∀ l, (change l).chain = l.chain) :
    Spares P c (modify change) := fun l hl => ⟨.ok (), (h l).trans hl⟩

/-- Asking the registry for a name spares all errors. -/
lemma registered? (name : String) : Spares P c (registered? name) := fun _ hl => ⟨.ok _, hl⟩

/-- Looking at a unit spares all errors. -/
lemma unit (id : UnitId) : Spares P c (unit id) := fun _ hl => ⟨.ok _, hl⟩

/-- Changing a unit spares all errors. -/
lemma modifyUnit (id : UnitId) (f : LoadedUnit → LoadedUnit) : Spares P c (modifyUnit id f) :=
  modify fun _ => rfl

/-- Noting an event spares all errors. -/
lemma note (e : Event) : Spares P c (note e) := modify fun _ => rfl

/-- Finding or creating a unit spares all errors. -/
lemma getOrCreate (name : String) : Spares P c (getOrCreate name) := by
  intro l hl
  rw [LoadM.getOrCreate, exec_modifyGet]
  cases l.registry.find? name with
  | some id => exact ⟨.ok _, hl⟩
  | none => exact ⟨.ok _, hl⟩

/-- Registering a unit and describing it. -/
lemma describe (name : String) (f : LoadedUnit → LoadedUnit) :
    Spares P c (do
      let (id, _) ← LoadM.getOrCreate name
      LoadM.modifyUnit id f
      return id) :=
  (getOrCreate name).bind fun new => (modifyUnit new.1 f).bind fun _ => pure new.1

/-- An error that is handled is not one of those. -/
lemma tryCatch {handle : LoadError → LoadM α} (h : Spares P c x)
    (hh : ∀ e, ¬ P e → Spares P c (handle e)) : Spares P c (tryCatch x handle) := by
  intro l hl
  obtain ⟨he, hc⟩ := h l hl
  rw [exec_tryCatch]
  generalize exec x l = r at he hc
  obtain ⟨e | v, l'⟩ := r
  · exact hh e (he e rfl) l' hc
  · exact ⟨.ok v, hc⟩

/-- A change for the case of an error spares the errors that the computation does, if it keeps the
chain. -/
lemma onError {change : Loader → Loader} (h : Spares P c x)
    (hchange : ∀ l, (change l).chain = l.chain) : Spares P c (x.onError change) :=
  h.tryCatch fun _ he => (modify hchange).bind fun _ => throw he

/-- A change that is always made spares the errors that the computation does, if it keeps the
chain. -/
lemma always {change : Loader → Loader} (h : Spares P c x)
    (hchange : ∀ l, (change l).chain = l.chain) : Spares P c (x.always change) :=
  (h.onError hchange).bind fun v => (modify hchange).bind fun _ => pure v

/-- A computation whose value is not used spares the same errors. -/
lemma discard (h : Spares P c x) : Spares P c (discard x) := fun l hl => by
  rw [exec_discard]
  exact h.bind (fun _ => pure ()) l hl

/-- A loop spares the errors that each round does. -/
lemma forM {f : β → LoadM PUnit} {zs : List β} (h : ∀ z, Spares P c (f z)) :
    Spares P c (zs.forM f) := by
  induction zs with
  | nil => exact pure _
  | cons z zs ih => exact (h z).bind fun _ => ih

end Spares

end LoadM

open LoadM (Spares)

/-! ## Programs -/

/-- An importer does not fail with errors of some kind. -/
def Importer.Spares (P : LoadError → Prop) (c : List Finder) (i : Importer) : Prop :=
  ∀ name, LoadM.Spares P c (i name)

/-- A recorded importer spares the errors that the importer does. -/
lemma Importer.Spares.recorded (hi : i.Spares P c) : i.recorded.Spares P c := fun name =>
  (LoadM.Spares.note _).bind fun _ => (hi name).bind fun id =>
    (LoadM.Spares.note _).bind fun _ => .pure id

section Programs

variable (hP : ∀ e, P e → ¬ e.IsOfRun)

include hP

/-- The failure of a unit spares errors that are none of running programs. -/
lemma spares_fail (id : UnitId) (failure : Failure) :
    Spares P c (LoadM.fail id failure : LoadM α) :=
  (LoadM.Spares.unit id).bind fun _ => .throw fun h => hP _ h trivial

omit hP in
/-- Looking an attribute up spares the errors that are spared without it. -/
lemma spares_attribute (id : UnitId) (key : String) {missing : LoadM Value}
    (h : Spares P c missing) : Spares P c (LoadM.attribute id key missing) := by
  refine (LoadM.Spares.unit id).bind fun u => ?_
  cases u.attribute? key with
  | some v => exact .pure v
  | none => exact h

variable (hi : i.Spares P c)

include hi

omit hP in
/-- Following the segments of a reference spares the errors that imports spare. -/
lemma spares_follow {missing : LoadM Value} (h : Spares P c missing) (v : Value)
    (segments : List (List Char)) : Spares P c (v.follow i missing segments) := by
  induction segments generalizing v with
  | nil =>
    rw [Value.follow.eq_def]
    exact .pure v
  | cons segment segments ih =>
    cases v with
    | unit target =>
      rw [Value.follow]
      exact (hi target).bind fun id => (spares_attribute id _ h).bind fun v => ih v
    | _ => exact h

/-- Evaluating an expression spares the errors that imports spare. -/
lemma spares_evaluate (id : UnitId) (e : Expr) : Spares P c (e.evaluate i id) := by
  cases e with
  | literal v => exact .pure v
  | name n =>
    rw [Expr.evaluate]
    cases UnitName.segments n with
    | nil => exact spares_fail hP id _
    | cons first rest =>
      exact (spares_attribute id _ (spares_fail hP id _)).bind fun v =>
        spares_follow hi (spares_fail hP id _) v rest

/-- Looking up what is imported from a unit spares the errors that imports spare. -/
lemma spares_importedValue (id source : UnitId) (module name : String) :
    Spares P c (importedValue i id source module name) := by
  refine spares_attribute source name (.tryCatch ?_ fun e he => ?_)
  · exact (hi _).discard.bind fun _ => .pure _
  · split
    · exact spares_fail hP id _
    · exact .throw he

/-- A statement fails with no other errors than its imports, and those of running programs. -/
lemma spares_statement (id : UnitId) (st : Statement) : Spares P c (st.run i id) := by
  cases st with
  | assign target e => exact (spares_evaluate hP hi id e).bind fun v => .modifyUnit id _
  | importUnit module newName =>
    refine (hi module).discard.bind fun _ => ?_
    cases newName <;> exact .modifyUnit id _
  | fromImport module names =>
    refine (hi module).bind fun source => .forM fun name => ?_
    exact (spares_importedValue hP hi id source module name).bind fun v => .modifyUnit id _
  | raise message => exact spares_fail hP id _

/-- So does a program. -/
theorem spares_run (id : UnitId) (p : Program) : Spares P c (p.run i id) :=
  .forM fun st => spares_statement hP hi.recorded id st

end Programs

/-! ## Artifacts -/

/-- Lookups do not fail with errors of some kind, nor do reading and linking what they find. -/
structure FindsSparing (P : LoadError → Prop) (a : Ambient) (c : List Finder) : Prop where
  find (name : String) (searchPath : Option (List String)) :
    Avoids P (findInChain a name searchPath c)
  read {name : String} {searchPath : Option (List String)} {x : Artifact} {strategy : Strategy}
    (h : findInChain a name searchPath c = .ok (some (.artifact x strategy))) :
    Avoids P (x.read a.tree strategy)
  link {name : String} {searchPath : Option (List String)} {x : Artifact} {strategy : Strategy}
    (h : findInChain a name searchPath c = .ok (some (.artifact x strategy))) :
    Avoids P (x.link a.tree)

/-- Lookups and artifacts that spare some errors spare those of every narrower kind. -/
lemma FindsSparing.mono {Q : LoadError → Prop} {a : Ambient} (hf : FindsSparing P a c)
    (hQ : ∀ e, Q e → P e) : FindsSparing Q a c where
  find name searchPath := (hf.find name searchPath).mono hQ
  read h := (hf.read h).mono hQ
  link h := (hf.link h).mono hQ

/-! ### Errors from elsewhere -/

/-- Errors of some kind come neither from reaching a file, nor from what is in it, nor from running
programs. -/
structure LoadError.IsForeign (P : LoadError → Prop) : Prop where
  access : ∀ e, P e → ¬ e.IsOfAccess
  content : ∀ e, P e → ¬ e.IsOfContent
  run : ∀ e, P e → ¬ e.IsOfRun

namespace LoadError.IsForeign

variable {a : Ambient} {t : Tree} (hP : LoadError.IsForeign P)

include hP

/-- Telling of a path gives no errors that come from elsewhere. -/
lemma avoids_stat (h : Handle) (t : Tree) (path : String) : Avoids P (h.stat t path) :=
  .mono (h.avoids_stat t path) fun e he => hP.access e he

/-- Telling of a path that may be absent gives none either. -/
lemma avoids_stat? (h : Handle) (t : Tree) (path : String) : Avoids P (h.stat? t path) := by
  unfold Handle.stat?
  split
  · exact .ok _
  · exact .ok _
  · split
    · exact .ok _
    · exact .error fun he => hP.access _ he trivial
  · next e _ _ he => exact .error (hP.avoids_stat h t path e he)

/-- Opening a root gives no such errors. -/
lemma avoids_openRoot (a : Ambient) (path : String) (rules : SuffixRules) :
    Avoids P (RootFinder.openRoot a path rules []) := by
  have habsolute (working : List String) :
      Avoids P ((Path.absolute? working path).mapError .badPath) := by
    refine .mapError fun fault hfault he => ?_
    cases fault with
    | unitName name => exact Path.absolute?_ne_unitName working path name hfault
    | _ => exact hP.access _ he trivial
  refine .bind (.bind ?_ fun _ _ => .bind (.mapError fun _ _ he => hP.access _ he trivial)
    fun _ _ => .ok _) fun h _ => .ok _
  unfold Ambient.absolute
  split
  · exact habsolute []
  · split
    · exact habsolute _
    · exact .error fun he => hP.access _ he trivial

/-- No lookup gives such errors. -/
lemma avoids_findInChain (name : String) (searchPath : Option (List String)) (c : List Finder) :
    Avoids P (findInChain a name searchPath c) :=
  UnitLoader.avoids_findInChain (fun _ he => hP.access _ he trivial)
    (fun h path => hP.avoids_stat? h a.tree path)
    (fun path rules _ => hP.avoids_openRoot a path rules) name searchPath c

/-- Opening an artifact gives no such errors. -/
lemma avoids_openArtifact (h : Handle) (t : Tree) (path : String) :
    Avoids P (h.openArtifact t path) := by
  refine .mapError fun e he hp => ?_
  cases e with
  | io fault =>
    rw [LoadError.atArtifact, LoadError.ofArtifactFault] at hp
    split at hp
    · exact hP.run _ hp trivial
    · exact hP.content _ hp trivial
  | _ => exact h.avoids_openFile t path _ he fun haccess => hP.access _ hp haccess

/-- Linking a library gives no such errors. -/
lemma avoids_link (x : Artifact) (t : Tree) : Avoids P (x.link t) := by
  refine .bind (hP.avoids_openArtifact x.directory t x.path) fun file _ => ?_
  split
  · exact .ok _
  · exact .error fun he => hP.run _ he trivial

/-- Reading an artifact gives such an error only if it is that a cache is not as old as its
source. -/
lemma avoids_read (hstale : ∀ path cached source, ¬ P (.staleCache path cached source))
    (x : Artifact) (t : Tree) (strategy : Strategy) : Avoids P (x.read t strategy) := by
  have hsource := Handle.avoids_readSource hP.content (hP.avoids_openArtifact x.directory t x.path)
  have hcache (path : String) (source : Option String) :
      Avoids P (x.directory.readCache t path source) := by
    refine Handle.avoids_readCache hP.content (hP.avoids_openArtifact x.directory t path) source
      fun s _ header origin => ?_
    unfold Handle.ensureFresh
    split
    · split
      · exact .ok _
      · exact .error (hstale _ _ _)
    · next e he =>
      split
      · exact .ok _
      · exact .error (hP.avoids_stat x.directory t s e he)
  cases strategy with
  | source => exact .bind hsource fun _ _ => .ok _
  | compiledCache source => exact .bind (hcache x.path source) fun _ _ => .ok _
  | cacheThenSource cache =>
    rw [Artifact.read]
    split
    · exact .ok _
    · next e he =>
      split
      · exact .bind hsource fun _ _ => .ok _
      · exact .error (hcache cache (some x.path) e he)
  | nativeLibrary => exact .error fun he => hP.run _ he trivial

end LoadError.IsForeign

/-- Neither finding nor reading or linking gives errors from elsewhere, if they are none of stale
caches. -/
lemma findsSparing_of_isForeign {a : Ambient} (hP : LoadError.IsForeign P)
    (hstale : ∀ path cached source, ¬ P (.staleCache path cached source)) :
    FindsSparing P a c where
  find name searchPath := hP.avoids_findInChain name searchPath c
  read _ := hP.avoids_read hstale _ _ _
  link _ := hP.avoids_link _ _

section Artifacts

variable {x : Artifact} {t : Tree} {strategy : Strategy} (hP : ∀ e, P e → ¬ e.IsOfRun)

include hP

/-- Installing a program spares the errors that imports spare. -/
lemma spares_install (hi : i.Spares P c) (kind : ArtifactKind) (p : Program) :
    Spares P c (x.install i kind p) := by
  refine (LoadM.Spares.getOrCreate x.name).bind fun new => ?_
  obtain ⟨id, isNew⟩ := new
  cases isNew with
  | false => exact .pure id
  | true =>
    refine (LoadM.Spares.modifyUnit id _).bind fun _ => (LoadM.Spares.note _).bind fun _ => ?_
    refine LoadM.Spares.bind ((spares_run hP hi id p).onError fun _ => rfl) fun _ => ?_
    exact (LoadM.Spares.note _).bind fun _ => .pure id

/-- Loading a native library spares the errors that linking it avoids. -/
lemma spares_loadNative (hlink : Avoids P (x.link t)) : Spares P c (x.loadNative t) := by
  refine LoadM.Spares.bind (.modify fun _ => rfl) fun _ => ?_
  extract_lets symbol loading
  refine LoadM.Spares.always ((LoadM.Spares.ofOutcome hlink).bind fun library => ?_) fun _ => rfl
  extract_lets call
  have hcall : ∀ r, Spares P c (call r) := by
    intro r
    refine LoadM.Spares.bind (.modify fun _ => rfl) fun _ => ?_
    refine LoadM.Spares.bind (.modify fun _ => rfl) fun _ => ?_
    refine (LoadM.Spares.registered? x.name).bind fun found => ?_
    cases found with
    | none => exact .throw fun h => hP _ h trivial
    | some id => exact (LoadM.Spares.modifyUnit id _).bind fun _ => .pure id
  split
  · exact (LoadM.Spares.throw fun h => hP (.entryPointNotFound symbol none) h trivial).bind hcall
  · exact hcall ()

/-- Loading an artifact fails with no other errors than reading or linking it, its imports, and
those of running programs. -/
theorem spares_load (hi : i.Spares P c) (hread : Avoids P (x.read t strategy))
    (hlink : Avoids P (x.link t)) : Spares P c (x.load t i strategy) := by
  intro l hl
  cases hr : l.registry.find? x.name with
  | some id =>
    rw [Artifact.load.eq_def, LoadM.exec_bind, LoadM.exec_registered?, hr]
    exact ⟨.ok id, hl⟩
  | none =>
    by_cases hs : strategy = .nativeLibrary
    · subst hs
      have hload : exec (x.load t i .nativeLibrary) l = exec (x.loadNative t) l := by
        rw [Artifact.load.eq_def, LoadM.exec_bind, LoadM.exec_registered?, hr]
      rw [hload]
      exact spares_loadNative hP hlink l hl
    · rw [LoadM.exec_load t hr hs]
      cases hp : x.read t strategy with
      | ok program => exact spares_install hP hi program.1 program.2 l hl
      | error e => exact ⟨.error (hread e hp), hl⟩

end Artifacts

/-! ## Imports -/

section Imports

variable {a : Ambient} (hP : ∀ e, P e → ¬ e.IsOfRun) (hf : FindsSparing P a c)

include hP hf

/-- Bringing a unit in spares the errors that imports spare. -/
lemma spares_bring (hi : i.Spares P c) (name : String) (searchPath : Option (List String)) :
    Spares P c (bring a i name searchPath) := by
  refine .get_bind fun l _ => ?_
  cases l.builtins.get? name with
  | some bindings => exact .describe name _
  | none =>
    refine .get_bind fun l hl => ?_
    rw [Loader.find, hl]
    refine .ofOutcome_bind (hf.find name searchPath) fun found hfound => ?_
    obtain _ | ⟨x, strategy⟩ | ⟨m, locations⟩ := found
    · exact .throw fun h => hP _ h trivial
    · exact (spares_load hP hi (hf.read hfound) (hf.link hfound)).onError fun _ => rfl
    · exact .describe m _

/-- Bringing a unit into the one around it spares the errors that imports spare. -/
lemma spares_bringInside (hi : i.Spares P c) (name parent : String) (parentId : UnitId) :
    Spares P c (bringInside a i name parent parentId) := by
  refine (LoadM.Spares.registered? name).bind fun found => ?_
  cases found with
  | some id => exact .pure id
  | none =>
    refine (LoadM.Spares.unit parentId).bind fun u => ?_
    extract_lets bringIn
    have hrest : ∀ r, Spares P c (bringIn r) := fun _ =>
      (spares_bring hP hf hi name _).bind fun id =>
        (LoadM.Spares.modifyUnit parentId _).bind fun _ => .pure id
    split
    · exact (LoadM.Spares.throw fun h => hP (.missingArtifact _) h trivial).bind hrest
    · exact hrest ()

/-- Importing a unit after those around it spares the errors that imports spare. -/
lemma spares_importLineage (hi : i.Spares P c) (name : String) (around : List String) :
    Spares P c (importLineage a i name around) := by
  induction around generalizing name with
  | nil =>
    rw [importLineage]
    refine (LoadM.Spares.registered? name).bind fun found => ?_
    cases found with
    | some id => exact .pure id
    | none => exact spares_bring hP hf hi name none
  | cons parent around ih =>
    rw [importLineage]
    refine (LoadM.Spares.registered? name).bind fun found => ?_
    cases found with
    | some id => exact .pure id
    | none =>
      exact (ih parent).bind fun parentId => spares_bringInside hP hf hi name parent parentId

/-- **Nested imports do not fail with errors of some kind** if lookups do not, nor reading and
linking what they find.

**Proof sketch.** By induction on the bound: what is imported inside does not fail so within the
smaller bound, and no operation of the loader adds such errors. -/
theorem spares_importWithin (n : Nat) : (importWithin a n).Spares P c := by
  induction n with
  | zero => exact fun name => .throw fun h => hP _ h trivial
  | succ n ih =>
    intro name
    rw [importWithin, importOnce]
    split
    · exact spares_importLineage hP hf ih name _
    · next hname => exact .throw fun h => hP _ h hname

/-- Neither do imports from outside. -/
theorem spares_import? (name : String) : Spares P c (import? a name) := by
  intro l hl
  rw [import?, LoadM.exec_bind]
  exact spares_importWithin hP hf _ name l hl

/-- Neither does loading an artifact, if reading and linking it do not. -/
theorem spares_loadArtifact {x : Artifact} {strategy : Strategy}
    (hread : Avoids P (x.read a.tree strategy)) (hlink : Avoids P (x.link a.tree)) :
    Spares P c (loadArtifact a x strategy) := by
  intro l hl
  rw [loadArtifact, LoadM.exec_bind]
  exact spares_load hP (spares_importWithin hP hf _) hread hlink l hl

end Imports

end UnitLoader
