import UnitLoader.Proofs.Loader.Sparing
import UnitLoader.Proofs.Lookup.Siblings

/-!
# Caches without a source

A cache is found where no source is: all sources that could be there were looked for before it. When
it is loaded, what is at the path of its source is asked for once more. This may be a directory, but
it is no file, if the suffix of the cache tells where its source would be. So a cache is taken for
stale because of a directory only; without anything at that path it is loaded by itself.

## Main definitions

* `UnitLoader.LoadError.IsStale` — an error says that a cache is not as old as its source.
* `UnitLoader.SuffixRules.IsUnambiguous` — no suffix ends in another that is listed before it.
* `UnitLoader.RootFinder.Mistrusts` — an artifact is taken for stale although no source was found.

## Main results

* `UnitLoader.RootFinder.isFile_source` — where a cache is found, there is no file at the path of
  its source.
* `UnitLoader.RootFinder.loadArtifact_of_resolve` — how a cache that was found is loaded.
-/

set_option relaxedAutoImplicit false
set_option autoImplicit false

namespace UnitLoader

open LoadM (exec)
open UnitLoader.Path (IsBare)
open UnitName (short)

/-! ## Errors of stale caches -/

namespace LoadError

/-- An error says that a cache is not as old as its source. -/
def IsStale : LoadError → Prop
  | .staleCache _ _ _ => True
  | _ => False

variable {e : LoadError}

/-- That a cache is stale is no error of access. -/
lemma IsStale.not_isOfAccess (h : e.IsStale) : ¬ e.IsOfAccess := by
  cases e with
  | staleCache _ _ _ => exact id
  | _ => exact h.elim

/-- That a cache is stale is no error of content. -/
lemma IsStale.not_isOfContent (h : e.IsStale) : ¬ e.IsOfContent := by
  cases e with
  | staleCache _ _ _ => exact id
  | _ => exact h.elim

/-- That a cache is stale is no error of running programs. -/
lemma IsStale.not_isOfRun (h : e.IsStale) : ¬ e.IsOfRun := by
  cases e with
  | staleCache _ _ _ => exact id
  | _ => exact h.elim

end LoadError

/-- Only reading a cache tells that it is not as old as its source. -/
lemma LoadError.isForeign_isStale : LoadError.IsForeign LoadError.IsStale where
  access _ he := he.not_isOfAccess
  content _ he := he.not_isOfContent
  run _ he := he.not_isOfRun

open LoadError (IsStale isForeign_isStale)

/-! ## Artifacts -/

/-- An error says that an artifact is not as old as what is at the path of its source. -/
def Artifact.IsJudgedBy (x : Artifact) (t : Tree) (strategy : Strategy) (e : LoadError)
    (m : Metadata) : Prop :=
  ∃ source origin cached, strategy = .compiledCache (some source) ∧
    x.directory.stat t source = .ok m ∧ cached ≠ m.mtimeLow ∧
    e = .staleCache origin cached m.mtimeLow

section Artifacts

variable {x : Artifact} {t : Tree} {strategy : Strategy} {h : Handle} {path source origin : String}
  {header : CacheHeader} {e : LoadError}

/-- A cache is stale if something is told of its source, and the time that it records is not the one
that is told. -/
lemma Handle.of_ensureFresh_isStale (h : Handle)
    (he : h.ensureFresh t source header origin = .error e) (hs : e.IsStale) :
    ∃ m, h.stat t source = .ok m ∧ header.sourceMtime ≠ m.mtimeLow ∧
      e = .staleCache origin header.sourceMtime m.mtimeLow := by
  unfold Handle.ensureFresh at he
  split at he
  · next m hm =>
    split at he
    · cases he
    · next hne =>
      cases he
      exact ⟨m, hm, fun heq => hne heq.symm, rfl⟩
  · next e' he' =>
    split at he
    · cases he
    · cases he
      exact absurd hs (isForeign_isStale.avoids_stat h t source _ he')

/-- An artifact is taken for stale only because of what is at the path of its source. -/
lemma Artifact.avoids_read_isStale (x : Artifact) (t : Tree) (strategy : Strategy) :
    Avoids (fun e => e.IsStale ∧ ¬ ∃ m, x.IsJudgedBy t strategy e m) (x.read t strategy) := by
  have hopen (P : LoadError → Prop) (path : String) :
      Avoids (fun e => e.IsStale ∧ P e) (x.directory.openArtifact t path) :=
    .mono (isForeign_isStale.avoids_openArtifact x.directory t path) fun _ he => he.1
  have hsource := Handle.avoids_readSource (fun _ he => he.1.not_isOfContent)
    (hopen (fun e => ¬ ∃ m, x.IsJudgedBy t strategy e m) x.path)
  cases strategy with
  | source => exact .bind hsource fun _ _ => .ok _
  | compiledCache source =>
    refine .bind (Handle.avoids_readCache (fun _ he => he.1.not_isOfContent) (hopen _ x.path)
      source ?_) fun _ _ => .ok _
    rintro s rfl header origin e he ⟨hs, hnot⟩
    obtain ⟨m, hm, hne, rfl⟩ := x.directory.of_ensureFresh_isStale he hs
    exact hnot ⟨m, s, origin, header.sourceMtime, rfl, hm, hne, rfl⟩
  | cacheThenSource cache =>
    rw [Artifact.read]
    split
    · exact .ok _
    · next e _ =>
      split
      · exact .bind hsource fun _ _ => .ok _
      · next hnot =>
        refine .error fun he => ?_
        cases e with
        | staleCache _ _ _ => exact hnot rfl
        | _ => exact he.1
  | nativeLibrary => exact .error fun he => he.1

end Artifacts

/-! ## Where a cache is found -/

/-- No suffix ends in another that is listed before it. -/
def SuffixRules.IsUnambiguous (suffixes : List String) : Prop :=
  ∀ s ∈ suffixes, firstEnd? suffixes s = some s

/-- Whether suffixes are unambiguous is decided by going through them. -/
instance (suffixes : List String) : Decidable (SuffixRules.IsUnambiguous suffixes) :=
  inferInstanceAs (Decidable (∀ s ∈ suffixes, _ = some s))

example : SuffixRules.IsUnambiguous [".v2.cache", ".cache"] ∧
    ¬ SuffixRules.IsUnambiguous [".cache", ".v2.cache"] := by decide

section Found

variable {rules : SuffixRules} {t : Tree} {h : Handle} {tail name path : String} {p : Probe}

/-- There is no file at the paths that are looked for before the first file. -/
lemma isFile_of_firstFile_append {ps qs : List Probe}
    (hf : firstFile h t (ps ++ qs) = .ok (some p)) (hp : p ∉ ps) :
    ∀ q ∈ ps, h.isFile t q.path = .ok false := by
  induction ps with
  | nil => exact nofun
  | cons q ps ih =>
    obtain ⟨hq, hps⟩ := not_or.1 (List.mem_cons.not.1 hp)
    obtain ⟨there, hthere, hf⟩ := Outcome.bind_eq_ok.1 hf
    cases there with
    | true => exact absurd (Option.some.inj (Except.ok.inj hf)).symm hq
    | false => exact List.forall_mem_cons.2 ⟨hthere, ih hf hps⟩

/-- Where a cache is the first file, all sources were looked for. -/
lemma isFile_source_of_firstFile {hasDirectory inside : Bool} {suffix : String}
    (hf : firstFile h t (probes rules tail hasDirectory) = .ok (some p))
    (hkind : p.kind = .compiledCache) (hinside : inside = true → hasDirectory = true)
    (hsuffix : suffix ∈ rules.source) :
    h.isFile t (rules.probe tail (.source, suffix) inside).path = .ok false := by
  rw [probes, SuffixRules.candidates, List.flatMap_append] at hf
  refine isFile_of_firstFile_append hf (fun hp => ?_) _
    (List.mem_flatMap.2 ⟨(.source, suffix), by simp [hsuffix], ?_⟩)
  · obtain ⟨c, hc, hp⟩ := List.mem_flatMap.1 hp
    have hother : p.kind = c.1 := by
      rcases List.mem_cons.1 hp with rfl | hp
      · rfl
      · split at hp
        · obtain rfl := List.mem_singleton.1 hp
          rfl
        · cases hp
    rw [hkind] at hother
    simp only [List.mem_append, List.mem_map] at hc
    rcases hc with ⟨s, -, rfl⟩ | ⟨s, -, rfl⟩ <;> cases hother
  · cases inside with
    | false => exact List.mem_cons_self ..
    | true =>
      rw [hinside rfl]
      exact List.mem_cons_of_mem _ (List.mem_singleton_self _)

/-- What is no file is a directory, if it is there. -/
lemma Handle.isDirectory_of_isFile_false {m : Metadata} (hf : h.isFile t path = .ok false)
    (hm : h.stat t path = .ok m) : m.isDirectory = true := by
  have hfile : h.isFile t path = .ok m.isFile := by
    rw [Handle.isFile, Handle.stat?_eq_ok_some.2 hm]
    rfl
  rw [hfile] at hf
  rw [Metadata.isDirectory, Except.ok.inj hf]
  rfl

/-- An artifact that is loaded as a cache alone is a cache. -/
lemma Strategy.kind_of_compiledCache {kind : ArtifactKind} {source : Option String}
    (h : forArtifact rules kind path = .compiledCache source) : kind = .compiledCache := by
  cases kind with
  | nativeLibrary => cases h
  | source =>
    rw [forArtifact] at h
    split at h <;> cases h
  | compiledCache => rfl

/-- By checked rules there is a suffix of sources. -/
lemma SuffixRules.Checked.source_ne_nil (hc : rules.Checked) : rules.source ≠ [] := by
  obtain ⟨settings, hfine, rfl⟩ := hc.isFine
  simpa using (Bool.and_eq_true_iff.1 (hfine .source)).1

namespace RootFinder

variable {f : RootFinder} {x : Artifact} {strategy : Strategy} {source : String}
  {searchPath : Option (List String)}

/-- Only caches are loaded with a source in mind. -/
lemma kind_of_resolve {source : Option String}
    (hr : f.resolve t name searchPath = .ok (some (.artifact x (.compiledCache source)))) :
    x.kind = .compiledCache := by
  obtain ⟨-, h, hasDirectory, p, -, hbind⟩ := firstFile_of_resolve hr
  obtain ⟨rfl, hstrategy⟩ := Resolution.artifact.inj hbind
  exact Strategy.kind_of_compiledCache hstrategy

/-- A cache that was found is loaded with the path of a source in mind. If no cache suffix ends in
one that is listed before it, there is no file at that path. -/
theorem isFile_source (hc : f.rules.Checked)
    (hr : f.resolve t name searchPath = .ok (some (.artifact x strategy)))
    (hkind : x.kind = .compiledCache) :
    ∃ source, strategy = .compiledCache (some source) ∧
      (SuffixRules.IsUnambiguous f.rules.compiled →
        x.directory.isFile t source = .ok false) := by
  obtain ⟨htail, h, hasDirectory, p, hp, hbind⟩ := firstFile_of_resolve hr
  obtain ⟨c, hmem, inside, rfl, hinside⟩ := exists_of_mem_probes (mem_of_firstFile hp)
  obtain ⟨old, rest, hfirst, -, hrest⟩ :=
    SuffixRules.exists_firstEnd? (SuffixRules.mem_candidates.1 hmem)
  have hstrategy := SuffixRules.forArtifact_probe hc htail hmem hfirst hrest inside
  cases hbind
  obtain ⟨kind, suffix⟩ := c
  obtain rfl : kind = .compiledCache := hkind
  obtain ⟨new, later, hsource⟩ := List.exists_cons_of_ne_nil hc.source_ne_nil
  rw [SuffixRules.strategyWith, hsource] at hstrategy
  refine ⟨(f.rules.probe (short name) (.compiledCache, rest ++ new) inside).path, hstrategy,
    fun hu => ?_⟩
  -- All of the suffix is replaced, so that the path is one of those that were looked for before.
  have hself : SuffixRules.firstEnd? f.rules.compiled suffix = some suffix :=
    hu suffix (SuffixRules.mem_candidates.1 hmem)
  obtain rfl : suffix = old := Option.some.inj (hself.symm.trans hfirst)
  have hnothing : rest.toList = [] := by
    simpa [String.toList_append] using congrArg String.toList hrest
  obtain rfl : rest = "" := String.toList_injective hnothing
  rw [String.empty_append]
  exact isFile_source_of_firstFile hp rfl hinside (hsource ▸ List.mem_cons_self ..)

/-- An artifact that was found is taken for stale because of what is at the path of its source. This
is a directory, if no cache suffix ends in one that is listed before it. -/
def Mistrusts (f : RootFinder) (t : Tree) (x : Artifact) (strategy : Strategy) (e : LoadError) :
    Prop :=
  ∃ m, x.IsJudgedBy t strategy e m ∧
    (SuffixRules.IsUnambiguous f.rules.compiled → m.isDirectory = true)

/-- An artifact that was found is taken for stale only because of what is no file. -/
lemma avoids_read_of_resolve (hc : f.rules.Checked)
    (hr : f.resolve t name searchPath = .ok (some (.artifact x strategy))) :
    Avoids (fun e => e.IsStale ∧ ¬ f.Mistrusts t x strategy e) (x.read t strategy) := by
  refine .mono (x.avoids_read_isStale t strategy) fun e ⟨hs, hnot⟩ => ⟨hs, ?_⟩
  rintro ⟨m, source, origin, cached, rfl, hm, hne, he⟩
  refine hnot ⟨m, ⟨source, origin, cached, rfl, hm, hne, he⟩, fun hu => ?_⟩
  obtain ⟨source', hsource, hfile⟩ := isFile_source hc hr (kind_of_resolve hr)
  cases hsource
  exact Handle.isDirectory_of_isFile_false (hfile hu) hm

end RootFinder

end Found

/-! ## Loading a cache that was found -/

section Loading

variable {a : Ambient} {f : RootFinder} {x : Artifact} {strategy : Strategy} {name source : String}
  {searchPath : Option (List String)} {l : Loader} {e : LoadError}

/-- Without anything at the path of its source, a cache is read by itself. -/
lemma Handle.readCache_of_absent {h : Handle} {t : Tree} {path : String}
    (hs : h.stat t source = .error e) (habsent : e.isNotFound = true) :
    h.readCache t path (some source) = h.readCache t path none := by
  have hfresh (header : CacheHeader) (origin : String) :
      h.ensureFresh t source header origin = .ok () := by
    rw [ensureFresh, hs]
    exact if_pos habsent
  rw [readCache, readCache]
  simp only [hfresh]
  rfl

/-- An artifact that a finder of a chain found is taken for stale, although no source was found. -/
def ChainMistrusts (a : Ambient) (c : List Finder) (e : LoadError) : Prop :=
  ∃ g ∈ c, ∃ r, g.HasRoot a r ∧ ∃ name searchPath x strategy,
    r.resolve a.tree name searchPath = .ok (some (.artifact x strategy)) ∧
    r.Mistrusts a.tree x strategy e

/-- Imports take for stale only what finders of the chain found although no source was found. -/
lemma findsSparing_isStale {c : List Finder}
    (hchain : ∀ g ∈ c, ∀ r, g.HasRoot a r → r.rules.Checked) :
    FindsSparing (fun e => e.IsStale ∧ ¬ ChainMistrusts a c e) a c where
  find name searchPath :=
    .mono (isForeign_isStale.avoids_findInChain name searchPath c) fun _ he => he.1
  read := by
    intro name searchPath x strategy hx
    obtain ⟨g, hg, r, hroot, hr⟩ := resolve_of_find (l := { chain := c }) hx
    refine .mono (r.avoids_read_of_resolve (hchain g hg r hroot) hr) fun e ⟨hs, hnot⟩ => ⟨hs, ?_⟩
    exact fun hm => hnot ⟨g, hg, r, hroot, name, searchPath, x, strategy, hr, hm⟩
  link _ := .mono (isForeign_isStale.avoids_link _ _) fun _ he => he.1

/-- A tree with caches of a program that imports `n`, and of `n`, and without their sources. -/
def Tree.sourceless : Tree :=
  ⟨[.directory 0 (.ofList [("m.cache", 1), ("n.cache", 2)]) 0,
    .file (.bytes (Program.toCache ⟨[.importUnit "n" none]⟩ 7)) 0,
    .file (.bytes (Program.toCache ⟨[]⟩ 8)) 0]⟩

/-- A tree with a cache and a directory that is named as the source of the cache. -/
def Tree.besideDirectory : Tree :=
  ⟨[.directory 0 (.ofList [("m.cache", 1), ("m.src", 2)]) 0,
    .file (.bytes (Program.toCache ⟨[]⟩ 7)) 0, .directory 0 .empty 9]⟩

namespace RootFinder

/-- **How a cache that was found is loaded.** There is no file at the path of its source, as far as
that is where its source would have been looked for: no cache suffix ends in one that is listed
before it. Without anything there, the cache is loaded by itself. And if the load fails because a
cache is stale, this cache or one that was imported meanwhile, then a finder found that cache, and
there is something of another time at the path of its source, which is a directory as far as no
cache suffix ends in one that is listed before it.

**Proof sketch.** Of the files for a unit, a finder looks for all sources before it looks for a
cache, so that a question about the path of the source was answered before. Only reading an artifact
gives errors of stale caches, and each artifact that is read was found. -/
theorem loadArtifact_of_resolve (hc : f.rules.Checked)
    (hr : f.resolve a.tree name searchPath = .ok (some (.artifact x strategy)))
    (hkind : x.kind = .compiledCache)
    (hchain : ∀ g ∈ l.chain, ∀ r, g.HasRoot a r → r.rules.Checked) :
    ∃ source, strategy = .compiledCache (some source) ∧
      (SuffixRules.IsUnambiguous f.rules.compiled →
        x.directory.isFile a.tree source = .ok false) ∧
      (∀ e, x.directory.stat a.tree source = .error e → e.isNotFound = true →
        exec (loadArtifact a x strategy) l =
          exec (loadArtifact a x (.compiledCache none)) l) ∧
      ∀ e l', exec (loadArtifact a x strategy) l = (.error e, l') → e.IsStale →
        f.Mistrusts a.tree x strategy e ∨ ChainMistrusts a l.chain e := by
  obtain ⟨source, rfl, hfile⟩ := isFile_source hc hr hkind
  refine ⟨source, rfl, hfile, fun e he habsent => ?_, fun e l' h hs => ?_⟩
  · have hload (i : Importer) : x.load a.tree i (.compiledCache (some source)) =
        x.load a.tree i (.compiledCache none) := by
      simp only [Artifact.load, Artifact.loadCache, Handle.readCache_of_absent he habsent]
    simp only [loadArtifact, hload]
  · have hspares := spares_loadArtifact
      (P := fun e => e.IsStale ∧
        ¬ (f.Mistrusts a.tree x (.compiledCache (some source)) e ∨ ChainMistrusts a l.chain e))
      (fun _ he => he.1.not_isOfRun)
      ((findsSparing_isStale hchain).mono fun _ he => ⟨he.1, fun hm => he.2 (.inr hm)⟩)
      (.mono (f.avoids_read_of_resolve hc hr) fun _ he => ⟨he.1, fun hm => he.2 (.inl hm)⟩)
      (.mono (isForeign_isStale.avoids_link x a.tree) fun _ he => he.1) l rfl
    by_contra hnot
    exact hspares.1 e (by rw [h]) ⟨hs, hnot⟩

/-- A cache of a program that imports `n` and a cache of `n` are loaded by themselves. -/
theorem loadArtifact_of_resolve_sourceless :
    let a : Ambient := ⟨.sourceless, Tree.root⟩
    let f : RootFinder := { root := ⟨[], some Tree.root, none⟩, rules := {} }
    let x : Artifact := ⟨"m", f.root, "m.cache", .compiledCache, none⟩
    let l : Loader := { chain := [.root f] }
    f.rules.Checked ∧ (∀ g ∈ l.chain, ∀ r, g.HasRoot a r → r.rules.Checked) ∧
      f.resolve a.tree "m" none = .ok (some (.artifact x (.compiledCache (some "m.src")))) ∧
      f.root.isFile a.tree "m.src" = .ok false ∧
      (exec (loadArtifact a x (.compiledCache (some "m.src"))) l).1.toOption = some 0 ∧
      exec (loadArtifact a x (.compiledCache (some "m.src"))) l =
        exec (loadArtifact a x (.compiledCache none)) l := by
  intro a f x l
  have hc : f.rules.Checked := ⟨{}, by decide, rfl⟩
  have hchain : ∀ g ∈ l.chain, ∀ r, g.HasRoot a r → r.rules.Checked := by
    intro g hg r hr
    obtain rfl := List.mem_singleton.1 hg
    cases hr
    exact hc
  have hr : f.resolve a.tree "m" none =
      .ok (some (.artifact x (.compiledCache (some "m.src")))) := by decide +kernel
  obtain ⟨source, hsource, hfile, halone, -⟩ := loadArtifact_of_resolve hc hr rfl hchain
  cases hsource
  refine ⟨hc, hchain, hr, hfile (by decide), by decide +kernel, ?_⟩
  exact halone (.io (.os .noEntry)) (by decide +kernel) rfl

/-- A directory that is named as the source of a cache makes it stale. -/
theorem loadArtifact_stale_directory :
    let a : Ambient := ⟨.besideDirectory, Tree.root⟩
    let f : RootFinder := { root := ⟨[], some Tree.root, none⟩, rules := {} }
    let x : Artifact := ⟨"m", f.root, "m.cache", .compiledCache, none⟩
    let l : Loader := { chain := [.root f] }
    f.rules.Checked ∧
      f.resolve a.tree "m" none = .ok (some (.artifact x (.compiledCache (some "m.src")))) ∧
      f.root.isFile a.tree "m.src" = .ok false ∧
      (exec (loadArtifact a x (.compiledCache (some "m.src"))) l).1 =
        .error (.staleCache "/m.cache" 7 9) :=
  ⟨⟨{}, by decide, rfl⟩, by decide +kernel, by decide +kernel, by decide +kernel⟩

end RootFinder

end Loading

end UnitLoader
