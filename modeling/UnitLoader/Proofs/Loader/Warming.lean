import UnitLoader.Proofs.Loader.Isolation
import UnitLoader.Proofs.Warm

/-!
# Imports do not see a stored cache

The cache of a source is stored beside it, where there was nothing. Then imports give what they gave
before: where the source was run, the cache is, and that is the same program; or it cannot be
decoded, and the source is run again. Only the kind of the unit tells. The links of the tree must
lead where they led, and what a path to a source leads to must be as old as it was.

## Main definitions

* `UnitLoader.LoadedUnit.Warmed` — a unit, and what it is if it was loaded from the stored cache.
* `UnitLoader.Handle.CachePlace` — where the cache of a source is stored.

## Main results

* `UnitLoader.importAll_add_cache` — imports give the same with a stored cache and without.
-/

set_option relaxedAutoImplicit false
set_option autoImplicit false

namespace UnitLoader

open LoadM (Sim)
open LoadedUnit (IsCongruence)
open UnitLoader.Path (IsName absoluteText)

variable {t u : Tree} {fs : List RootFinder} {f : RootFinder} {x : Artifact} {h : Handle}
  {source dir : NodeId} {p : Program} {time : Int} {before : List String}
  {path stem suffix cached name : String} {c d : List Finder} {i j : Importer}

/-! ## Units from the stored cache -/

/-- A unit, and what it is if it was loaded from the cache of a source instead of the source: the
same but for the kind. Its origin is the path by which a finder reaches the source. -/
def LoadedUnit.Warmed (t : Tree) (fs : List RootFinder) (source : NodeId) (v w : LoadedUnit) :
    Prop :=
  w = v ∨ v.kind = some .source ∧ w = { v with kind := some .compiledCache } ∧
    ∃ f ∈ fs, ∃ h way, f.LooksThrough t h ∧ h.reach t way = .ok source ∧
      v.origin = some (absoluteText (h.name ++ way))

/-- Programs do not see the kinds of units. -/
lemma LoadedUnit.isCongruence_warmed : IsCongruence (Warmed t fs source) where
  refl _ := .inl rfl
  name h := by rcases h with rfl | ⟨-, rfl, -⟩ <;> rfl
  attributes h := by rcases h with rfl | ⟨-, rfl, -⟩ <;> rfl
  isContainer h := by rcases h with rfl | ⟨-, rfl, -⟩ <;> rfl
  locations h := by rcases h with rfl | ⟨-, rfl, -⟩ <;> rfl
  setAttribute h key value := by
    rcases h with rfl | ⟨hkind, rfl, hreach⟩
    · exact .inl rfl
    · exact .inr ⟨hkind, rfl, hreach⟩
  bindMetadata h origin kind locations := by
    rcases h with rfl | ⟨-, rfl, -⟩
    · exact .inl rfl
    · cases locations <;> exact .inl rfl

/-- A unit that is told to be from the source, and one that is told to be from the cache. -/
lemma LoadedUnit.Warmed.bindMetadata {v w : LoadedUnit} (h : Warmed t fs source v w) {g : Handle}
    {way : List String} (hf : f ∈ fs) (hg : f.LooksThrough t g) (hreach : g.reach t way = .ok source)
    (locations : Option (List String)) :
    Warmed t fs source
      (v.bindMetadata (some (absoluteText (g.name ++ way))) (some .source) locations)
      (w.bindMetadata (some (absoluteText (g.name ++ way))) (some .compiledCache) locations) := by
  have hkind : (v.bindMetadata (some (absoluteText (g.name ++ way))) (some .source)
      locations).kind = some .source := by
    cases locations <;> rfl
  have horigin : (v.bindMetadata (some (absoluteText (g.name ++ way))) (some .source)
      locations).origin = some (absoluteText (g.name ++ way)) := by
    cases locations <;> rfl
  refine .inr ⟨hkind, ?_, f, hf, g, way, hg, hreach, horigin⟩
  rcases h with rfl | ⟨-, rfl, -⟩ <;> cases locations <;> rfl

/-! ## Paths of the other form -/

/-- By the default rules a cache has the path of its source, with the suffix of caches. -/
lemma SuffixRules.cacheForSource?_default (path : String) :
    ({} : SuffixRules).cacheForSource? path = replaceSuffix? path ".src" ".cache" := by
  simp only [cacheForSource?, List.head?_cons, Option.bind_eq_bind, Option.bind_some,
    List.findSome?_cons, List.findSome?_nil]
  cases replaceSuffix? path ".src" ".cache" <;> rfl

/-- By the default rules a source has the path of its cache, with the suffix of sources. -/
lemma SuffixRules.sourceForCache?_default (path : String) :
    ({} : SuffixRules).sourceForCache? path = replaceSuffix? path ".cache" ".src" := by
  simp only [sourceForCache?, List.head?_cons, Option.bind_eq_bind, Option.bind_some,
    List.findSome?_cons, List.findSome?_nil]
  cases replaceSuffix? path ".cache" ".src" <;> rfl

/-- The other form of what was found has the same way but for the suffix. -/
lemma RootFinder.Found.relative_replaceSuffix? (hx : f.Found t x before stem suffix) {new : String}
    (hpath : replaceSuffix? x.path suffix new = some path) (hslash : '/' ∉ new.toList)
    (hlong : 2 < new.length) :
    x.directory.relative path = .ok (before ++ [stem ++ new]) := by
  obtain ⟨before', stem', hway, hr⟩ :=
    Handle.relative_replaceSuffix? hx.relative_eq (by simp) hpath hslash hlong
  obtain ⟨rfl, hlast⟩ := List.append_inj' hway rfl
  obtain rfl : stem = stem' := by simpa using hlast
  exact hr

/-! ## Loading -/

namespace Tree.Warms

section

variable (hw : t.Warms u dir source cached p time)

include hw

/-- A source is loaded alike with and without the new cache. -/
lemma sim_loadSource (hx : f.Found t x before stem suffix)
    (hi : i.Sim (LoadedUnit.Warmed t fs source) c d j) :
    Sim (LoadedUnit.Warmed t fs source) c d (x.loadSource t i) (x.loadSource u j) := by
  rw [Artifact.loadSource, Artifact.loadSource, hw.readSource (hw.reachesAlike_of_isFile hx.isFile)]
  exact (LoadM.Sim.ofOutcome _).bind fun p =>
    sim_install LoadedUnit.isCongruence_warmed hi rfl
      (fun v w h => LoadedUnit.isCongruence_warmed.bindMetadata h _ _ _) p

/-- A cache that was there is loaded alike with and without the new one. -/
lemma sim_loadCache (hx : f.Found t x before stem ".cache")
    (hi : i.Sim (LoadedUnit.Warmed t fs source) c d j) :
    Sim (LoadedUnit.Warmed t fs source) c d
      (x.loadCache t i (({} : SuffixRules).sourceForCache? x.path))
      (x.loadCache u j (({} : SuffixRules).sourceForCache? x.path)) := by
  have hread : x.directory.readCache u x.path (({} : SuffixRules).sourceForCache? x.path) =
      x.directory.readCache t x.path (({} : SuffixRules).sourceForCache? x.path) := by
    refine hw.readCache (hw.reachesAlike_of_isFile hx.isFile).openArtifact fun s hs => ?_
    rw [SuffixRules.sourceForCache?_default] at hs
    exact hw.alike_stat_source hx.bare
      (hx.relative_replaceSuffix? hs (by decide) (by decide))
  rw [Artifact.loadCache, Artifact.loadCache, hread]
  exact (LoadM.Sim.ofOutcome _).bind fun p =>
    sim_install LoadedUnit.isCongruence_warmed hi rfl
      (fun v w h => LoadedUnit.isCongruence_warmed.bindMetadata h _ _ _) p

/-- The source or its cache is run. Where that is the cache that was stored, and it can be decoded,
the source was run without it; both are the same program. -/
lemma sim_loadCacheOrSource (hback : p.FloatsReadBack) (hf : f ∈ fs)
    (hx : f.Found t x before stem ".src") (hi : i.Sim (LoadedUnit.Warmed t fs source) c d j)
    {cache : String} (hcache : ({} : SuffixRules).cacheForSource? x.path = some cache) :
    Sim (LoadedUnit.Warmed t fs source) c d
      (x.loadCacheOrSource t i cache) (x.loadCacheOrSource u j cache) := by
  have hsource := hw.sim_loadSource hx hi
  rw [SuffixRules.cacheForSource?_default] at hcache
  have hrelative := hx.relative_replaceSuffix? hcache (by decide) (by decide)
  rw [Artifact.loadCacheOrSource, Artifact.loadCacheOrSource]
  rcases hw.readCache_cases hx.bare hx.bareStem hx.relative_eq hrelative hx.isFile with
    he | ⟨hreach, hread, ⟨e, herror, hrecoverable⟩, origin, hstored⟩
  · rw [he]
    cases x.directory.readCache t cache (some x.path) with
    | ok p =>
      exact sim_install LoadedUnit.isCongruence_warmed hi rfl
        (fun v w h => LoadedUnit.isCongruence_warmed.bindMetadata h _ _ _) p
    | error e =>
      dsimp only
      split
      · exact hsource
      · exact .throw e
  · rw [herror, hstored, Program.ofCachedBody, Program.ofBody?_body_eq hback]
    dsimp only
    rw [if_pos hrecoverable]
    by_cases hstorable : p.IsStorable
    · -- The cache is decoded: without it, the same program was read from the source.
      rw [if_pos hstorable, Artifact.loadSource, hread]
      refine sim_install LoadedUnit.isCongruence_warmed hi rfl (fun v w h => ?_) p
      rw [hx.origin_eq]
      exact h.bindMetadata hf hx.through hreach x.locations
    · -- The cache is of no use, and the source is run in both trees.
      rw [if_neg hstorable]
      exact hsource

/-- What was found is loaded alike. -/
theorem sim_load (hback : p.FloatsReadBack) (hf : f ∈ fs) (hx : f.Found t x before stem suffix)
    (hi : i.Sim (LoadedUnit.Warmed t fs source) c d j) :
    Sim (LoadedUnit.Warmed t fs source) c d
      (x.load t i (.forArtifact {} x.kind x.path)) (x.load u j (.forArtifact {} x.kind x.path)) := by
  rw [Artifact.load.eq_def, Artifact.load.eq_def]
  refine (LoadM.Sim.registered? x.name).bind fun registered => ?_
  cases registered with
  | some id => exact .pure id
  | none =>
    have hkind := hx.kind
    rw [Strategy.forArtifact.eq_def]
    cases hk : x.kind with
    | nativeLibrary =>
      exact sim_loadNative LoadedUnit.isCongruence_warmed rfl rfl rfl
        (hw.link (hw.reachesAlike_of_isFile hx.isFile))
    | compiledCache =>
      obtain rfl : suffix = ".cache" := by simpa [hk, SuffixRules.candidates] using hkind
      exact hw.sim_loadCache hx hi
    | source =>
      obtain rfl : suffix = ".src" := by simpa [hk, SuffixRules.candidates] using hkind
      cases hcache : ({} : SuffixRules).cacheForSource? x.path with
      | none =>
        dsimp only
        exact hw.sim_loadSource hx hi
      | some cache =>
        dsimp only
        exact hw.sim_loadCacheOrSource hback hf hx hi hcache

/-- A chain finds the same with and without the new cache, by the default rules. -/
lemma findInChain (hrules : ∀ f ∈ fs, f.rules = {}) (working : NodeId) (name : String)
    (searchPath : Option (List String)) :
    UnitLoader.findInChain ⟨u, working⟩ name searchPath (fs.map .root) =
      UnitLoader.findInChain ⟨t, working⟩ name searchPath (fs.map .root) := by
  induction fs with
  | nil => rfl
  | cons f fs ih =>
    simp only [List.map_cons, UnitLoader.findInChain, Finder.find,
      hw.resolve (hrules f (List.mem_cons_self ..)),
      ih fun g hg => hrules g (List.mem_cons_of_mem f hg)]

/-- Finders with the default rules find artifacts that are loaded alike. -/
theorem findsAlike (hback : p.FloatsReadBack) (hfs : ∀ f ∈ fs, f.rules = {} ∧ f.root.Opened)
    (working : NodeId) :
    FindsAlike (LoadedUnit.Warmed t fs source) ⟨t, working⟩ ⟨u, working⟩ (fs.map .root)
      (fs.map .root) := by
  intro name searchPath
  rw [hw.findInChain fun f hf => (hfs f hf).1]
  cases hfound : UnitLoader.findInChain ⟨t, working⟩ name searchPath (fs.map .root) with
  | error e => exact .error e
  | ok r? =>
    refine .ok ?_
    cases r? with
    | none => exact .none
    | some r =>
      refine .some ?_
      cases r with
      | portions name locations => exact .portions name locations
      | artifact x strategy =>
        obtain ⟨_, hmem, f, hroot, hr⟩ :=
          resolve_of_find (l := { chain := fs.map .root }) (a := ⟨t, working⟩) hfound
        obtain ⟨_, hf, rfl⟩ := List.mem_map.1 hmem
        cases hroot
        obtain ⟨rfl, before, stem, suffix, hx⟩ :=
          RootFinder.found_of_resolve (hfs f hf).1 (hfs f hf).2 hr
        exact .artifact fun i j hi => hw.sim_load hback hf hx hi

end

end Tree.Warms

/-! ## Storing a cache -/

/-- A path names a source, a file itself and no link; and its cache has a place: a name in the same
directory, under which there is nothing. -/
structure Handle.CachePlace (h : Handle) (t : Tree) (path : String) (source dir : NodeId)
    (name : String) : Prop where
  way : ∃ cache before sourceName, ({} : SuffixRules).cacheForSource? path = some cache ∧
    h.relative path = .ok (before ++ [sourceName]) ∧ h.relative cache = .ok (before ++ [name]) ∧
    h.reach t before = .ok dir ∧ t.step dir sourceName = .ok source
  file : ∃ content since, t.node? source = some (.file content since)
  free : t.step dir name = .error .noEntry

namespace Handle

/-- A tree with the cache of a source in its place is warmed by it. -/
theorem CachePlace.warms {bytes : Bytes} (hp : h.CachePlace t path source dir name)
    (hc : h.compileSource t path = .ok bytes) (hclosed : t.IsClosed)
    (hu : u = t.add dir name (.file (.bytes bytes) time)) (hlinks : t.SameLinks u)
    (htimes : t.SameSourceTimes u) :
    ∃ stem p, h.readSource t path = .ok p ∧ t.Warms u dir source stem p time := by
  obtain ⟨way, id, content, since, p, -, hway, hid, hnode, -, hread, hprogram, rfl⟩ :=
    of_compileSource hc
  obtain ⟨cache, before, sourceName, hreplace, hsource, hcache, hdir, hstep⟩ := hp.way
  obtain rfl := Except.ok.inj (hway.symm.trans hsource)
  rw [SuffixRules.cacheForSource?_default] at hreplace
  obtain ⟨before', stem, hconcat, hcache'⟩ :=
    relative_replaceSuffix? hsource (by simp) hreplace (by decide) (by decide)
  obtain ⟨rfl, hlast⟩ := List.append_inj' hconcat rfl
  obtain rfl : sourceName = stem ++ ".src" := by simpa using hlast
  obtain rfl : name = stem ++ ".cache" := by
    have hnames := Except.ok.inj (hcache.symm.trans hcache')
    simpa using hnames
  have hnames := isName_of_relative hsource
  obtain ⟨i, hi, hdirResolve⟩ := of_reach hdir
  obtain ⟨i', hi', hresolve⟩ := of_reach hid
  obtain rfl := Except.ok.inj (hi.symm.trans hi')
  obtain ⟨_, _, hfile⟩ := hp.file
  have hwalk := Tree.walk_of_resolve (fun s hs => hnames s (by simp [hs])) hdirResolve
  have hwalkSource := Tree.walk_concat_of_step hwalk hstep (by simp [hfile])
  obtain rfl := Except.ok.inj (hwalkSource.symm.trans (Tree.walk_of_resolve hnames hresolve))
  exact ⟨stem, p, hread, hclosed, ⟨hp.free, hu⟩, hlinks, htimes, hstep, content, since, hnode,
    hprogram⟩

end Handle

/-! ## Opening finders -/

/-- A root finder that is opened has an opened root and the rules it was opened by. -/
lemma RootFinder.opened_of_openRoot {a : Ambient} {rules : SuffixRules}
    (ho : openRoot a path rules [] = .ok f) : f.rules = rules ∧ f.root.Opened := by
  obtain ⟨g, root, hg, hlimits, rfl⟩ := of_openRoot ho
  obtain rfl := Except.ok.inj hlimits
  exact ⟨rfl, .root hg⟩

namespace Tree.Gains

variable {content : Content}

/-- An absolute path is the same after the file was added. -/
lemma absolute (hg : t.Gains u dir name content time) {working : NodeId} {names : List String}
    (ha : Ambient.absolute ⟨t, working⟩ path = .ok names) :
    Ambient.absolute ⟨u, working⟩ path = .ok names := by
  rw [Ambient.absolute] at ha ⊢
  split at ha
  · next habsolute =>
    rw [if_pos habsolute]
    exact ha
  · next hrelative =>
    rw [if_neg hrelative]
    split at ha
    · next place hplace =>
      simp only [hg.placeOf? hplace]
      exact ha
    · cases ha

/-- A directory that could be opened is opened as the same after the file was added. -/
lemma openDirectory (hg : t.Gains u dir name content time) {working id : NodeId}
    (ho : Ambient.openDirectory ⟨t, working⟩ path = .ok id) :
    Ambient.openDirectory ⟨u, working⟩ path = .ok id := by
  have hresolve (i : NodeId) (hi : Ambient.resolve ⟨t, working⟩ path = .ok i) :
      Ambient.resolve ⟨u, working⟩ path = .ok i := by
    rw [Ambient.resolve] at hi ⊢
    split_ifs at hi ⊢
    cases ht : t.resolve working path with
    | error e =>
      rw [ht] at hi
      cases hi
    | ok i' =>
      rw [ht] at hi
      rw [hg.resolve_of_eq_ok ht]
      exact hi
  rw [Ambient.openDirectory] at ho ⊢
  cases hi : Ambient.resolve ⟨t, working⟩ path with
  | error e =>
    rw [hi] at ho
    cases ho
  | ok i =>
    rw [hi] at ho
    rw [hresolve i hi]
    simp only [bind, Except.bind, hg.isDirectory] at ho ⊢
    exact ho

/-- A finder on a directory can still be opened, and is the same. -/
theorem openRoot (hg : t.Gains u dir name content time) {working : NodeId} {rules : SuffixRules}
    {limits : List Rights} (ho : RootFinder.openRoot ⟨t, working⟩ path rules limits = .ok f) :
    RootFinder.openRoot ⟨u, working⟩ path rules limits = .ok f := by
  obtain ⟨g, root, hroot, hlimits, rfl⟩ := RootFinder.of_openRoot ho
  obtain ⟨names, id, hnames, hid, rfl⟩ := Handle.of_openRoot hroot
  have hopened : Handle.openRoot ⟨u, working⟩ path = .ok ⟨names, some id, none⟩ := by
    rw [Handle.openRoot, hg.absolute hnames, hg.openDirectory hid]
    rfl
  rw [RootFinder.openRoot, hopened]
  simp only [bind, Except.bind]
  rw [hlimits]
  rfl

end Tree.Gains

/-! ## Imports one after the other -/

/-- Imports give the same whether the cache of a source is stored beside it or not. The results are
the same, and so are the loaders that are left, but for the kind of the units of that source. The
links of the tree have to lead where they led, and what a path to a source leads to has to be as old
as it was.

**Proof sketch.** Whatever is looked up is found alike, since the source is looked for before its
cache. Where it is loaded, its cache is fresh. The cache holds the program of the source if that can
be decoded at all; otherwise the source is run. So both computations do the same up to the kinds of
units, which no program sees, by induction on the nesting of imports. -/
theorem importAll_add_cache (a : Ambient) (h : Handle) (path name : String) (source dir : NodeId)
    (bytes : Bytes) (time : Int) (hplace : h.CachePlace a.tree path source dir name)
    (hcompile : h.compileSource a.tree path = .ok bytes)
    (hback : ∀ p, h.readSource a.tree path = .ok p → p.FloatsReadBack) (hclosed : a.tree.IsClosed)
    (hlinks : a.tree.SameLinks (a.tree.add dir name (.file (.bytes bytes) time)))
    (htimes : a.tree.SameSourceTimes (a.tree.add dir name (.file (.bytes bytes) time)))
    (roots : List String) (fs : List RootFinder)
    (hopen : roots.Forall₂ (fun root f => RootFinder.openRoot a root {} [] = .ok f) fs)
    (l : Loader) (hl : l.chain = fs.map .root) (names : List String) :
    let b : Ambient := { a with tree := a.tree.add dir name (.file (.bytes bytes) time) }
    roots.Forall₂ (fun root f => RootFinder.openRoot b root {} [] = .ok f) fs ∧
      (l.importAll b names).1 = (l.importAll a names).1 ∧
      (l.importAll a names).2.Related (LoadedUnit.Warmed a.tree fs source) l.chain l.chain
        (l.importAll b names).2 := by
  intro b
  obtain ⟨stem, p, hread, hw⟩ := hplace.warms hcompile hclosed rfl hlinks htimes
  have hfs : ∀ f ∈ fs, f.rules = {} ∧ f.root.Opened := fun f hf => by
    obtain ⟨i, hi, rfl⟩ := List.mem_iff_getElem.1 hf
    exact RootFinder.opened_of_openRoot (hopen.get (hopen.length_eq.symm ▸ hi) hi)
  have hrelated : l.Related (LoadedUnit.Warmed a.tree fs source) l.chain l.chain l :=
    .refl LoadedUnit.isCongruence_warmed l
  have hfinds := hw.findsAlike (hback p hread) hfs a.working
  rw [← hl] at hfinds
  exact ⟨hopen.imp fun _ _ ho => hw.gains.openRoot ho,
    Loader.importAll_related LoadedUnit.isCongruence_warmed hfinds hrelated names⟩

/-- A result that is there is the one that is taken out of it. -/
lemma Outcome.eq_ok_getD {α : Type} {r : Outcome α} (h : r.toOption.isSome) (v : α) :
    r = .ok (r.toOption.getD v) := by
  cases r with
  | error e => cases h
  | ok v => rfl

/-- What is decided of a result holds of the value that it gives. -/
lemma Outcome.forall_of_all {α : Type} {r : Outcome α} {P : α → Prop} [DecidablePred P]
    (h : r.toOption.all (decide <| P ·)) (v : α) (hv : r = .ok v) : P v := by
  rw [hv] at h
  exact of_decide_eq_true h

/-- A source that imports a container, and the container. -/
def Tree.importing : Tree :=
  ⟨[.directory 0 (.ofList [("m.src", 1), ("p", 2)]) 0,
    .file (.bytes (Text.Utf8.encode "import p".toList)) 7,
    .directory 0 (.ofList [("__init__.src", 3)]) 0,
    .file (.bytes (Text.Utf8.encode "x = 1".toList)) 0]⟩

/-- With its cache stored, a source that imports a container is loaded from there, and the results
are the same. -/
theorem importAll_add_cache_importing :
    let t : Tree := .importing
    let a : Ambient := ⟨t, Tree.root⟩
    let h : Handle := ⟨[], some Tree.root, none⟩
    let f : RootFinder := { root := h, rules := {} }
    let l : Loader := { chain := [.root f] }
    let bytes := (h.compileSource t "m.src").toOption.getD []
    let b : Ambient := { a with tree := t.add 0 "m.cache" (.file (.bytes bytes) 0) }
    h.CachePlace t "m.src" 1 0 "m.cache" ∧ h.compileSource t "m.src" = .ok bytes ∧ t.IsClosed ∧
      t.SameLinks b.tree ∧ t.SameSourceTimes b.tree ∧
      (l.importAll a ["m"]).1.map Except.toOption = [some 0] ∧
      ((l.importAll b ["m"]).2.registry.unit 0).kind = some .compiledCache ∧
      (l.importAll b ["m"]).1 = (l.importAll a ["m"]).1 ∧
      (l.importAll a ["m"]).2.Related (LoadedUnit.Warmed t [f] 1) l.chain l.chain
        (l.importAll b ["m"]).2 := by
  intro t a h f l bytes b
  have hplace : h.CachePlace t "m.src" 1 0 "m.cache" :=
    ⟨⟨"m.cache", [], "m.src", by decide +kernel, by rfl, by rfl, by rfl, by rfl⟩,
      ⟨_, _, rfl⟩, by rfl⟩
  have hcompile : h.compileSource t "m.src" = .ok bytes :=
    Outcome.eq_ok_getD (by decide +kernel) []
  have hclosed : t.IsClosed := by decide +kernel
  have hlinkless : ∀ id target, t.node? id ≠ some (.link target) := fun id target hlink => by
    simpa [t, Tree.importing] using List.mem_of_getElem? hlink
  have hlinks : t.SameLinks b.tree := fun _ _ id target _ hlink => absurd hlink (hlinkless id target)
  have htimes : t.SameSourceTimes b.tree := by
    refine Tree.Gains.sameSourceTimes ⟨hplace.free, rfl⟩ hclosed hlinkless fun here stem hname hs => ?_
    have hroot : ∀ node ∈ t.nodes, 0 ∉ node.children := by decide +kernel
    obtain ⟨node, hnode, hmem⟩ := Tree.exists_mem_children_of_step hname hs
    exact hroot node hnode hmem
  have hback : ∀ p, h.readSource t "m.src" = .ok p → p.FloatsReadBack :=
    Outcome.forall_of_all (by decide +kernel)
  obtain ⟨-, hresults, hleft⟩ := importAll_add_cache a h "m.src" "m.cache" 1 0 bytes 0 hplace
    hcompile hback hclosed hlinks htimes ["/"] [f] (.cons (by rfl) .nil) l rfl ["m"]
  exact ⟨hplace, hcompile, hclosed, hlinks, htimes, by decide +kernel, by decide +kernel, hresults,
    hleft⟩

/-- A source, and a link that leads to the place of its cache. -/
def Tree.linkingCache : Tree :=
  ⟨[.directory 0 (.ofList [("m.src", 1), ("n.cache", 2)]) 0,
    .file (.bytes (Text.Utf8.encode "x = 1".toList)) 7, .link "m.cache"]⟩

/-- With a link that leads to the place of the cache, a stored cache is seen: the unit of the link's
name is missing without it and is loaded with it. -/
theorem importAll_add_cache_link :
    let t : Tree := .linkingCache
    let a : Ambient := ⟨t, Tree.root⟩
    let h : Handle := ⟨[], some Tree.root, none⟩
    let f : RootFinder := { root := h, rules := {} }
    let l : Loader := { chain := [.root f] }
    let bytes := (h.compileSource t "m.src").toOption.getD []
    let b : Ambient := { a with tree := t.add 0 "m.cache" (.file (.bytes bytes) 0) }
    h.CachePlace t "m.src" 1 0 "m.cache" ∧ h.compileSource t "m.src" = .ok bytes ∧
      (∀ p, h.readSource t "m.src" = .ok p → p.FloatsReadBack) ∧ t.IsClosed ∧
      RootFinder.openRoot a "/" {} [] = .ok f ∧
      (l.importAll a ["n"]).1.map Except.toOption = [none] ∧
      (l.importAll b ["n"]).1.map Except.toOption = [some 0] := by
  intro t a h f l bytes b
  have hplace : h.CachePlace t "m.src" 1 0 "m.cache" :=
    ⟨⟨"m.cache", [], "m.src", by decide +kernel, by rfl, by rfl, by rfl, by rfl⟩,
      ⟨_, _, rfl⟩, by rfl⟩
  exact ⟨hplace, Outcome.eq_ok_getD (by decide +kernel) [],
    Outcome.forall_of_all (by decide +kernel), by decide +kernel, by rfl, by decide +kernel,
    by decide +kernel⟩

/-- A source in a directory that is named as a source, beside a cache that is as old as that
directory. -/
def Tree.inSource : Tree :=
  ⟨[.directory 0 (.ofList [("x.src", 1), ("x.cache", 2)]) 0,
    .directory 0 (.ofList [("n.src", 3)]) 0, .file (.bytes (Program.toCache ⟨[]⟩ 0)) 0,
    .file (.bytes (Text.Utf8.encode "x = 1".toList)) 7]⟩

/-- In a directory that is named as a source, a stored cache is seen: the cache of that name is
loaded without it, and is stale with it. -/
theorem importAll_add_cache_inSource :
    let t : Tree := .inSource
    let a : Ambient := ⟨t, Tree.root⟩
    let h : Handle := ⟨["x.src"], some 1, none⟩
    let f : RootFinder := { root := ⟨[], some Tree.root, none⟩, rules := {} }
    let l : Loader := { chain := [.root f] }
    let bytes := (h.compileSource t "n.src").toOption.getD []
    let b : Ambient := { a with tree := t.add 1 "n.cache" (.file (.bytes bytes) 0) }
    h.CachePlace t "n.src" 3 1 "n.cache" ∧ h.compileSource t "n.src" = .ok bytes ∧
      (∀ p, h.readSource t "n.src" = .ok p → p.FloatsReadBack) ∧ t.IsClosed ∧
      RootFinder.openRoot a "/" {} [] = .ok f ∧
      (l.importAll a ["x"]).1.map Except.toOption = [some 0] ∧
      (l.importAll b ["x"]).1.map Except.toOption = [none] := by
  intro t a h f l bytes b
  have hplace : h.CachePlace t "n.src" 3 1 "n.cache" :=
    ⟨⟨"n.cache", [], "n.src", by decide +kernel, by rfl, by rfl, by rfl, by rfl⟩,
      ⟨_, _, rfl⟩, by rfl⟩
  exact ⟨hplace, Outcome.eq_ok_getD (by decide +kernel) [],
    Outcome.forall_of_all (by decide +kernel), by decide +kernel, by rfl, by decide +kernel,
    by decide +kernel⟩

end UnitLoader
