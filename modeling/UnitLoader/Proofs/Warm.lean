import UnitLoader.Proofs.Program.Cache
import UnitLoader.Proofs.Tree.Closed
import UnitLoader.Proofs.Tree.Gain
import UnitLoader.Proofs.Way

/-!
# Trees with a stored cache

The cache of a source is stored beside the source. Whatever is looked up finds the same: where the
cache could be found, the source is looked for first. So the cache is only met where it is tried
before the source, and there it holds the program of the source and its time.

## Main definitions

* `UnitLoader.Tree.Warms` — a tree is another one with the cache of a source beside it.

## Main results

* `UnitLoader.Tree.Warms.resolve` — the same is found.
-/

set_option relaxedAutoImplicit false
set_option autoImplicit false

namespace UnitLoader

open UnitLoader.Path (IsName relativeText)

variable {t u : Tree} {h : Handle} {path s stem tail : String} {way before : List String}

/-! ## The stored cache -/

namespace Tree

/-- Every name that ends in the suffix of sources leads to something of the same time. -/
def SameSourceTimes (t u : Tree) : Prop :=
  ∀ here stem id, IsName (stem ++ ".src") → t.walk maxLinks here [stem ++ ".src"] = .ok id →
    (u.metadata id).mtime = (t.metadata id).mtime

/-- In a closed tree without links, a new file changes the time of its directory only. -/
lemma Gains.sameSourceTimes {dir : NodeId} {name : String} {content : Content} {time : Int}
    (hg : t.Gains u dir name content time) (hclosed : t.IsClosed)
    (hlinkless : ∀ id target, t.node? id ≠ some (.link target))
    (hdir : ∀ here stem, IsName (stem ++ ".src") → t.step here (stem ++ ".src") ≠ .ok dir) :
    t.SameSourceTimes u := by
  intro here stem id hname hw
  rw [walk_cons] at hw
  rcases t.step_cases here (stem ++ ".src") with ⟨e, hs⟩ | ⟨i, target, -, hlink⟩ | ⟨i, hs, hlink⟩
  · rw [advance_of_error hs] at hw
    cases hw
  · exact absurd hlink (hlinkless i target)
  · rw [advance_of_ne_link hs hlink] at hw
    obtain rfl : i = id := by simpa [Except.bind] using hw
    have hne : i ≠ dir := fun he => hdir here stem hname (he ▸ hs)
    rw [metadata, metadata, hg.node?_eq hne (Nat.ne_of_lt (hclosed.lt_of_step hs))]

/-- A closed tree is another one with the cache of a source beside it, under a name that was free.
Nothing else leads elsewhere or is of another time. -/
structure Warms (t u : Tree) (dir source : NodeId) (stem : String) (p : Program) (time : Int) :
    Prop where
  closed : t.IsClosed
  gains : t.Gains u dir (stem ++ ".cache") (.bytes (p.toCache (t.metadata source).mtimeLow)) time
  links : t.SameLinks u
  times : t.SameSourceTimes u
  step : t.step dir (stem ++ ".src") = .ok source
  program : ∃ content since, t.node? source = some (.file content since) ∧
    ∀ origin, Program.ofSource origin content.read = .ok p

namespace Warms

variable {dir source id : NodeId} {cached : String} {p : Program} {time : Int}

/-- A bare name does not have the name of a cache: it has no dot. -/
lemma not_mem_of_bare (hbare : ∀ s ∈ way, Path.IsBare s) : cached ++ ".cache" ∉ way := fun hmem =>
  (hbare _ hmem).2 (by simp [String.toList_append])

/-- A file of another suffix does not have the name of a cache. -/
lemma not_mem_concat_of_bare {suffix : String} (hbefore : ∀ s ∈ before, Path.IsBare s)
    (hlong : 2 < suffix.length) (hlast : suffix.toList.getLast? ≠ some 'e') :
    cached ++ ".cache" ∉ before ++ [stem ++ suffix] := by
  have hsuffix : suffix.toList ≠ [] := fun hnil => by
    rw [String.toList_eq_nil_iff.1 hnil] at hlong
    exact absurd hlong (by decide)
  have hne : cached ++ ".cache" ≠ stem ++ suffix := fun he => by
    have hlist := congrArg (fun s => s.toList.getLast?) he
    simp only [String.toList_append, List.getLast?_append_of_ne_nil _ hsuffix] at hlist
    exact hlast (hlist.symm.trans (by simp))
  simpa [hne] using not_mem_of_bare hbefore

section

variable (hw : t.Warms u dir source cached p time)

include hw

/-! ### Reaching nodes -/

/-- A way on which the name of the cache does not occur leads to the same. -/
lemma reach_of_not_mem (hway : ∀ s ∈ way, IsName s) (hname : cached ++ ".cache" ∉ way) :
    h.reach u way = h.reach t way := by
  rw [Handle.reach_eq, Handle.reach_eq]
  split
  · rfl
  · exact bind_congr fun id => by rw [hw.gains.resolve_of_not_mem hw.links hway hname]

/-- What is reached in both trees is the same, or it is met through the name of the cache. -/
lemma reach_cases (hway : ∀ s ∈ way, IsName s) :
    h.reach u way = h.reach t way ∨
    h.reach t way = .error (.io (.os .noEntry)) ∧
      (h.reach u way = .ok t.nextId ∨ h.reach u way = .error (.io (.os .notDirectory))) := by
  rw [Handle.reach_eq, Handle.reach_eq]
  split
  · exact .inl rfl
  · cases h.descriptor with
    | error e => exact .inl (by simp only [bind, Except.bind])
    | ok i =>
      simp only [bind, Except.bind]
      rcases hw.gains.resolve_cases i hway with he | ⟨ht, hu | hu⟩
      · exact .inl (by rw [he])
      · exact .inr ⟨by rw [ht]; rfl, .inl (by rw [hu]; rfl)⟩
      · exact .inr ⟨by rw [ht]; rfl, .inr (by rw [hu]; rfl)⟩

/-- Where a way leads to the directory of the stored cache, the source is found there. -/
lemma resolve_source {here : NodeId} {left : Nat} (hway : ∀ s ∈ before ++ [cached ++ ".src"], IsName s)
    (hshort : (relativeText (before ++ [cached ++ ".cache"])).utf8ByteSize < maxPath)
    (hleft : ∀ s, t.walk maxLinks here (before ++ [s]) = t.walk left dir [s]) :
    t.resolve here (relativeText (before ++ [cached ++ ".src"])) = .ok source := by
  obtain ⟨content, since, hnode, -⟩ := hw.program
  have hlong : ¬ maxPath ≤ (relativeText (before ++ [cached ++ ".src"])).utf8ByteSize :=
    Nat.not_le.2 (Nat.lt_trans (Path.utf8ByteSize_source_lt before cached) hshort)
  rw [resolve_relativeText hway, if_neg hlong, if_neg (by simp), hleft, walk_cons,
    advance_of_ne_link hw.step (by simp [hnode])]
  exact walk_nil ..

/-- A path to a cache leads where it led. Or it leads to the cache that was stored; then the path
with the suffix of sources leads to the source. -/
lemma reach_cache (hbefore : ∀ s ∈ before, Path.IsBare s) (hstem : Path.IsBare stem) :
    h.reach u (before ++ [stem ++ ".cache"]) = h.reach t (before ++ [stem ++ ".cache"]) ∨
    stem = cached ∧ h.reach t (before ++ [stem ++ ".cache"]) = .error (.io (.os .noEntry)) ∧
      h.reach u (before ++ [stem ++ ".cache"]) = .ok t.nextId ∧
      h.reach t (before ++ [stem ++ ".src"]) = .ok source := by
  have hcache : IsName (stem ++ ".cache") :=
    Path.isName_append hstem.1.2 (by decide) (by decide)
  have hnul := Path.holdsNul_concat before stem (by decide : holdsNul ".src" = false)
    (by decide : holdsNul ".cache" = false)
  rw [Handle.reach_eq, Handle.reach_eq, Handle.reach_eq, hnul]
  by_cases hholds : holdsNul (relativeText (before ++ [stem ++ ".cache"]))
  · simp [hholds]
  rw [if_neg hholds, if_neg hholds, if_neg hholds]
  cases h.descriptor with
  | error e => exact .inl (by simp only [bind, Except.bind])
  | ok i =>
    simp only [bind, Except.bind]
    rcases hw.gains.resolve_concat i hw.links (fun n hn => (hbefore n hn).1) hcache
      (not_mem_of_bare hbefore) with he | ⟨hs, ht, hu, hshort, left, hleft⟩
    · exact .inl (by rw [he])
    · obtain rfl : stem = cached := by simpa using hs
      have hway := Path.isName_of_bare hbefore hstem (by decide : '/' ∉ ".src".toList) (by decide)
      exact .inr ⟨rfl, by rw [ht]; rfl, by rw [hu]; rfl,
        by rw [hw.resolve_source hway hshort hleft]; rfl⟩

/-- What is reached is a node of the tree. -/
lemma ne_nextId_of_reach (hway : ∀ s ∈ way, IsName s) (hid : h.reach t way = .ok id) :
    id ≠ t.nextId := by
  obtain ⟨i, -, hresolve⟩ := Handle.of_reach hid
  exact Nat.ne_of_lt (hw.closed.lt_of_resolve hway hresolve)

/-- The path of such a way leads to the same. -/
lemma reachesAlike_of_not_mem (hway : ∀ s ∈ way, IsName s) (hname : cached ++ ".cache" ∉ way) :
    h.ReachesAlike t u (relativeText way) := fun way' hway' => by
  rw [Handle.relative_relativeText hway] at hway'
  obtain rfl := Except.ok.inj hway'
  exact hw.reach_of_not_mem hway hname

/-- The path of a file that there was leads to the same. -/
lemma reachesAlike_of_isFile (hf : h.isFile t path = .ok true) : h.ReachesAlike t u path := by
  obtain ⟨way, id, hway, -, hid, -⟩ := Handle.of_isFile hf
  intro way' hway'
  rw [hway] at hway'
  obtain rfl := Except.ok.inj hway'
  refine (hw.reach_cases (Handle.isName_of_relative hway)).resolve_right fun hmissing => ?_
  rw [hid] at hmissing
  cases hmissing.1

/-- What a path leads to alike is a file in both trees or in neither. -/
lemma alike_stat (hr : h.ReachesAlike t u path) :
    Alike (fun m m' => m'.isFile = m.isFile) (h.stat t path) (h.stat u path) :=
  hr.stat fun _ _ hway hid =>
    hw.gains.isFile_metadata (hw.ne_nextId_of_reach (Handle.isName_of_relative hway) hid)

/-! ### Looking files up -/

/-- A file of another suffix is there if it was. -/
lemma isFile_of_suffix {suffix : String} (hbefore : ∀ s ∈ before, Path.IsBare s)
    (hstem : Path.IsBare stem) (hslash : '/' ∉ suffix.toList) (hlong : 2 < suffix.length)
    (hlast : suffix.toList.getLast? ≠ some 'e') :
    h.isFile u (relativeText (before ++ [stem ++ suffix])) =
      h.isFile t (relativeText (before ++ [stem ++ suffix])) := by
  have hway := Path.isName_of_bare hbefore hstem hslash hlong
  exact Handle.isFile_of_stat
    (hw.alike_stat (hw.reachesAlike_of_not_mem hway (not_mem_concat_of_bare hbefore hlong hlast)))

/-- Whether there is a cache is told alike, unless there is the source. -/
lemma isFile_cache (hbefore : ∀ s ∈ before, Path.IsBare s) (hstem : Path.IsBare stem) :
    h.isFile u (relativeText (before ++ [stem ++ ".cache"])) =
      h.isFile t (relativeText (before ++ [stem ++ ".cache"])) ∨
    h.isFile t (relativeText (before ++ [stem ++ ".src"])) = .ok true := by
  have hcache := Path.isName_of_bare hbefore hstem (by decide : '/' ∉ ".cache".toList) (by decide)
  have hsource := Path.isName_of_bare hbefore hstem (by decide : '/' ∉ ".src".toList) (by decide)
  rcases hw.reach_cache (h := h) hbefore hstem with he | ⟨-, -, -, hid⟩
  · refine .inl (Handle.isFile_of_stat (hw.alike_stat fun way hrelative => ?_))
    rw [Handle.relative_relativeText hcache] at hrelative
    obtain rfl := Except.ok.inj hrelative
    exact he
  · cases hrequire : h.require .fstat with
    | error e =>
      have hdenied (v : Tree) : h.stat v (relativeText (before ++ [stem ++ ".cache"])) = .error e := by
        rw [Handle.stat, Handle.relative_relativeText hcache]
        simp only [bind, Except.bind, hrequire]
      refine .inl (Handle.isFile_of_stat ?_)
      rw [hdenied, hdenied]
      exact .error e
    | ok granted =>
      obtain ⟨content, since, hnode, -⟩ := hw.program
      rw [Handle.isFile_relativeText hsource hrequire hid, metadata, hnode]
      exact .inr rfl

/-- The same file is found first in a directory: where the cache is looked for, the source was not
found before. -/
lemma firstFile (htail : Path.IsBare tail) (hasDirectory : Bool) :
    firstFile h u (probes {} tail hasDirectory) = firstFile h t (probes {} tail hasDirectory) := by
  have hflat : ∀ s ∈ ([] : List String), Path.IsBare s := by simp
  have hinside : ∀ s ∈ [tail], Path.IsBare s := by simpa using htail
  have hinit : Path.IsBare "__init__" := ⟨⟨by decide, by decide⟩, by decide⟩
  have hso {before : List String} (hb : ∀ s ∈ before, Path.IsBare s) {stem : String}
      (hs : Path.IsBare stem) :=
    hw.isFile_of_suffix (h := h) hb hs (by decide : '/' ∉ ".so".toList) (by decide) (by decide)
  have hsrc {before : List String} (hb : ∀ s ∈ before, Path.IsBare s) {stem : String}
      (hs : Path.IsBare stem) :=
    hw.isFile_of_suffix (h := h) hb hs (by decide : '/' ∉ ".src".toList) (by decide) (by decide)
  cases hasDirectory with
  | false =>
    rw [probes_default_of_not]
    simp only [UnitLoader.firstFile, hso hflat htail, hsrc hflat htail]
    rcases hw.isFile_cache (h := h) hflat htail with he | hfound
    · rw [he]
    · simp only [hfound, bind, Except.bind, if_true]
  | true =>
    rw [probes_default htail.1]
    simp only [UnitLoader.firstFile, hso hflat htail, hsrc hflat htail, hso hinside hinit,
      hsrc hinside hinit]
    rcases hw.isFile_cache (h := h) hflat htail with he | hfound
    · rcases hw.isFile_cache (h := h) hinside hinit with he' | hfound
      · rw [he, he']
      · simp only [hfound, bind, Except.bind, if_true]
    · simp only [hfound, bind, Except.bind, if_true]

/-- A directory in which a unit may be is there if it was. -/
lemma isDirectory (htail : Path.IsBare tail) : h.isDirectory u tail = h.isDirectory t tail := by
  have hway : ∀ s ∈ [tail], IsName s := by simpa using htail.1
  have hname : cached ++ ".cache" ∉ [tail] := not_mem_of_bare (by simpa using htail)
  have hr := hw.reachesAlike_of_not_mem (h := h) hway hname
  rw [Path.relativeText_singleton] at hr
  exact Handle.isDirectory_of_stat (hw.alike_stat hr)

/-- The same is found in directories. -/
lemma search (name : String) (htail : Path.IsBare tail) (hs : List Handle) (found : List String) :
    RootFinder.search {} u name tail hs found = RootFinder.search {} t name tail hs found := by
  induction hs generalizing found with
  | nil => rw [RootFinder.search, RootFinder.search]
  | cons h hs ih =>
    simp only [RootFinder.search, hw.isDirectory htail, hw.firstFile htail, ih]

/-- A directory is opened alike, or in both trees there is none. -/
lemma subdirectory_cases (entry : String) :
    h.subdirectory u entry = h.subdirectory t entry ∨
    ∃ fault fault', h.subdirectory t entry = .error (.io fault) ∧
      h.subdirectory u entry = .error (.io fault') := by
  rw [Handle.subdirectory, Handle.subdirectory]
  cases hway : h.relative entry with
  | error e => exact .inl (by simp only [bind, Except.bind])
  | ok way =>
    simp only [bind, Except.bind, Handle.reachToOpen]
    cases h.require .lookup with
    | error e => exact .inl rfl
    | ok granted =>
      rcases hw.reach_cases (h := h) (Handle.isName_of_relative hway) with he | ⟨ht, hu⟩
      · simp only [he, hw.gains.isDirectory]
        exact .inl trivial
      · refine .inr ⟨.os .noEntry, .os .notDirectory, by rw [ht], ?_⟩
        have hfile : u.isDirectory t.nextId = false := by
          rw [Tree.isDirectory, hw.gains.node?_new]
        rcases hu with hu | hu
        · rw [hu]
          simp only [hfile]
          rfl
        · rw [hu]

/-- The same directories are looked through. -/
lemma directories (f : RootFinder) (searchPath : Option (List String)) :
    f.directories u searchPath = f.directories t searchPath := by
  cases searchPath with
  | none => rfl
  | some entries =>
    rw [RootFinder.directories, RootFinder.directories]
    induction entries with
    | nil => rfl
    | cons entry entries ih =>
      rw [RootFinder.directories.open_, RootFinder.directories.open_, ih]
      rcases hw.subdirectory_cases (h := f.root) entry with he | ⟨fault, fault', ht, hu⟩
      · rw [he]
      · rw [ht, hu]

/-- A finder with the default rules finds the same. -/
theorem resolve {f : RootFinder} (hrules : f.rules = {}) (name : String)
    (searchPath : Option (List String)) :
    f.resolve u name searchPath = f.resolve t name searchPath := by
  rw [RootFinder.resolve, RootFinder.resolve]
  split
  · next hsearchable =>
    rw [hw.directories, hrules]
    refine bind_congr fun hs? => ?_
    cases hs? with
    | none => rfl
    | some hs => exact hw.search name (isBare_short hsearchable) hs []
  · rfl

/-! ### Reading files -/

/-- An artifact that was there is not the new file. -/
lemma ne_nextId_of_openArtifact {file : OpenFile} (hf : h.openArtifact t path = .ok file) :
    file.node ≠ t.nextId := by
  obtain ⟨way, hway, -, hid⟩ := Handle.of_openFileMode (Outcome.mapError_eq_ok.1 hf)
  exact hw.ne_nextId_of_reach (Handle.isName_of_relative hway) hid

/-- A source to which its path leads alike is read alike. -/
lemma readSource (hr : h.ReachesAlike t u path) : h.readSource u path = h.readSource t path := by
  rw [Handle.readSource, Handle.readSource, hr.openArtifact]
  cases hf : h.openArtifact t path with
  | error e => simp only [bind, Except.bind]
  | ok file => simp only [bind, Except.bind, hw.gains.read (hw.ne_nextId_of_openArtifact hf)]

/-- A library to which its path leads alike is linked alike. -/
lemma link {x : Artifact} (hr : x.directory.ReachesAlike t u x.path) : x.link u = x.link t := by
  rw [Artifact.link, Artifact.link, hr.openArtifact]
  cases hf : x.directory.openArtifact t x.path with
  | error e => simp only [bind, Except.bind]
  | ok file =>
    simp only [bind, Except.bind]
    rcases hw.gains.node?_cases (hw.ne_nextId_of_openArtifact hf) with
      he | ⟨_, _, _, _, _, ht, hu⟩
    · rw [he]
    · rw [ht, hu]

/-- A source is of the same time in both trees. -/
lemma alike_stat_source (hbefore : ∀ s ∈ before, Path.IsBare s)
    (hpath : h.relative path = .ok (before ++ [stem ++ ".src"])) :
    Alike (fun m m' => m'.mtimeLow = m.mtimeLow) (h.stat t path) (h.stat u path) := by
  have hnames := Handle.isName_of_relative hpath
  have hname : cached ++ ".cache" ∉ before ++ [stem ++ ".src"] :=
    not_mem_concat_of_bare hbefore (by decide) (by decide)
  refine Handle.ReachesAlike.stat (fun way hway => ?_) fun way id hway hid => ?_
  · rw [hpath] at hway
    obtain rfl := Except.ok.inj hway
    exact hw.reach_of_not_mem hnames hname
  · rw [hpath] at hway
    obtain rfl := Except.ok.inj hway
    obtain ⟨i, -, hresolve⟩ := Handle.of_reach hid
    obtain ⟨mid, hmid⟩ := exists_walk_singleton (Nat.le_refl _) (walk_of_resolve hnames hresolve)
    rw [Metadata.mtimeLow, Metadata.mtimeLow, hw.times mid stem id (hnames _ (by simp)) hmid]

/-- A cache that is opened alike is read alike, if its source is of the same time. -/
lemma readCache {cache : String} {source? : Option String}
    (hopen : h.openArtifact u cache = h.openArtifact t cache)
    (hs : ∀ s ∈ source?, Alike (fun m m' => m'.mtimeLow = m.mtimeLow) (h.stat t s) (h.stat u s)) :
    h.readCache u cache source? = h.readCache t cache source? := by
  rw [Handle.readCache, Handle.readCache, hopen]
  cases hf : h.openArtifact t cache with
  | error e => simp only [bind, Except.bind]
  | ok file =>
    simp only [bind, Except.bind, hw.gains.read (hw.ne_nextId_of_openArtifact hf)]
    cases source? with
    | none => rfl
    | some s => simp only [Handle.ensureFresh_of_stat (hs s rfl)]

/-- The stored cache is fresh, and is read as its body is. -/
lemma readCache_stored {cache origin : String}
    (hfile : h.openArtifact u cache = .ok ⟨origin, t.nextId⟩)
    (htold : h.stat t path = .ok (t.metadata source))
    (hstat : Alike (fun m m' => m'.mtimeLow = m.mtimeLow) (h.stat t path) (h.stat u path)) :
    h.readCache u cache (some path) = Program.ofCachedBody origin p.body := by
  have hbytes : u.read t.nextId = .ok (p.toCache (t.metadata source).mtimeLow) := by
    rw [Tree.read, hw.gains.node?_new]
    rfl
  have hfresh : h.ensureFresh u path (.ofMtime (t.metadata source).mtimeLow) origin = .ok () := by
    rw [Handle.ensureFresh_of_stat hstat, Handle.ensureFresh, htold]
    exact if_pos rfl
  simp only [Handle.readCache_toCache hfile hbytes, hfresh, bind, Except.bind]

/-- Where a source has a cache, that is read alike. Or it is the cache that was stored: then it was
missing, and what it is read as is the program of the source if that can be stored. -/
theorem readCache_cases {cache : String} (hbefore : ∀ s ∈ before, Path.IsBare s)
    (hstem : Path.IsBare stem) (hpath : h.relative path = .ok (before ++ [stem ++ ".src"]))
    (hcache : h.relative cache = .ok (before ++ [stem ++ ".cache"]))
    (hfile : h.isFile t path = .ok true) :
    h.readCache u cache (some path) = h.readCache t cache (some path) ∨
    h.reach t (before ++ [stem ++ ".src"]) = .ok source ∧ h.readSource t path = .ok p ∧
      (∃ e, h.readCache t cache (some path) = .error e ∧ e.isCacheRecoverable) ∧
      ∃ origin, h.readCache u cache (some path) = Program.ofCachedBody origin p.body := by
  have hstat := hw.alike_stat_source hbefore hpath
  have halike (hopen : h.openArtifact u cache = h.openArtifact t cache) :
      h.readCache u cache (some path) = h.readCache t cache (some path) :=
    hw.readCache hopen fun s hs => by
      obtain rfl := Option.some.inj hs
      exact hstat
  -- The path of the cache leads where it led, unless it is that of the cache that was stored.
  rcases hw.reach_cache (h := h) hbefore hstem with he | ⟨rfl, ht, hu, hid⟩
  · refine .inl (halike (Handle.ReachesAlike.openArtifact fun way hway => ?_))
    rw [hcache] at hway
    obtain rfl := Except.ok.inj hway
    exact he
  have hne (s : String) : before ++ [s] ≠ [] := by simp
  have hopenCache := Handle.openArtifact_of_relative hcache (hne _)
  -- Without the rights to open a cache it does not matter whether there is one.
  cases hmay : h.require .read >>= fun _ => h.require .lookup with
  | error e =>
    rw [hmay] at hopenCache
    simp only [bind, Except.bind] at hopenCache
    exact .inl (halike ((hopenCache u).trans (hopenCache t).symm))
  | ok granted =>
    have hmissing := hopenCache t
    have hstored := hopenCache u
    have hsource := Handle.openArtifact_of_relative hpath (hne _) t
    rw [hmay, ht] at hmissing
    rw [hmay, hu] at hstored
    rw [hmay, hid] at hsource
    simp only [bind, Except.bind, Except.map, Except.mapError] at hmissing hstored hsource
    obtain ⟨_, _, _, hfstat, -, -⟩ := Handle.of_isFile hfile
    have htold : h.stat t path = .ok (t.metadata source) := by
      rw [Handle.stat, hpath]
      simp only [bind, Except.bind, hfstat, hid]
      rfl
    obtain ⟨content, since, hnode, hprogram⟩ := hw.program
    refine .inr ⟨hid, ?_, ?_, _, hw.readCache_stored hstored htold hstat⟩
    · rw [Handle.readSource, hsource]
      simp [bind, Except.bind, Except.mapError, Tree.read, hnode, hprogram]
    · rw [Handle.readCache, hmissing]
      exact ⟨_, rfl, rfl⟩

end

end Warms

end Tree

end UnitLoader
