import UnitLoader.Proofs.Handle.Entries
import UnitLoader.Proofs.Loader.Artifacts
import UnitLoader.Proofs.Lookup.Locations

/-!
# Absence is no error

A file that is not there is no error to a lookup, and neither is a cache that is not there to
loading a source. But a path may be refused for its length, which is an error, although nothing can
be there. Lookups append suffixes to names, and may come to such a path for a name that is short
enough by itself. So does loading a source, which asks for the cache beside it first.

## Main definitions

* `UnitLoader.RootFinder.AsksTooMuch` — a lookup comes to a path that is refused.
* `UnitLoader.RootFinder.present` — what is there for a unit.
* `UnitLoader.RootFinder.Fits` — all names that are asked about are short enough.

## Main results

* `UnitLoader.RootFinder.resolve_of_isLinkFree` — lookups do not fail for files that are not there,
  and neither do loads of sources for caches that are not there, unless a path is refused.
* `UnitLoader.RootFinder.resolve_refused` — names that are too long with a suffix.
-/

set_option relaxedAutoImplicit false
set_option autoImplicit false

namespace UnitLoader

open UnitLoader.Path (IsName relativeText)
open UnitName (short)
open LoadM (exec)

/-! ## Names with suffixes -/

/-- A bare name is its own short name. -/
lemma UnitName.short_of_isBare {name : String} (h : Path.IsBare name) : short name = name := by
  rw [short, UnitName.segments, Text.pieces_eq_singleton h.2, List.getLastD_eq_getLast?]
  simp

/-- The cache of a source has a suffix of caches in the place of one of sources. -/
lemma SuffixRules.of_forArtifact_eq_cacheThenSource {rules : SuffixRules} {kind : ArtifactKind}
    {path cache : String} (h : Strategy.forArtifact rules kind path = .cacheThenSource cache) :
    ∃ new old, (ArtifactKind.compiledCache, new) ∈ rules.candidates ∧
      (ArtifactKind.source, old) ∈ rules.candidates ∧ replaceSuffix? path old new = some cache := by
  cases kind with
  | nativeLibrary => cases h
  | compiledCache => cases h
  | source =>
    rw [Strategy.forArtifact] at h
    split at h
    · next other hother =>
      obtain rfl := Strategy.cacheThenSource.inj h
      obtain ⟨new, hnew, hother⟩ := Option.bind_eq_some_iff.1 hother
      obtain ⟨old, hold, hreplace⟩ := List.exists_of_findSome?_eq_some hother
      exact ⟨new, old, by simp [candidates, List.mem_of_head? hnew], by simp [candidates, hold],
        hreplace⟩
    · cases h

/-! ## Lookups -/

section

variable {h : Handle} {t : Tree} {rules : SuffixRules} {name tail : String} {ps : List Probe}
  {p : Probe} {f : RootFinder} {dir : NodeId}

/-- All files that are looked for are told about, be it that they are not there, or their paths are
refused. -/
def Handle.TellsOf (h : Handle) (t : Tree) (ps : List Probe) : Prop :=
  ∀ p ∈ ps, h.stat? t p.path =
    if h.refuses p.path then .error (.io (.os .nameTooLong)) else .ok (h.stat t p.path).toOption

/-- A path is refused before a file is found. -/
def Handle.RefusesOneOf (h : Handle) (t : Tree) (ps : List Probe) : Prop :=
  ∃ before p after, ps = before ++ p :: after ∧
    (∀ q ∈ before, h.hasFile t q.path = false) ∧ h.refuses p.path = true

/-- A probe that the operating system refuses ends the search with its error. -/
lemma firstFile_cons_of_refuses (htells : h.TellsOf t (p :: ps)) (hp : h.refuses p.path = true) :
    firstFile h t (p :: ps) = .error (.io (.os .nameTooLong)) := by
  rw [firstFile, Handle.isFile, htells p (List.mem_cons_self ..), if_pos hp]
  rfl

/-- A probe that is not refused is the first with a file, or the others are asked. -/
lemma firstFile_cons_of_not_refuses (htells : h.TellsOf t (p :: ps))
    (hp : ¬ h.refuses p.path = true) :
    firstFile h t (p :: ps) =
      if h.hasFile t p.path = true then .ok (some p) else firstFile h t ps :=
  firstFile_cons (by rw [htells p (List.mem_cons_self ..), if_neg hp]; rfl)

/-- A path that is refused before a file is found is an error. -/
lemma Handle.RefusesOneOf.firstFile_eq (hr : h.RefusesOneOf t ps) (htells : h.TellsOf t ps) :
    firstFile h t ps = .error (.io (.os .nameTooLong)) := by
  obtain ⟨before, p, after, rfl, hbefore, hp⟩ := hr
  induction before with
  | nil => exact firstFile_cons_of_refuses htells hp
  | cons q before ih =>
    obtain ⟨hq, hbefore⟩ := List.forall_mem_cons.1 hbefore
    by_cases hrefuses : h.refuses q.path = true
    · exact firstFile_cons_of_refuses htells hrefuses
    · rw [List.cons_append] at htells ⊢
      rw [firstFile_cons_of_not_refuses htells hrefuses, hq, if_neg Bool.false_ne_true]
      exact ih (fun q hq => htells q (List.mem_cons_of_mem _ hq)) hbefore

/-- Unless a path is refused, the first file that is there is found. -/
lemma firstFile_of_not_refusesOneOf (hr : ¬ h.RefusesOneOf t ps) (htells : h.TellsOf t ps) :
    firstFile h t ps = .ok (ps.find? (h.hasFile t ·.path)) := by
  induction ps with
  | nil => rfl
  | cons p ps ih =>
    have hp : ¬ h.refuses p.path = true := fun hp => hr ⟨[], p, ps, rfl, nofun, hp⟩
    rw [firstFile_cons_of_not_refuses htells hp, List.find?_cons]
    cases hfile : h.hasFile t p.path with
    | true => rfl
    | false =>
      rw [if_neg Bool.false_ne_true]
      refine ih ?_ fun q hq => htells q (List.mem_cons_of_mem _ hq)
      rintro ⟨before, q, after, rfl, hbefore, hq⟩
      exact hr ⟨p :: before, q, after, rfl, List.forall_mem_cons.2 ⟨hfile, hbefore⟩, hq⟩

/-- A file that is looked for is that of an entry: of the root, or of the directory of the unit. -/
lemma namesEntry_of_mem_probes {hasDirectory : Bool} (hc : rules.Checked) (htail : Path.IsBare tail)
    (hroot : h.directory = some dir) (hd : t.isDirectory dir = true)
    (hin : hasDirectory = true → ∃ id, h.reach t [tail] = .ok id ∧ t.isDirectory id = true)
    (hp : p ∈ probes rules tail hasDirectory) :
    ∃ before stem suffix, Path.IsBare stem ∧ h.NamesEntry t p.path before (stem ++ suffix) := by
  have hinit := hc.isBare_initializer
  obtain ⟨c, hmem, hp⟩ := List.mem_flatMap.1 hp
  have hslash : '/' ∉ c.2.toList := (hc.suffix hmem).2
  rcases List.mem_cons.1 hp with rfl | hp
  · exact ⟨[], tail, c.2, htail, Handle.namesEntry_of_isName hroot hd (htail.isName_append hslash)⟩
  · split at hp
    · next hdirectory =>
      obtain rfl := List.mem_singleton.1 hp
      obtain ⟨id, hreach, hid⟩ := hin hdirectory
      have hentry := Handle.namesEntry_of_reach (by simpa using htail.1)
        (hinit.isName_append hslash) hreach hid
      exact ⟨[tail], rules.initializer, c.2, hinit,
        (Path.join_eq_relativeText htail.1 hinit.1 c.2).symm ▸ hentry⟩
    · cases hp

namespace RootFinder

/-- A lookup in the root comes to a path that is refused, before a file is found. -/
def AsksTooMuch (f : RootFinder) (t : Tree) (tail : String) : Prop :=
  f.root.refuses tail = true ∨
    f.root.RefusesOneOf t (probes f.rules tail (f.root.hasDirectory t tail))

/-- What is in a directory for a unit: the first file, or the directory of the unit. -/
def present (f : RootFinder) (t : Tree) (name : String) : Option Resolution :=
  let tail := short name
  let hasDirectory := f.root.hasDirectory t tail
  match (probes f.rules tail hasDirectory).find? (f.root.hasFile t ·.path) with
  | some p => some (bind f.rules name tail f.root p)
  | none => if hasDirectory then some (.portions name [location f.root tail]) else none

section

variable (hc : f.rules.Checked) (hclosed : t.IsClosed) (hl : t.IsLinkFree)
  (hroot : f.root.directory = some dir) (hd : t.isDirectory dir = true)
  (hg : f.root.grants .fstat = true) (hsearchable : isSearchable (short name) = true)

include hc hclosed hl hroot hd hg hsearchable

/-- The files that are looked for in the root are those of entries. -/
lemma namesEntry_of_mem
    (hp : p ∈ probes f.rules (short name) (f.root.hasDirectory t (short name))) :
    ∃ before stem suffix, Path.IsBare stem ∧
      f.root.NamesEntry t p.path before (stem ++ suffix) := by
  have htail := isBare_short hsearchable
  refine namesEntry_of_mem_probes hc htail hroot hd (fun hdirectory => ?_) hp
  have htold := (Handle.namesEntry_of_isName hroot hd htail.1).stat? hl hg
  refine exists_of_isDirectory hclosed hl htail.1 ?_
  obtain ⟨m, hm, -⟩ := Handle.any_stat_iff.1 hdirectory
  rw [Handle.isDirectory, Handle.stat?_eq_ok_some.2 hm, ← hdirectory, Handle.hasDirectory, hm]
  rfl

/-- What a lookup in the root gives. -/
lemma resolve_root :
    (f.AsksTooMuch t (short name) → f.resolve t name none = .error (.io (.os .nameTooLong))) ∧
      (¬ f.AsksTooMuch t (short name) → f.resolve t name none = .ok (f.present t name)) := by
  have htail := isBare_short hsearchable
  have htold := (Handle.namesEntry_of_isName hroot hd htail.1).stat? hl hg
  have htells : f.root.TellsOf t
      (probes f.rules (short name) (f.root.hasDirectory t (short name))) := fun p hp => by
      obtain ⟨before, stem, suffix, -, he⟩ :=
        namesEntry_of_mem hc hclosed hl hroot hd hg hsearchable hp
      exact he.stat? hl hg
  rw [resolve_of_directories rfl, if_pos hsearchable, search]
  by_cases hrefuses : f.root.refuses (short name) = true
  · rw [Handle.isDirectory, htold, if_pos hrefuses]
    exact ⟨fun _ => rfl, fun hn => absurd (.inl hrefuses) hn⟩
  · rw [if_neg hrefuses] at htold
    rw [Handle.isDirectory_of_isOk (by rw [htold]; rfl)]
    dsimp only [Bind.bind, Except.bind]
    refine ⟨fun ha => ?_, fun hn => ?_⟩
    · rw [(ha.resolve_left hrefuses).firstFile_eq htells]
    · rw [firstFile_of_not_refusesOneOf (fun hr => hn (.inr hr)) htells, present]
      cases (probes f.rules (short name) (f.root.hasDirectory t (short name))).find?
        (f.root.hasFile t ·.path) with
      | some p => rfl
      | none => cases hdirectory : f.root.hasDirectory t (short name) <;> simp [search]

end

/-- The cache of a source that is found is that of an entry of the directory of the source. -/
lemma namesEntry_of_cache (hc : f.rules.Checked) (hclosed : t.IsClosed) (hl : t.IsLinkFree)
    (hroot : f.root.directory = some dir) (hd : t.isDirectory dir = true)
    (hg : f.root.grants .fstat = true) {x : Artifact} {cache : String}
    (hr : f.resolve t name none = .ok (some (.artifact x (.cacheThenSource cache)))) :
    x.directory = f.root ∧ ∃ before s, f.root.NamesEntry t cache before s := by
  by_cases hsearchable : isSearchable (short name) = true
  · by_cases hasks : f.AsksTooMuch t (short name)
    · rw [(resolve_root hc hclosed hl hroot hd hg hsearchable).1 hasks] at hr
      cases hr
    · rw [(resolve_root hc hclosed hl hroot hd hg hsearchable).2 hasks, Except.ok.injEq,
        present] at hr
      split at hr
      · next p hp =>
        obtain ⟨before, stem, suffix, hstem, he⟩ := namesEntry_of_mem hc hclosed hl hroot hd hg
          hsearchable (List.mem_of_find?_eq_some hp)
        obtain ⟨rfl, hstrategy⟩ := Resolution.artifact.inj (Option.some.inj hr)
        refine ⟨rfl, before, ?_⟩
        obtain ⟨new, old, hnew, hold, hreplace⟩ :=
          SuffixRules.of_forArtifact_eq_cacheThenSource hstrategy
        exact he.replaceSuffix? hstem hreplace (hc.suffix hold).1 (hc.suffix hnew).2
      · split at hr <;> cases hr
  · rw [resolve_of_directories rfl, if_neg hsearchable] at hr
    cases hr

end RootFinder

/-! ## Loads -/

section

variable {x : Artifact} {t : Tree} {i : Importer} {l : Loader} {cache : String} {e : LoadError}

/-- A cache that cannot be opened stands back for the source, or is an error. -/
lemma Artifact.loadCacheOrSource_of_error (ho : x.directory.openArtifact t cache = .error e) :
    x.loadCacheOrSource t i cache =
      if e.isCacheRecoverable then x.loadSource t i else throw e := by
  rw [loadCacheOrSource, Handle.readCache, ho]
  rfl

/-- If a cache cannot be opened, the error decides whether its source is loaded instead or loading
the artifact fails. -/
lemma LoadM.exec_load_cacheThenSource_of_error
    (ho : x.directory.openArtifact t cache = .error e) :
    (e.isCacheRecoverable = true →
      exec (x.load t i (.cacheThenSource cache)) l = exec (x.load t i .source) l) ∧
    (e.isCacheRecoverable = false → l.registry.find? x.name = none →
      exec (x.load t i (.cacheThenSource cache)) l = (.error e, l)) := by
  rw [Artifact.load.eq_def, Artifact.load.eq_def]
  dsimp only
  rw [Artifact.loadCacheOrSource_of_error ho]
  refine ⟨fun h => by rw [if_pos h], fun h hfree => ?_⟩
  rw [h, exec_bind, exec_registered?, hfree]
  rfl

end

end

/-! ## Lookups and loads without errors for absence -/

namespace RootFinder

/-- All names that are asked about for a unit are short enough for the operating system. -/
def Fits (f : RootFinder) (tail : String) : Prop :=
  tail.utf8ByteSize ≤ Tree.maxName ∧ ∀ c ∈ f.rules.candidates,
    (tail ++ c.2).utf8ByteSize ≤ Tree.maxName ∧
      (f.rules.initializer ++ c.2).utf8ByteSize ≤ Tree.maxName

/-- A lookup comes to no path that is refused if all names are short enough. -/
lemma Fits.not_asksTooMuch {f : RootFinder} {tail : String} (hfits : f.Fits tail)
    (hc : f.rules.Checked) (htail : Path.IsBare tail) (t : Tree) : ¬ f.AsksTooMuch t tail := by
  rintro (htoo | ⟨before, p, after, hps, -, htoo⟩)
  · rw [Handle.refuses_of_le (Handle.relative_of_isName htail.1) (by simp)
      (by simpa using hfits.1)] at htoo
    cases htoo
  · have hp : p ∈ probes f.rules tail (f.root.hasDirectory t tail) := by simp [hps]
    obtain ⟨c, hmem, hp⟩ := List.mem_flatMap.1 hp
    obtain ⟨hbeside, hinside⟩ := hfits.2 c hmem
    have hrefuses : f.root.refuses p.path = false := by
      rcases List.mem_cons.1 hp with rfl | hp
      · have hname := htail.isName_append (hc.suffix hmem).2
        exact Handle.refuses_of_le (Handle.relative_of_isName hname) (by simp)
          (by simpa using hbeside)
      · split at hp
        · obtain rfl := List.mem_singleton.1 hp
          have hinit := hc.isBare_initializer
          have hway : ∀ n ∈ [tail] ++ [f.rules.initializer ++ c.2], IsName n := by
            simpa using And.intro htail.1 (hinit.isName_append (hc.suffix hmem).2)
          have hrelative := Handle.relative_relativeText (h := f.root) hway
          rw [← Path.join_eq_relativeText htail.1 hinit.1 c.2] at hrelative
          exact Handle.refuses_of_le hrelative (by simp) (by simpa using And.intro hfits.1 hinside)
        · cases hp
    rw [hrefuses] at htoo
    cases htoo

/-- **Absence is no error**, in a tree without links and through a handle that grants everything,
but for the lengths of paths. A lookup in the root gives the first file that is there, or the directory
of the unit, or nothing; and loading a source beside which there is no cache is running the source.
A lookup fails only if a path is refused before a file is found, and none is if all names are short
enough. The load fails only if the path of the cache is refused or holds a NUL.

**Proof sketch.** All files that are asked about are entries of the root, or of the directory of the
unit in it, so that nothing but the end of a path can be missing. The cache is an entry of the
directory of the source. -/
theorem resolve_of_isLinkFree (f : RootFinder) (t : Tree) (name : String) (dir : NodeId)
    (hc : f.rules.Checked) (hclosed : t.IsClosed) (hl : t.IsLinkFree)
    (hroot : f.root.directory = some dir) (hd : t.isDirectory dir = true)
    (hg : ∀ r, f.root.grants r = true) :
    (isSearchable (short name) = false → f.resolve t name none = .ok none) ∧
    (isSearchable (short name) = true →
      (f.Fits (short name) → ¬ f.AsksTooMuch t (short name)) ∧
      (f.AsksTooMuch t (short name) → f.resolve t name none = .error (.io (.os .nameTooLong))) ∧
      (¬ f.AsksTooMuch t (short name) → f.resolve t name none = .ok (f.present t name))) ∧
    ∀ x cache, f.resolve t name none = .ok (some (.artifact x (.cacheThenSource cache))) →
      (∀ m, x.directory.stat t cache ≠ .ok m) →
      ∃ way, x.directory.relative cache = .ok way ∧ ∀ i l,
        (x.directory.refuses cache = false → holdsNul (relativeText way) = false →
          exec (x.load t i (.cacheThenSource cache)) l = exec (x.load t i .source) l) ∧
        (x.directory.refuses cache = true → l.registry.find? x.name = none →
          exec (x.load t i (.cacheThenSource cache)) l = (.error (.inaccessibleArtifact
            (Path.join x.directory.nameText cache) (.os .nameTooLong)), l)) ∧
        (holdsNul (relativeText way) = true → l.registry.find? x.name = none →
          exec (x.load t i (.cacheThenSource cache)) l =
            (.error (.badPath (.holdsNul (relativeText way))), l)) := by
  refine ⟨fun hno => ?_, fun hsearchable => ?_, fun x cache hr habsent => ?_⟩
  · rw [resolve_of_directories rfl, hno]
    rfl
  · exact ⟨fun hfits => hfits.not_asksTooMuch hc (isBare_short hsearchable) t,
      resolve_root hc hclosed hl hroot hd (hg _) hsearchable⟩
  · obtain ⟨hdirectory, before, s, he⟩ := namesEntry_of_cache hc hclosed hl hroot hd (hg _) hr
    rw [hdirectory] at habsent ⊢
    have hopen {e : LoadError} (hreach : f.root.reach t (before ++ [s]) = .error e) :
        x.directory.openArtifact t cache =
          .error (e.atArtifact (Path.join f.root.nameText cache)) := by
      rw [hdirectory]
      exact Handle.openArtifact_of_reach_error he.relative (by simp) hg hreach
    refine ⟨before ++ [s], he.relative, fun i l => ?_⟩
    -- There is no cache, so its path fails: for a NUL, for its length, or since nothing is there.
    rcases he.reach_cases hl with
      ⟨hnul, hrefuses, hreach⟩ | ⟨hnul, hrefuses, hreach⟩ | ⟨hnul, hrefuses, hreach | ⟨id, hreach⟩⟩
    · obtain ⟨-, hload⟩ := LoadM.exec_load_cacheThenSource_of_error (i := i) (l := l) (hopen hreach)
      rw [hnul, hrefuses]
      exact ⟨nofun, nofun, fun _ hfree => hload rfl hfree⟩
    · obtain ⟨-, hload⟩ := LoadM.exec_load_cacheThenSource_of_error (i := i) (l := l) (hopen hreach)
      rw [hnul, hrefuses]
      exact ⟨nofun, fun _ hfree => hload rfl hfree, nofun⟩
    · obtain ⟨hload, -⟩ := LoadM.exec_load_cacheThenSource_of_error (i := i) (l := l) (hopen hreach)
      rw [hnul, hrefuses]
      exact ⟨fun _ _ => hload rfl, nofun, nofun⟩
    · refine absurd ?_ (habsent (t.metadata id))
      rw [Handle.stat_of_relative he.relative (hg _), hreach]
      rfl

/-- An initializer is found in the directory of a unit, and is run, for there is no cache beside it.
Nothing is found for a unit that is not there. -/
theorem resolve_of_isLinkFree_layered :
    let t : Tree := .layered
    let f : RootFinder := { root := ⟨["b"], some 2, none⟩, rules := {} }
    let x : Artifact := ⟨"u", f.root, "u/__init__.src", .source, some ["/b/u"]⟩
    f.resolve t "u" none = .ok (some (.artifact x (.cacheThenSource "u/__init__.cache"))) ∧
      (∀ i l, exec (x.load t i (.cacheThenSource "u/__init__.cache")) l =
        exec (x.load t i .source) l) ∧
      f.resolve t "a.v" none = .ok none := by
  intro t f x
  have hc : f.rules.Checked := ⟨{}, by decide, rfl⟩
  have hclosed : t.IsClosed := by decide +kernel
  have hl : t.IsLinkFree := by decide +kernel
  have hd : t.isDirectory 2 = true := by decide +kernel
  have hu : f.present t "u" = some (.artifact x (.cacheThenSource "u/__init__.cache")) := by
    decide +kernel
  have hv : f.present t "a.v" = none := by decide +kernel
  have habsent : (f.root.stat t "u/__init__.cache").toOption = none := by decide +kernel
  have htaken : f.root.refuses "u/__init__.cache" = false ∧
      f.root.relative "u/__init__.cache" = .ok ["u", "__init__.cache"] ∧
      holdsNul (relativeText ["u", "__init__.cache"]) = false := by decide +kernel
  have hlookup (name : String) := resolve_of_isLinkFree f t name 2 hc hclosed hl rfl hd fun _ => rfl
  obtain ⟨-, hresolve, hloads⟩ := hlookup "u"
  obtain ⟨hfits, -, hfound⟩ := hresolve (by decide +kernel)
  obtain ⟨-, hresolve', -⟩ := hlookup "a.v"
  obtain ⟨hfits', -, hfound'⟩ := hresolve' (by decide +kernel)
  have hfound := (hfound (hfits ⟨by decide +kernel, by decide +kernel⟩)).trans (congrArg _ hu)
  refine ⟨hfound, fun i l => ?_,
    (hfound' (hfits' ⟨by decide +kernel, by decide +kernel⟩)).trans (congrArg _ hv)⟩
  obtain ⟨way, hway, hload⟩ := hloads x _ hfound fun m hm => by
    rw [show x.directory = f.root from rfl] at hm
    rw [hm] at habsent
    cases habsent
  obtain rfl := Except.ok.inj (htaken.2.1.symm.trans hway)
  exact (hload i l).1 htaken.1 htaken.2.2

/-- A name of letters is bare. -/
lemma isBare_nameOfLength (length : Nat) : Path.IsBare (nameOfLength (length + 1)) := by
  have hhead : (nameOfLength (length + 1)).toList.head? = some 'd' := by
    rw [nameOfLength, String.toList_ofList]
    rfl
  exact ⟨Path.isName_of_head hhead (by decide) (not_mem_nameOfLength (by decide) _),
    not_mem_nameOfLength (by decide) _⟩

/-- A path of one name that is too long is refused. -/
lemma refuses_of_lt {h : Handle} {s : String} (hs : IsName s) (hnul : holdsNul s = false)
    (hlong : Tree.maxName < s.utf8ByteSize) : h.refuses s = true := by
  rw [Handle.refuses_eq (Handle.relative_of_isName hs), Path.relativeText_singleton, hnul,
    Path.isTooLong]
  simp [hlong]

/-- By the default rules, the library is the first that is probed for. -/
lemma exists_probes_default (tail : String) (hasDirectory : Bool) :
    ∃ rest, probes {} tail hasDirectory = ⟨.nativeLibrary, tail ++ ".so", false⟩ :: rest :=
  ⟨_, rfl⟩

/-- A unit is not found, but is an error, if its name is too long, also if it is only with a suffix
and the unit has a directory. And a source that is found is not run if a NUL is in the suffix of
caches, although there can be no such cache. -/
theorem resolve_refused :
    let d := nameOfLength 253
    let t : Tree := ⟨[.directory 0 (.ofList [(d, 1), ("m.src", 2)]) 0, .directory 0 .empty 0,
      .file (.bytes []) 0]⟩
    let f : RootFinder := { root := ⟨[], some Tree.root, none⟩, rules := {} }
    let g : RootFinder := { f with rules := { compiled := [".c\x00"] } }
    let x : Artifact := ⟨"m", g.root, "m.src", .source, none⟩
    let i : Importer := fun _ => throw .tooDeep
    f.rules.Checked ∧ g.rules.Checked ∧ t.IsClosed ∧ t.IsLinkFree ∧ t.isDirectory Tree.root = true ∧
      f.resolve t (nameOfLength 256) none = .error (.io (.os .nameTooLong)) ∧
      f.root.stat t d = .ok (.directory 0) ∧
      f.resolve t d none = .error (.io (.os .nameTooLong)) ∧
      g.resolve t "m" none = .ok (some (.artifact x (.cacheThenSource "m.c\x00"))) ∧
      (g.root.stat t "m.c\x00").toOption = none ∧
      (exec (x.load t i (.cacheThenSource "m.c\x00")) {}).1 =
        .error (.badPath (.holdsNul "m.c\x00")) ∧
      (exec (x.load t i .source) {}).1.toOption = some 0 := by
  intro d t f g x i
  have hc : f.rules.Checked := ⟨{}, by decide, rfl⟩
  have hc' : g.rules.Checked := ⟨{ rules := g.rules }, by decide, rfl⟩
  have hclosed : t.IsClosed := by decide +kernel
  have hl : t.IsLinkFree := by decide +kernel
  have hd : t.isDirectory Tree.root = true := by decide +kernel
  have hbare : Path.IsBare d := isBare_nameOfLength 252
  have hnul (n : Nat) : holdsNul (nameOfLength n) = false := by
    rw [holdsNul, decide_eq_false_iff_not]
    exact not_mem_nameOfLength (by decide) n
  have hsize : d.utf8ByteSize = 253 := by decide +kernel
  -- Only the step in the tree is evaluated: a path of so many characters is too long for that.
  have hstat : f.root.stat t d = .ok (.directory 0) := by
    have hstep : t.step Tree.root d = .ok 1 := by decide +kernel
    refine Handle.stat_eq_ok_iff.2 ⟨[d], 1, Handle.relative_of_isName hbare.1, rfl,
      (Handle.reach_eq_ok_iff rfl).2 ⟨?_, ?_⟩, rfl⟩
    · rw [Path.relativeText_singleton]
      exact hnul 253
    · rw [Tree.resolve_relativeText (by simpa using hbare.1), Path.relativeText_singleton, hsize,
        if_neg (by decide), if_neg (by simp), hl.walk_cons, hstep]
      rfl
  have hlong : f.AsksTooMuch t (short (nameOfLength 256)) := by
    rw [UnitName.short_of_isBare (isBare_nameOfLength 255)]
    exact .inl (refuses_of_lt (isBare_nameOfLength 255).1 (hnul 256) (by decide +kernel))
  -- The library is probed for first, and its suffix makes the name too long.
  have hsuffix : f.AsksTooMuch t (short d) := by
    obtain ⟨rest, hrest⟩ := exists_probes_default d (f.root.hasDirectory t d)
    rw [UnitName.short_of_isBare hbare]
    refine .inr ⟨[], _, rest, hrest, nofun, refuses_of_lt (hbare.isName_append (by decide)) ?_ ?_⟩
    · rw [holdsNul, String.toList_append, decide_eq_false_iff_not, List.mem_append, not_or]
      exact ⟨not_mem_nameOfLength (by decide) 253, by decide⟩
    · have hso : ".so".utf8ByteSize = 3 := by decide
      rw [String.utf8ByteSize_append, hsize, hso]
      decide
  have hsearchable {name : String} (h : Path.IsBare name) : isSearchable (short name) = true := by
    rw [UnitName.short_of_isBare h]
    simp [isSearchable, h.1.1, h.1.2]
  refine ⟨hc, hc', hclosed, hl, hd, ?_, hstat, ?_, ?_⟩
  · exact (resolve_root hc hclosed hl rfl hd rfl (hsearchable (isBare_nameOfLength 255))).1 hlong
  · exact (resolve_root hc hclosed hl rfl hd rfl (hsearchable hbare)).1 hsuffix
  · decide +kernel

end RootFinder

end UnitLoader
