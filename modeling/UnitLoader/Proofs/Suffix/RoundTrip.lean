import UnitLoader.Proofs.Lookup.Siblings
import UnitLoader.Proofs.Program.Cache

/-!
# From a source to its cache and back

The path of the cache of a source differs from that of the source in its last component only, and
from it the path of the source is made again: of both kinds the first suffix is taken, and no suffix
that is listed before it could be replaced in its place. So when the cache is read, it is compared
with the source that it was compiled from. Fillers of a path may be lost on the way. They are no part
of what a path is.

## Main definitions

* `UnitLoader.Path.components` — what a path is, whatever fillers it is written with.

## Main results

* `UnitLoader.Path.components_of_split?` — the last name of a path is its last component.
* `UnitLoader.SuffixRules.sourceForCache?_cacheForSource?` — a source is what its cache is compared
  with.
-/

set_option relaxedAutoImplicit false
set_option autoImplicit false

namespace UnitLoader

open UnitLoader.Path (IsName)

namespace Path

variable {path base name name' : String} {segs more : List String}

/-! ## Components -/

/-- The components of a path: the root if the path is absolute, or a dot that it begins with, and
then the segments that are no fillers. Paths with the same components are the same path. -/
def components (path : String) : List String :=
  (if isAbsolute path then ["/"] else if (segments path).head? = some "." then ["."] else []) ++
    named path

/-- The components of a path whose first segments are followed by a name, and then by fillers. -/
lemma components_of_segments (hsegs : segments path = segs ++ name :: more)
    (hname : isFiller name = false) (hmore : ∀ s ∈ more, isFiller s) :
    components path =
      (if segs.head? = some "" then ["/"] else if segs.head? = some "." then ["."] else []) ++
        segs.filter (!isFiller ·) ++ [name] := by
  have hnone : more.filter (!isFiller ·) = [] :=
    List.filter_eq_nil_iff.2 fun s hs => by simp [hmore s hs]
  have hdot : (segments path).head? = some "." ↔ segs.head? = some "." := by
    rw [hsegs]
    cases segs with
    | nil =>
      have hne : name ≠ "." := by
        rintro rfl
        cases hname
      simp [hne]
    | cons s segs => simp
  have hfilter : named path = segs.filter (!isFiller ·) ++ [name] := by
    rw [named, hsegs, List.filter_append, List.filter_cons_of_pos (by simp [hname]), hnone]
  rw [components, hfilter, ← List.append_assoc]
  simp only [isAbsolute_iff_head? hsegs hname, hdot]

/-- With another last name a path differs in its last component. -/
theorem components_of_split? (h : split? path = some (base, name)) :
    ∃ before, components path = before ++ [name] ∧
      ∀ name', IsName name' → components (join base name') = before ++ [name'] := by
  obtain ⟨segs, fillers, hsegs, hname, -, hfillers, rfl⟩ := exists_of_split? h
  refine ⟨_, components_of_segments hsegs hname hfillers, fun name' hn => ?_⟩
  rw [components_of_segments (segments_join_beginning hn hsegs hname) hn.isFiller_eq (by simp),
    head?_kept, filter_kept]

/-- Something with a suffix after it is a name. -/
lemma isName_append_of_isSuffix {stem suffix : String} (hstem : stem ≠ "")
    (hslash : '/' ∉ stem.toList) (hsuffix : Settings.isSuffix suffix = true) :
    IsName (stem ++ suffix) := by
  simp only [Settings.isSuffix, Bool.and_eq_true, decide_eq_true_eq] at hsuffix
  obtain ⟨⟨hsize, hdot⟩, hslash'⟩ := hsuffix
  have hlong : 2 ≤ suffix.length := by
    obtain ⟨cs, hcs⟩ := List.head?_eq_some_iff.1 hdot
    have hne : cs ≠ [] := by
      rintro rfl
      obtain rfl : suffix = "." := String.toList_injective hcs
      exact absurd hsize (by decide)
    rw [← String.length_toList, hcs, List.length_cons]
    exact Nat.succ_le_succ (List.length_pos_of_ne_nil hne)
  have hone : 0 < stem.length := by
    rw [← String.length_toList]
    exact List.length_pos_of_ne_nil (by simpa using hstem)
  refine isName_of_length ?_ (by simp [String.toList_append, hslash, hslash'])
  rw [String.length_append]
  omega

end Path

/-! ## Suffixes -/

namespace SuffixRules

variable {rules : SuffixRules} {path base stem old new : String}

/-- The suffix of a path is replaced in its last name. -/
lemma replaceSuffix?_of_split? (h : Path.split? path = some (base, stem ++ old)) (new : String) :
    replaceSuffix? path old new = some (Path.join base (stem ++ new)) := by
  rw [replaceSuffix?, h]
  simp [stripSuffix?_eq_some_iff.2 rfl]

/-- The first suffix is replaced, wherever it can be. -/
lemma findSome?_replaceSuffix?_head {suffixes : List String} (hold : suffixes.head? = some old)
    (h : Path.split? path = some (base, stem ++ old)) (new : String) :
    (suffixes.findSome? fun s => replaceSuffix? path s new) =
      some (Path.join base (stem ++ new)) := by
  obtain ⟨suffixes, rfl⟩ := List.head?_eq_some_iff.1 hold
  rw [List.findSome?_cons, replaceSuffix?_of_split? h]

end SuffixRules

/-! ## Caches of sources -/

/-- A tree with the source `u/__init__.v2.src`, changed at the time 5, and a cache beside it. -/
def Tree.changed (cache : Bytes) : Tree :=
  ⟨[.directory 0 (.ofList [("u", 1)]) 0,
    .directory 0 (.ofList [("__init__.v2.src", 2), ("__init__.cache", 3)]) 0,
    .file (.bytes [0x23]) 5, .file (.bytes cache) 0]⟩

namespace Handle

variable {h g : Handle} {t u : Tree} {path path' base name name' : String} {bytes : Bytes}
  {way : List String}

/-- Two paths that name the same are told the same of. -/
lemma ensureFresh_of_relative (hr : h.relative path = h.relative path') (t : Tree)
    (header : CacheHeader) (origin : String) :
    h.ensureFresh t path header origin = h.ensureFresh t path' header origin := by
  rw [ensureFresh, ensureFresh, stat, stat, hr]

/-- With its own last name a path names what it named. -/
lemma relative_join_of_split? (hsplit : Path.split? path = some (base, name))
    (hr : h.relative path = .ok way) (hne : way ≠ []) :
    h.relative (Path.join base name) = .ok way := by
  obtain ⟨mid, rfl, hjoin⟩ :=
    Path.relativeTo?_join_of_split? hsplit (Outcome.mapError_eq_ok.1 hr) hne
  have hname : IsName name := isName_of_relative hr name (by simp)
  rw [relative, hjoin name hname]
  rfl

end Handle

namespace SuffixRules

variable {rules : SuffixRules} {path stem old new : String}

/-- **From a source to its cache and back.** The last name of a path is something with the first
suffix of sources after it. The path of the cache has the same components but for the last one, in
which the first suffix of caches stands in place of that suffix; and the path that is made from it
again has the components of the path, whatever other suffixes the rules have. A cache at that path is
loaded with this source in mind. So if the cache of the source was compiled, and is found there later
on, then it is read if there is still nothing at the path of the source, or something with the time
that the source had.

**Proof sketch.** Fillers at the end of a path do not matter for its last name, and with another
last name a path is taken apart again in the same way. The first suffix of a list can be replaced
there, so no other is looked at. -/
theorem sourceForCache?_cacheForSource? (hc : rules.Checked)
    (hold : rules.source.head? = some old) (hnew : rules.compiled.head? = some new)
    (hpath : Path.fileName? path = some (stem ++ old)) (hstem : stem ≠ "") :
    ∃ cache source before,
      rules.cacheForSource? path = some cache ∧ rules.sourceForCache? cache = some source ∧
      Path.components path = before ++ [stem ++ old] ∧
      Path.components cache = before ++ [stem ++ new] ∧
      Path.components source = Path.components path ∧
      Strategy.forArtifact rules .compiledCache cache = .compiledCache (some source) ∧
      ∀ (h : Handle) (t : Tree) (bytes : Bytes), h.compileSource t path = .ok bytes →
        ∃ p m, h.stat t path = .ok m ∧ bytes = Program.toCache p m.mtimeLow ∧
          ∀ (g : Handle) (u : Tree) (file : OpenFile), g.relative path = h.relative path →
            g.openArtifact u cache = .ok file → u.read file.node = .ok bytes →
            g.readCache u cache (some source) =
              g.ensureFresh u path (.ofMtime m.mtimeLow) file.name >>= fun _ =>
                Program.ofCachedBody file.name p.body := by
  obtain ⟨⟨base, _⟩, hsplit, rfl⟩ := Option.map_eq_some_iff.1 hpath
  -- The stem is a part of the last segment, in which there is no slash.
  have hslash : '/' ∉ stem.toList := by
    obtain ⟨segs, fillers, hsegs, -⟩ := Path.exists_of_split? hsplit
    have hmem : stem ++ old ∈ Path.segments path := by simp [hsegs]
    exact fun hs => Path.slash_not_mem_of_mem_segments hmem (by simp [String.toList_append, hs])
  have hname {c : ArtifactKind × String} (hmem : c.2 ∈ rules.ofKind c.1) : IsName (stem ++ c.2) :=
    Path.isName_append_of_isSuffix hstem hslash (hc.isSuffix (mem_candidates.2 hmem))
  have holdName := hname (c := (.source, old)) (List.mem_of_head? hold)
  have hnewName := hname (c := (.compiledCache, new)) (List.mem_of_head? hnew)
  have hcache : rules.cacheForSource? path = some (Path.join base (stem ++ new)) := by
    rw [cacheForSource?, hnew]
    exact findSome?_replaceSuffix?_head hold hsplit new
  have hsource : rules.sourceForCache? (Path.join base (stem ++ new)) =
      some (Path.join base (stem ++ old)) := by
    rw [sourceForCache?, hold]
    exact findSome?_replaceSuffix?_head hnew (Path.split?_join_of_split? hsplit hnewName) old
  obtain ⟨before, hcomponents, hjoin⟩ := Path.components_of_split? hsplit
  refine ⟨_, _, before, hcache, hsource, hcomponents, hjoin _ hnewName,
    (hjoin _ holdName).trans hcomponents.symm, ?_, fun h t bytes hb => ?_⟩
  · rw [Strategy.forArtifact, hsource]
  · obtain ⟨way, id, -, -, p, hne, hway, -, -, hm, -, -, rfl⟩ := Handle.of_compileSource hb
    refine ⟨p, _, hm, rfl, fun g u file hg hfile hbytes => ?_⟩
    have hrelative : g.relative (Path.join base (stem ++ old)) = g.relative path := by
      rw [Handle.relative_join_of_split? hsplit (hg.trans hway) hne, hg, hway]
    rw [Handle.readCache_toCache hfile hbytes, Handle.ensureFresh_of_relative hrelative]

/-- The source of a container is compiled, by a path with fillers in it, and changed later on. Its
name ends in both suffixes of sources, so either could be replaced. -/
theorem sourceForCache?_cacheForSource?_changed :
    let rules : SuffixRules :=
      { source := [".v2.src", ".src"], compiled := [".cache", ".v2.cache"] }
    let path := "./u//__init__.v2.src/."
    let h : Handle := ⟨[], some 0, none⟩
    rules.Checked ∧ Path.fileName? path = some ("__init__" ++ ".v2.src") ∧
      rules.cacheForSource? path = some "./u/__init__.cache" ∧
      rules.sourceForCache? "./u/__init__.cache" = some "./u/__init__.v2.src" ∧
      Path.components path = [".", "u", "__init__.v2.src"] ∧
      Path.components "./u/__init__.cache" = [".", "u", "__init__.cache"] ∧
      h.compileSource .versioned path = .ok (Program.toCache ⟨[]⟩ 0) ∧
      h.readCache (.changed (Program.toCache ⟨[]⟩ 0)) "./u/__init__.cache"
        (some "./u/__init__.v2.src") = .error (.staleCache "/u/__init__.cache" 0 5) := by
  intro rules path h
  have hc : rules.Checked := ⟨{ rules }, by decide, rfl⟩
  have hpath : Path.fileName? path = some ("__init__" ++ ".v2.src") := by decide
  obtain ⟨cache, source, before, hcache, hsource, hcomponents, hcomponents', -, -, hfresh⟩ :=
    sourceForCache?_cacheForSource? hc rfl rfl hpath (by decide)
  obtain rfl : cache = "./u/__init__.cache" := Option.some.inj (hcache.symm.trans (by decide))
  obtain rfl : source = "./u/__init__.v2.src" := Option.some.inj (hsource.symm.trans (by decide))
  have hbefore : Path.components path = [".", "u", "__init__.v2.src"] := by decide
  have hbefore' : Path.components "./u/__init__.cache" = [".", "u", "__init__.cache"] := by decide
  have hb : h.compileSource .versioned path = .ok (Program.toCache ⟨[]⟩ 0) := by decide +kernel
  refine ⟨hc, hpath, hcache, hsource, hbefore, hbefore', hb, ?_⟩
  have hreach : h.reach (.changed (Program.toCache ⟨[]⟩ 0)) ["u", "__init__.cache"] = .ok 3 := by
    decide +kernel
  have hstat : h.stat (.changed (Program.toCache ⟨[]⟩ 0)) path = .ok (.file 1 5) := by
    decide +kernel
  generalize Program.toCache ⟨[]⟩ 0 = bytes at hb hreach hstat ⊢
  have hopen : h.openArtifact (.changed bytes) "./u/__init__.cache" =
      .ok ⟨"/u/__init__.cache", 3⟩ := by
    have hrelative : h.relative "./u/__init__.cache" = .ok ["u", "__init__.cache"] := by decide
    rw [Handle.openArtifact_of_relative hrelative (by decide), hreach]
    rfl
  obtain ⟨p, m, hm, -, hlater⟩ := hfresh h .versioned bytes hb
  obtain rfl : m = .file 1 0 := Except.ok.inj (hm.symm.trans (by decide +kernel))
  rw [hlater h _ _ rfl hopen rfl, Handle.ensureFresh, hstat]
  rfl

end SuffixRules

end UnitLoader
