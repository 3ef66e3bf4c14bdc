import UnitLoader.Proofs.Lookup.Precedence

/-!
# The other form of a unit

A source is loaded with a cache in mind, and a cache with a source. The path of the other form is
made from that of the artifact, by another suffix. Which suffix the artifact was found by is not
known any more: the first one of its kind that the path ends in is replaced. This is the one that it
was found by unless that one ends in another that is listed before it.

## Main definitions

* `UnitLoader.SuffixRules.ofKind` — the suffixes of a kind.
* `UnitLoader.SuffixRules.firstEnd?` — the first of some suffixes that a text ends in.
* `UnitLoader.SuffixRules.strategyWith` — how an artifact is loaded, by where its other form is.

## Main results

* `UnitLoader.SuffixRules.forArtifact_probe` — how a file that is looked for is loaded.
* `UnitLoader.RootFinder.resolve_strategy` — how an artifact that was found is loaded.
-/

set_option relaxedAutoImplicit false
set_option autoImplicit false

namespace UnitLoader

open UnitLoader.Path (IsName IsBare)
open UnitName (short)

variable {stem suffix old new rest text tail name path : String} {suffixes : List String}
  {rules : SuffixRules} {c : ArtifactKind × String} {inside : Bool}

/-! ## Suffixes -/

/-- A suffix is stripped from a text that ends in it, and what is before it is left. -/
lemma stripSuffix?_eq_some_iff : stripSuffix? suffix text = some stem ↔ text = stem ++ suffix := by
  refine ⟨eq_of_stripSuffix?, ?_⟩
  rintro rfl
  have hprefix : suffix.toList.reverse.isPrefixOf? (stem ++ suffix).toList.reverse =
      some stem.toList.reverse := by
    rw [List.isPrefixOf?_eq_some_iff_append_eq, String.toList_append, List.reverse_append]
  rw [stripSuffix?, hprefix, Option.map_some, List.reverse_reverse, String.ofList_toList]

/-- A suffix that begins with a dot is not longer than what comes after a text without dots. -/
lemma stripSuffix?_append (hstem : '.' ∉ stem.toList) (hold : old.toList.head? = some '.') :
    stripSuffix? old (stem ++ suffix) = (stripSuffix? old suffix).map (stem ++ ·) := by
  ext before
  rw [stripSuffix?_eq_some_iff, Option.map_eq_some_iff]
  simp only [stripSuffix?_eq_some_iff]
  constructor
  · intro h
    have hlist := congrArg String.toList h
    rw [String.toList_append, String.toList_append, List.append_eq_append_iff] at hlist
    rcases hlist with ⟨rest, hbefore, hsuffix⟩ | ⟨rest, hstem', hold'⟩
    · exact ⟨String.ofList rest, String.toList_injective (by simpa using hsuffix),
        String.toList_injective (by simpa using hbefore.symm)⟩
    · cases rest with
      | nil =>
        exact ⟨"", String.toList_injective (by simpa using hold'.symm),
          String.toList_injective (by simpa using hstem')⟩
      | cons first rest =>
        rw [hold'] at hold
        obtain rfl : first = '.' := Option.some.inj hold
        exact absurd (hstem' ▸ List.mem_append_right _ (List.mem_cons_self ..)) hstem
  · rintro ⟨rest, rfl, rfl⟩
    rw [String.append_assoc]

namespace SuffixRules

/-- The suffixes of a kind. -/
def ofKind (rules : SuffixRules) : ArtifactKind → List String
  | .nativeLibrary => rules.native
  | .source => rules.source
  | .compiledCache => rules.compiled

/-- A suffix is a candidate if it is listed for its kind. -/
lemma mem_candidates : c ∈ rules.candidates ↔ c.2 ∈ rules.ofKind c.1 := by
  obtain ⟨kind, suffix⟩ := c
  cases kind <;> simp [candidates, ofKind]

/-- The first of some suffixes that a text ends in. -/
def firstEnd? (suffixes : List String) (text : String) : Option String :=
  suffixes.find? fun s => s.toList.isSuffixOf text.toList

/-- The first suffix that can be taken off a text is the first that it ends in. -/
lemma findSome?_stripSuffix? (suffixes : List String) (text : String) :
    suffixes.findSome? (stripSuffix? · text) =
      (firstEnd? suffixes text).bind (stripSuffix? · text) := by
  induction suffixes with
  | nil => rfl
  | cons s suffixes ih =>
    rw [List.findSome?_cons, firstEnd?, List.find?_cons]
    cases hs : stripSuffix? s text with
    | some stem =>
      have hend : s.toList.isSuffixOf text.toList = true := by
        rw [stripSuffix?_eq_some_iff.1 hs, List.isSuffixOf_iff_suffix, String.toList_append]
        exact List.suffix_append _ _
      simp [hend, hs]
    | none =>
      have hend : s.toList.isSuffixOf text.toList = false := by
        by_contra hn
        obtain ⟨stem, hstem⟩ := List.isSuffixOf_iff_suffix.1 (Bool.of_not_eq_false hn)
        have htext : text = String.ofList stem ++ s :=
          String.toList_injective (by simpa using hstem.symm)
        rw [stripSuffix?_eq_some_iff.2 htext] at hs
        cases hs
      rw [hend, ih]
      rfl

/-- A suffix ends in itself, if in no other that is listed. -/
lemma exists_firstEnd? (h : suffix ∈ suffixes) :
    ∃ old rest, firstEnd? suffixes suffix = some old ∧ old ∈ suffixes ∧ suffix = rest ++ old := by
  have hsome : (firstEnd? suffixes suffix).isSome := by
    rw [firstEnd?, List.find?_isSome]
    exact ⟨suffix, h, by simp⟩
  obtain ⟨old, hold⟩ := Option.isSome_iff_exists.1 hsome
  obtain ⟨hend, -⟩ := List.find?_eq_some_iff_append.1 hold
  obtain ⟨rest, hrest⟩ := List.isSuffixOf_iff_suffix.1 hend
  exact ⟨old, String.ofList rest, hold, List.mem_of_find?_eq_some hold,
    String.toList_injective (by simpa using hrest.symm)⟩

end SuffixRules

/-! ## Paths -/

/-- A path in a directory, or beside it, is taken apart again. -/
lemma Path.split?_join (hname : IsName name) (hpath : path = "" ∨ IsName path) :
    split? (join path name) = some (path, name) := by
  have hrelative : isAbsolute name = false := by simpa using hname.isAbsolute_append ""
  have hlast := dropFillers_concat hname.isFiller_eq
  rcases hpath with rfl | hpath
  · rw [join_empty hrelative, split?, segments_of_not_mem hname.2, ← List.nil_append [name], hlast]
    simp [hname.ne_dots, beginning, dropFillers, hrelative]
  · have hsegments : segments (path ++ "/" ++ name) = [path] ++ [name] := by
      rw [segments_append_slash, segments_of_not_mem hpath.2, segments_of_not_mem hname.2]
    rw [join_of_isName hpath hrelative, split?, hsegments, hlast]
    simp [hname.ne_dots, beginning, dropFillers, hpath.isFiller_eq, joinNames, Text.joinWith]

namespace SuffixRules

/-- A file that is looked for has a bare stem, before its suffix. -/
lemma exists_stem_probe (hc : rules.Checked) (htail : IsBare tail) (inside : Bool) :
    ∃ base stem, (base = "" ∨ IsName base) ∧ IsBare stem ∧ ∀ c : ArtifactKind × String,
      (rules.probe tail c inside).path = Path.join base (stem ++ c.2) := by
  cases inside with
  | false =>
    refine ⟨"", tail, .inl rfl, htail, fun c => ?_⟩
    rw [Path.join_empty (htail.1.isAbsolute_append c.2)]
    rfl
  | true => exact ⟨tail, rules.initializer, .inr htail.1, hc.isBare_initializer, fun c => rfl⟩

/-- With one suffix replaced by another, the path of a file that is looked for is that with the
other suffix, after what is left of its own. -/
lemma replaceSuffix?_probe (hc : rules.Checked) (htail : IsBare tail)
    (hslash : '/' ∉ c.2.toList) (hold : old.toList.head? = some '.') (new : String) :
    replaceSuffix? (rules.probe tail c inside).path old new =
      (stripSuffix? old c.2).map fun rest => (rules.probe tail (c.1, rest ++ new) inside).path := by
  obtain ⟨base, stem, hbase, hstem, hpath⟩ := exists_stem_probe hc htail inside
  simp only [hpath]
  rw [replaceSuffix?, Path.split?_join (hstem.isName_append hslash) hbase]
  simp only [Option.bind_eq_bind, Option.bind_some]
  rw [stripSuffix?_append hstem.2 hold]
  cases stripSuffix? old c.2 with
  | none => rfl
  | some rest => simp [String.append_assoc]

/-- How an artifact of a kind is loaded, by the path of its other form with a suffix. -/
def strategyWith (rules : SuffixRules) (path : String → String) : ArtifactKind → Strategy
  | .nativeLibrary => .nativeLibrary
  | .compiledCache => .compiledCache (rules.source.head?.map path)
  | .source =>
    match rules.compiled.head? with
    | some new => .cacheThenSource (path new)
    | none => .source

/-- The first suffix that can be taken off the suffix of a file is replaced. -/
lemma findSome?_replaceSuffix? (hc : rules.Checked) (htail : IsBare tail)
    (hslash : '/' ∉ c.2.toList) (hdots : ∀ s ∈ suffixes, s.toList.head? = some '.') (new : String) :
    (suffixes.findSome? fun s => replaceSuffix? (rules.probe tail c inside).path s new) =
      (suffixes.findSome? (stripSuffix? · c.2)).map fun rest =>
        (rules.probe tail (c.1, rest ++ new) inside).path := by
  induction suffixes with
  | nil => rfl
  | cons s suffixes ih =>
    obtain ⟨hs, hdots⟩ := List.forall_mem_cons.1 hdots
    rw [List.findSome?_cons, List.findSome?_cons, replaceSuffix?_probe hc htail hslash hs,
      ih hdots]
    cases stripSuffix? s c.2 <;> rfl

/-- **How a file that is looked for is loaded**: of the suffixes of its kind, the first that its own
suffix ends in is replaced by the first of the other kind. -/
lemma forArtifact_probe (hc : rules.Checked) (htail : IsBare tail) (hmem : c ∈ rules.candidates)
    (hfirst : firstEnd? (rules.ofKind c.1) c.2 = some old) (hrest : c.2 = rest ++ old)
    (inside : Bool) :
    Strategy.forArtifact rules c.1 (rules.probe tail c inside).path =
      rules.strategyWith (fun new => (rules.probe tail (c.1, rest ++ new) inside).path) c.1 := by
  have hreplace (new : String) :
      ((rules.ofKind c.1).findSome? fun s =>
        replaceSuffix? (rules.probe tail c inside).path s new) =
      some (rules.probe tail (c.1, rest ++ new) inside).path := by
    have hdots : ∀ s ∈ rules.ofKind c.1, s.toList.head? = some '.' := fun s hs =>
      (hc.suffix (mem_candidates.2 hs : (c.1, s) ∈ rules.candidates)).1
    rw [findSome?_replaceSuffix? hc htail (hc.suffix hmem).2 hdots, findSome?_stripSuffix?, hfirst,
      Option.bind_some, stripSuffix?_eq_some_iff.2 hrest]
    rfl
  obtain ⟨kind, suffix⟩ := c
  cases kind with
  | nativeLibrary => rfl
  | source =>
    simp only [Strategy.forArtifact, strategyWith, cacheForSource?]
    cases rules.compiled.head? with
    | none => rfl
    | some new =>
      simp only [ofKind] at hreplace
      simp [hreplace]
  | compiledCache =>
    simp only [Strategy.forArtifact, strategyWith, sourceForCache?]
    cases rules.source.head? with
    | none => rfl
    | some new =>
      simp only [ofKind] at hreplace
      simp [hreplace]

end SuffixRules

/-- A tree with a source `m.v2.src` and an initializer with the same suffix in a directory `u`. -/
def Tree.versioned : Tree :=
  ⟨[.directory 0 (.ofList [("u", 1), ("m.v2.src", 2)]) 0,
    .directory 0 (.ofList [("__init__.v2.src", 3)]) 0, .file (.bytes [0x23]) 0,
    .file (.bytes [0x23]) 0]⟩

namespace RootFinder

variable {f : RootFinder} {t : Tree} {x : Artifact} {strategy : Strategy}
  {searchPath : Option (List String)}

/-- A file that is looked for is that with a suffix on one side. -/
lemma exists_of_mem_probes {p : Probe} {hasDirectory : Bool}
    (hp : p ∈ probes rules tail hasDirectory) :
    ∃ c ∈ rules.candidates, ∃ inside, p = rules.probe tail c inside ∧
      (inside = true → hasDirectory = true) := by
  obtain ⟨c, hc, hp⟩ := List.mem_flatMap.1 hp
  refine ⟨c, hc, ?_⟩
  rcases List.mem_cons.1 hp with rfl | hp
  · exact ⟨false, rfl, nofun⟩
  · split at hp
    · next hd =>
      obtain rfl := List.mem_singleton.1 hp
      exact ⟨true, rfl, fun _ => hd⟩
    · cases hp

/-- What is found is the first file in one of the directories. -/
lemma firstFile_of_resolve (hr : f.resolve t name searchPath = .ok (some (.artifact x strategy))) :
    IsBare (short name) ∧ ∃ h hasDirectory p,
      firstFile h t (probes f.rules (short name) hasDirectory) = .ok (some p) ∧
      bind f.rules name (short name) h p = .artifact x strategy := by
  unfold resolve at hr
  extract_lets tail at hr
  split at hr
  · next hsearchable =>
    obtain ⟨hs?, -, hr⟩ := Outcome.bind_eq_ok.1 hr
    cases hs? with
    | none => cases hr
    | some hs =>
      obtain ⟨h, -, hfound⟩ := firstFile_of_search hr
      exact ⟨isBare_short hsearchable, h, hfound⟩
  · cases hr

/-- **How an artifact that was found is loaded.** The artifact is a file of the unit's name or an
initializer, with a suffix that was looked for. The other form of the unit is looked for in the same
directory, by a path that differs in the suffix: in that of the artifact, the first listed one of
its kind that it ends in is replaced by the first suffix of the other kind. So all of the suffix is
replaced unless it ends in another that is listed before it.

**Proof sketch.** What is found is bound at a probe with a file, and the path of a probe is the short
name with a suffix behind it. A suffix that ends this path ends the suffix of the probe, since no
name of a unit has a dot in it. -/
theorem resolve_strategy (hc : f.rules.Checked)
    (hr : f.resolve t name searchPath = .ok (some (.artifact x strategy))) :
    ∃ suffix inside old rest, (x.kind, suffix) ∈ f.rules.candidates ∧
      x.path = (f.rules.probe (short name) (x.kind, suffix) inside).path ∧
      x.locations.isSome = inside ∧
      SuffixRules.firstEnd? (f.rules.ofKind x.kind) suffix = some old ∧ suffix = rest ++ old ∧
      strategy = f.rules.strategyWith
        (fun new => (f.rules.probe (short name) (x.kind, rest ++ new) inside).path) x.kind := by
  obtain ⟨htail, h, hasDirectory, p, hp, hbind⟩ := firstFile_of_resolve hr
  obtain ⟨c, hmem, inside, rfl, -⟩ := exists_of_mem_probes (mem_of_firstFile hp)
  cases hbind
  obtain ⟨old, rest, hfirst, -, hrest⟩ :=
    SuffixRules.exists_firstEnd? (SuffixRules.mem_candidates.1 hmem)
  refine ⟨c.2, inside, old, rest, hmem, rfl, ?_, hfirst, hrest,
    SuffixRules.forArtifact_probe hc htail hmem hfirst hrest inside⟩
  cases inside <;> rfl

/-- If the longer suffix is listed first, all of it is replaced. -/
theorem resolve_strategy_longer_first :
    let f : RootFinder :=
      { root := ⟨[], some 0, none⟩, rules := { source := [".v2.src", ".src"] } }
    let x : Artifact := ⟨"u", f.root, "u/__init__.v2.src", .source, some ["/u"]⟩
    f.rules.Checked ∧
      f.resolve .versioned "u" none =
        .ok (some (.artifact x (.cacheThenSource "u/__init__.cache"))) ∧
      ∃ suffix inside old rest, (x.kind, suffix) ∈ f.rules.candidates ∧
        x.path = (f.rules.probe "u" (x.kind, suffix) inside).path ∧ inside = true ∧
        SuffixRules.firstEnd? (f.rules.ofKind x.kind) suffix = some old ∧ suffix = rest ++ old ∧
        Strategy.cacheThenSource "u/__init__.cache" = f.rules.strategyWith
          (fun new => (f.rules.probe "u" (x.kind, rest ++ new) inside).path) x.kind := by
  intro f x
  have hc : f.rules.Checked := ⟨{ rules := f.rules }, by decide, rfl⟩
  have hr : f.resolve .versioned "u" none =
      .ok (some (.artifact x (.cacheThenSource "u/__init__.cache"))) := by decide +kernel
  obtain ⟨suffix, inside, old, rest, hmem, hpath, hinside, hfirst, hrest, hstrategy⟩ :=
    resolve_strategy hc hr
  exact ⟨hc, hr, suffix, inside, old, rest, hmem, hpath, hinside.symm, hfirst, hrest, hstrategy⟩

/-- If the shorter suffix is listed first, a part of the longer one stays: the cache of `m` is not
looked for at `m.cache`, although its source was found with all of the longer suffix. -/
theorem resolve_strategy_shorter_first :
    let f : RootFinder :=
      { root := ⟨[], some 0, none⟩, rules := { source := [".src", ".v2.src"] } }
    let c : ArtifactKind × String := (.source, ".v2.src")
    f.rules.Checked ∧ c ∈ f.rules.candidates ∧
      f.resolve .versioned "m" none = .ok (some (.artifact
        ⟨"m", f.root, (f.rules.probe "m" c false).path, .source, none⟩
        (.cacheThenSource "m.v2.cache"))) ∧
      "m.v2.cache" ≠ (f.rules.probe "m" (.compiledCache, ".cache") false).path :=
  ⟨⟨{ rules := { source := [".src", ".v2.src"] } }, by decide, rfl⟩, by decide, by decide +kernel,
    by decide⟩

end RootFinder

end UnitLoader
