import Mathlib.Data.List.Induction
import UnitLoader.Proofs.Agreement
import UnitLoader.Proofs.Place
import UnitLoader.Proofs.Suffix

/-!
# The ways of files that are looked for

Under the default rules a file is looked for by a way that names it: through the directory of its
container if there is one, with a suffix that tells its kind after a name without a dot. What is
found is reached by such a way.

## Main definitions

* `UnitLoader.Path.IsBare` — a name without a dot.
* `UnitLoader.RootFinder.Found` — an artifact that a finder found, and the way to it.
* `UnitLoader.Handle.ReachesAlike` — a path leads to the same node of two trees.

## Main results

* `UnitLoader.RootFinder.found_of_resolve` — what a finder finds, it found by such a way.
-/

set_option relaxedAutoImplicit false
set_option autoImplicit false

namespace UnitLoader

open UnitLoader.Path (IsName relativeText absoluteText)

variable {t u : Tree} {h : Handle} {path s stem tail suffix name : String}
  {way before names : List String}

/-! ## Paths that lead to the same node -/

namespace Handle

/-- A path leads to the same node of two trees, or fails alike. -/
def ReachesAlike (h : Handle) (t u : Tree) (path : String) : Prop :=
  ∀ way, h.relative path = .ok way → h.reach u way = h.reach t way

/-- The path of a way names the way. -/
lemma relative_relativeText (hway : ∀ s ∈ way, IsName s) :
    h.relative (relativeText way) = .ok way := by
  have hresolve : Path.resolve? [] (Path.segments (relativeText way)) = some way := by
    rw [Path.segments_relativeText hway]
    split
    · next hnil =>
      subst hnil
      decide
    · exact Path.resolve?_of_isName [] hway
  have hnormal : Path.normal? (relativeText way) = .ok ⟨false, way⟩ := by
    rw [Path.normal?, hresolve, Path.isAbsolute_relativeText hway]
  rw [relative, Path.relativeTo?_eq, if_neg (Path.relativeText_ne_empty hway), hnormal]
  rfl

/-- What is reached is what the path of the way leads to from the directory. -/
lemma of_reach {id : NodeId} (hr : h.reach t way = .ok id) :
    ∃ i, h.descriptor = .ok i ∧ t.resolve i (relativeText way) = .ok id := by
  rw [reach_eq] at hr
  split at hr
  · cases hr
  · obtain ⟨i, hi, hr⟩ := Outcome.bind_eq_ok.1 hr
    exact ⟨i, hi, Outcome.mapError_eq_ok.1 hr⟩

/-- A name leads to what it names. -/
lemma relative_of_isName {s : String} (hs : IsName s) : h.relative s = .ok [s] := by
  have hrelative : h.relative (relativeText [s]) = .ok [s] :=
    relative_relativeText (by simpa using hs)
  rwa [Path.relativeText_singleton] at hrelative

/-- An artifact is opened by reaching it, if that is allowed. -/
lemma openArtifact_of_relative (hpath : h.relative path = .ok way) (hne : way ≠ []) (t : Tree) :
    h.openArtifact t path =
      ((h.require .read >>= fun _ => h.require .lookup) >>= fun _ =>
        (h.reach t way).map fun id => (⟨Path.absoluteText (h.name ++ way), id⟩ : OpenFile)).mapError
        (LoadError.atArtifact (Path.join h.nameText path)) := by
  have hletters : "rb".toList.filter isRefusedLetter = [] := by decide
  rw [openArtifact, openFile, openFileMode_eq, if_neg (not_not.2 hletters), hpath]
  simp only [bind, Except.bind, if_neg hne, reachToOpen]
  cases h.require .read with
  | error e => rfl
  | ok granted =>
    cases h.require .lookup with
    | error e => rfl
    | ok granted => cases h.reach t way <;> rfl

namespace ReachesAlike

/-- What a path leads to alike is opened alike, in whatever mode. -/
lemma openFileMode (hr : h.ReachesAlike t u path) (mode : String) :
    h.openFileMode u path mode = h.openFileMode t path mode := by
  rw [openFileMode_eq, openFileMode_eq]
  split
  · rfl
  · cases hway : h.relative path with
    | error e => simp only [bind, Except.bind]
    | ok way => simp only [bind, Except.bind, reachToOpen, hr way hway]

/-- An artifact to which a path leads alike is opened alike. -/
lemma openArtifact (hr : h.ReachesAlike t u path) :
    h.openArtifact u path = h.openArtifact t path := by
  rw [Handle.openArtifact, Handle.openArtifact, openFile, openFile, hr.openFileMode]

/-- What is told of a path that leads to the same is as alike as what is told of the node. -/
lemma stat {R : Metadata → Metadata → Prop} (hr : h.ReachesAlike t u path)
    (hR : ∀ way id, h.relative path = .ok way → h.reach t way = .ok id →
      R (t.metadata id) (u.metadata id)) :
    Alike R (h.stat t path) (h.stat u path) := by
  rw [Handle.stat, Handle.stat]
  cases hway : h.relative path with
  | error e => exact .error e
  | ok way =>
    simp only [bind, Except.bind, hr way hway]
    cases h.require .fstat with
    | error e => exact .error e
    | ok granted =>
      cases hid : h.reach t way with
      | error e => exact .error e
      | ok id => exact .ok (hR way id hway hid)

end ReachesAlike

/-- A path is a file in both trees if what is told of it agrees on that. -/
lemma isFile_of_stat (hs : Alike (fun m m' => m'.isFile = m.isFile) (h.stat t path)
    (h.stat u path)) : h.isFile u path = h.isFile t path := by
  rw [isFile, isFile, stat?, stat?]
  generalize h.stat t path = x at hs
  generalize h.stat u path = y at hs
  cases hs with
  | error e => rfl
  | ok hm => simp [Except.map, hm]

/-- A path is a directory in both trees if what is told of it agrees on that. -/
lemma isDirectory_of_stat (hs : Alike (fun m m' => m'.isFile = m.isFile) (h.stat t path)
    (h.stat u path)) : h.isDirectory u path = h.isDirectory t path := by
  rw [isDirectory, isDirectory, stat?, stat?]
  generalize h.stat t path = x at hs
  generalize h.stat u path = y at hs
  cases hs with
  | error e => rfl
  | ok hm => simp [Except.map, Metadata.isDirectory, hm]

/-- A cache is as fresh in one tree as in the other if its source is of the same time. -/
lemma ensureFresh_of_stat {header : CacheHeader} {origin : String}
    (hs : Alike (fun m m' => m'.mtimeLow = m.mtimeLow) (h.stat t path) (h.stat u path)) :
    h.ensureFresh u path header origin = h.ensureFresh t path header origin := by
  rw [ensureFresh, ensureFresh]
  generalize h.stat t path = x at hs
  generalize h.stat u path = y at hs
  cases hs with
  | error e => rfl
  | ok hm => simp only [hm]

/-- What is a file is reached and may be told about. -/
lemma of_isFile (hf : h.isFile t path = .ok true) :
    ∃ way id, h.relative path = .ok way ∧ h.require .fstat = .ok () ∧ h.reach t way = .ok id ∧
      (t.metadata id).isFile = true := by
  rw [isFile, stat?] at hf
  cases hs : h.stat t path with
  | error e =>
    rw [hs] at hf
    split at hf
    · next he => cases he
    · cases hf
    · next he =>
      split at hf <;> cases hf
    · cases hf
  | ok m =>
    obtain ⟨way, hway, hs'⟩ := Outcome.bind_eq_ok.1 hs
    obtain ⟨granted, hrequire, hs'⟩ := Outcome.bind_eq_ok.1 hs'
    obtain ⟨id, hid, hs'⟩ := Outcome.bind_eq_ok.1 hs'
    obtain rfl := Except.ok.inj hs'
    rw [hs] at hf
    exact ⟨way, id, hway, hrequire, hid, by simpa [Except.map] using hf⟩

/-- What is reached by the path of a way and may be told about is a file if its node is one. -/
lemma isFile_relativeText {id : NodeId} (hway : ∀ s ∈ way, IsName s)
    (hrequire : h.require .fstat = .ok ()) (hid : h.reach t way = .ok id) :
    h.isFile t (relativeText way) = .ok (t.metadata id).isFile := by
  have hstat : h.stat t (relativeText way) = .ok (t.metadata id) := by
    rw [stat, relative_relativeText hway]
    simp only [bind, Except.bind, hrequire, hid]
    rfl
  rw [isFile, stat?, hstat]
  rfl

end Handle

/-! ## Texts of ways -/

/-- The text of a way ends in the suffix of its last name. -/
lemma Path.exists_relativeText_concat (before : List String) (stem : String) :
    ∃ base, ∀ suffix, relativeText (before ++ [stem ++ suffix]) = base ++ suffix := by
  have htext (s : String) : relativeText (before ++ [s]) = joinNames (before ++ [s]) :=
    if_neg (by simp)
  rcases List.eq_nil_or_concat' before with rfl | ⟨_, _, hconcat⟩
  · refine ⟨stem, fun suffix => ?_⟩
    rw [htext]
    exact String.toList_injective (by simp [joinNames, Text.joinWith])
  · have hne : before ≠ [] := by simp [hconcat]
    refine ⟨joinNames before ++ "/" ++ stem, fun suffix => ?_⟩
    rw [htext]
    apply String.toList_injective
    simp [joinNames, Text.joinWith_append_singleton, hne]

/-- A text has a NUL in it if one of its parts has. -/
lemma holdsNul_append (a b : String) : holdsNul (a ++ b) = (holdsNul a || holdsNul b) := by
  simp [holdsNul, String.toList_append]

/-- The suffix of the last name does not tell whether a path holds a NUL. -/
lemma Path.holdsNul_concat (before : List String) (stem : String) {a b : String}
    (ha : holdsNul a = false) (hb : holdsNul b = false) :
    holdsNul (relativeText (before ++ [stem ++ a])) =
      holdsNul (relativeText (before ++ [stem ++ b])) := by
  obtain ⟨base, htext⟩ := exists_relativeText_concat before stem
  rw [htext, htext, holdsNul_append, holdsNul_append, ha, hb]

/-- A source has a shorter path than its cache. -/
lemma Path.utf8ByteSize_source_lt (before : List String) (stem : String) :
    (relativeText (before ++ [stem ++ ".src"])).utf8ByteSize <
      (relativeText (before ++ [stem ++ ".cache"])).utf8ByteSize := by
  obtain ⟨base, htext⟩ := exists_relativeText_concat before stem
  have hsizes : ".src".utf8ByteSize < ".cache".utf8ByteSize := by decide
  rw [htext, htext, String.utf8ByteSize_append, String.utf8ByteSize_append]
  exact Nat.add_lt_add_left hsizes _

/-- A name without a dot. -/
def Path.IsBare (s : String) : Prop :=
  IsName s ∧ '.' ∉ s.toList

/-- A text without slashes that does not begin with a dot is a name. -/
lemma Path.isName_of_head {s : String} {first : Char} (hfirst : s.toList.head? = some first)
    (hdot : first ≠ '.') (hslash : '/' ∉ s.toList) : IsName s := by
  refine ⟨?_, hslash⟩
  have hne (text : String) (htext : text.toList.head? ≠ some first) : s ≠ text := by
    rintro rfl
    exact htext hfirst
  simp [isOrdinary, isFiller, hne "" (by simp), hne "." (by simpa using hdot.symm),
    hne ".." (by simpa using hdot.symm)]

/-- A bare name begins with a character other than a dot. -/
lemma Path.IsBare.exists_head {s : String} (hs : IsBare s) :
    ∃ first, first ≠ '.' ∧ s.toList.head? = some first := by
  obtain ⟨first, more, hfirst⟩ := List.exists_cons_of_ne_nil hs.1.toList_ne_nil
  refine ⟨first, ?_, by rw [hfirst]; rfl⟩
  rintro rfl
  exact hs.2 (hfirst ▸ List.mem_cons_self ..)

/-- A bare name is a name with whatever suffix. -/
lemma Path.IsBare.isName_append {s suffix : String} (hs : IsBare s) (hslash : '/' ∉ suffix.toList) :
    IsName (s ++ suffix) := by
  obtain ⟨first, hdot, hfirst⟩ := hs.exists_head
  have hhead : (s ++ suffix).toList.head? = some first := by
    rw [String.toList_append, List.head?_append, hfirst]
    rfl
  exact isName_of_head hhead hdot (by simp [String.toList_append, hs.1.2, hslash])

/-- Names without dots, of which the last has a suffix. -/
lemma Path.isName_of_bare (hbefore : ∀ s ∈ before, IsBare s) (hstem : IsBare stem)
    (hslash : '/' ∉ suffix.toList) (hlong : 2 < suffix.length) :
    ∀ s ∈ before ++ [stem ++ suffix], IsName s := by
  simpa [or_imp, forall_and, isName_append hstem.1.2 hslash hlong] using
    fun s hs => (hbefore s hs).1

/-- The path of an initializer is that of the way through its directory. -/
lemma Path.join_eq_relativeText {s : String} (hs : IsName s) {name : String} (hname : IsName name)
    (suffix : String) :
    join s (name ++ suffix) = relativeText ([s] ++ [name ++ suffix]) := by
  rw [join_of_isName hs (hname.isAbsolute_append suffix)]
  exact String.toList_injective (by simp [relativeText, joinNames, Text.joinWith])

/-- The files that are looked for where there is no directory, by their ways. -/
lemma probes_default_of_not (tail : String) :
    probes {} tail false =
      [⟨.nativeLibrary, relativeText ([] ++ [tail ++ ".so"]), false⟩,
        ⟨.source, relativeText ([] ++ [tail ++ ".src"]), false⟩,
        ⟨.compiledCache, relativeText ([] ++ [tail ++ ".cache"]), false⟩] := by
  simp only [List.nil_append, Path.relativeText_singleton]
  rfl

/-- The files that are looked for where there is a directory, by their ways. -/
lemma probes_default (htail : IsName tail) :
    probes {} tail true =
      [⟨.nativeLibrary, relativeText ([] ++ [tail ++ ".so"]), false⟩,
        ⟨.nativeLibrary, relativeText ([tail] ++ ["__init__" ++ ".so"]), true⟩,
        ⟨.source, relativeText ([] ++ [tail ++ ".src"]), false⟩,
        ⟨.source, relativeText ([tail] ++ ["__init__" ++ ".src"]), true⟩,
        ⟨.compiledCache, relativeText ([] ++ [tail ++ ".cache"]), false⟩,
        ⟨.compiledCache, relativeText ([tail] ++ ["__init__" ++ ".cache"]), true⟩] := by
  have hinit : IsName "__init__" := ⟨by decide, by decide⟩
  simp only [← Path.join_eq_relativeText htail hinit, List.nil_append, Path.relativeText_singleton]
  rfl

/-- A short name for which files are looked for has no dot. -/
lemma isBare_short {name : String} (h : RootFinder.isSearchable (UnitName.short name)) :
    Path.IsBare (UnitName.short name) := by
  rw [RootFinder.isSearchable, Bool.and_eq_true] at h
  refine ⟨⟨h.1, by simpa using h.2⟩, ?_⟩
  rw [UnitName.short, String.toList_ofList, List.getLastD_eq_getLast?]
  cases hlast : (UnitName.segments name).getLast? with
  | none => simp
  | some segment =>
    exact UnitName.dot_not_mem_of_mem_segments (List.mem_of_getLast? hlast)

/-! ## Where a file is found -/

section Found

variable {f : RootFinder} {x : Artifact} {strategy : Strategy} {searchPath : Option (List String)}
  {p : Probe}

/-- What is written behind a relative path that is joined to another is behind the result. -/
lemma Path.join_append {base : String} (hp : isAbsolute path = false) (hne : path ≠ "")
    (rest : String) : join base (path ++ rest) = join base path ++ rest := by
  have hrelative : isAbsolute (path ++ rest) = false := by
    rw [isAbsolute, String.toList_append, List.head?_append_of_ne_nil _ (by simpa using hne)]
    exact hp
  rw [join, join, hp, hrelative]
  split
  · next habsolute => cases habsolute
  · split <;> simp only [String.append_assoc]

/-- A way taken from an absolute path goes on from there. -/
lemma Path.join_absoluteText_relativeText (hnames : ∀ n ∈ names, IsName n)
    (hway : ∀ s ∈ way, IsName s) (hne : way ≠ []) :
    join (absoluteText names) (relativeText way) = absoluteText (names ++ way) := by
  induction way using List.reverseRecOn with
  | nil => exact absurd rfl hne
  | append_singleton before s ih =>
    have hs : IsName s := hway s (by simp)
    by_cases hnil : before = []
    · subst hnil
      have hjoin := join_absoluteText hnames hs ""
      rw [String.append_empty, String.append_empty] at hjoin
      rw [List.nil_append, relativeText_singleton, hjoin]
    · have hbefore : ∀ s ∈ before, IsName s := fun s hs => hway s (by simp [hs])
      have htext : relativeText (before ++ [s]) = relativeText before ++ ("/" ++ s) := by
        rw [relativeText, relativeText, if_neg hnil, if_neg (by simp)]
        exact String.toList_injective (by simp [joinNames, Text.joinWith_append_singleton, hnil])
      rw [htext, join_append (isAbsolute_relativeText hbefore) (relativeText_ne_empty hbefore),
        ih hbefore hnil, ← List.append_assoc, absoluteText_append_singleton (by simp [hnil]),
        String.append_assoc]

/-- The probe that is the first with a file has one. -/
lemma isFile_of_firstFile {ps : List Probe} (hf : firstFile h t ps = .ok (some p)) :
    h.isFile t p.path = .ok true := by
  induction ps with
  | nil => simp [firstFile] at hf
  | cons q ps ih =>
    obtain ⟨there, hthere, hf⟩ := Outcome.bind_eq_ok.1 hf
    split at hf
    · next hyes =>
      obtain rfl := Option.some.inj (Except.ok.inj hf)
      rw [hthere, hyes]
    · exact ih hf

namespace RootFinder

/-- The directories that a finder looks in: its root, and those beneath it. -/
def LooksThrough (f : RootFinder) (t : Tree) (h : Handle) : Prop :=
  h = f.root ∨ ∃ entry, f.root.subdirectory t entry = .ok h

/-- An artifact that a finder found through a directory, by a way whose last name ends in the suffix
of its kind. -/
structure Found (f : RootFinder) (t : Tree) (x : Artifact) (before : List String)
    (stem suffix : String) : Prop where
  through : f.LooksThrough t x.directory
  names : ∀ s ∈ x.directory.name, IsName s
  bare : ∀ s ∈ before, Path.IsBare s
  bareStem : Path.IsBare stem
  path : x.path = relativeText (before ++ [stem ++ suffix])
  kind : (x.kind, suffix) ∈ ({} : SuffixRules).candidates
  isFile : x.directory.isFile t x.path = .ok true

/-- The way by which an artifact was found is made of names. -/
lemma Found.isName (hx : f.Found t x before stem suffix) :
    ∀ s ∈ before ++ [stem ++ suffix], IsName s := by
  have hsuffix : '/' ∉ suffix.toList ∧ 2 < suffix.length :=
    (by decide : ∀ c ∈ ({} : SuffixRules).candidates, '/' ∉ c.2.toList ∧ 2 < c.2.length) _ hx.kind
  exact Path.isName_of_bare hx.bare hx.bareStem hsuffix.1 hsuffix.2

/-- The origin of an artifact is the name of its directory and the way from there. -/
lemma Found.origin_eq (hx : f.Found t x before stem suffix) :
    x.origin = absoluteText (x.directory.name ++ (before ++ [stem ++ suffix])) := by
  rw [Artifact.origin, hx.path, Handle.nameText]
  exact Path.join_absoluteText_relativeText hx.names hx.isName (by simp)

/-- The path of an artifact that was found is the way to it. -/
lemma Found.relative_eq (hx : f.Found t x before stem suffix) :
    x.directory.relative x.path = .ok (before ++ [stem ++ suffix]) := by
  rw [hx.path]
  exact Handle.relative_relativeText hx.isName

/-- The directories that a finder looks in have the rights of its root. -/
lemma rights_of_looksThrough (hl : f.LooksThrough t h) : h.rights = f.root.rights := by
  rcases hl with rfl | ⟨entry, hsub⟩
  · rfl
  · obtain ⟨way, id, -, -, -, rfl⟩ := Handle.of_subdirectory hsub
    rfl

/-- A finder looks in directories that its root leads to. -/
lemma looksThrough_of_directories {hs : List Handle}
    (hd : f.directories t searchPath = .ok (some hs)) : ∀ h ∈ hs, f.LooksThrough t h := by
  cases searchPath with
  | none =>
    obtain rfl := Option.some.inj (Except.ok.inj hd)
    simpa using .inl rfl
  | some entries =>
    have hopens : List.Forall₂ _ entries hs := directories_eq_ok_iff.1 hd
    clear hd
    induction hopens with
    | nil => simp
    | cons hsub _ ih => exact List.forall_mem_cons.2 ⟨.inr ⟨_, hsub⟩, ih⟩

/-- A finder with an opened root looks through opened handles. -/
lemma LooksThrough.opened (ho : f.root.Opened) (hl : f.LooksThrough t h) : h.Opened := by
  rcases hl with rfl | ⟨entry, hsub⟩
  · exact ho
  · exact ho.subdirectory hsub

/-- A file that is looked for is named by a way. -/
lemma way_of_mem_probes {hasDirectory : Bool} (htail : Path.IsBare tail)
    (hp : p ∈ probes {} tail hasDirectory) :
    ∃ before stem suffix, (∀ s ∈ before, Path.IsBare s) ∧ Path.IsBare stem ∧
      p.path = relativeText (before ++ [stem ++ suffix]) ∧
      (p.kind, suffix) ∈ ({} : SuffixRules).candidates := by
  have hinit : Path.IsBare "__init__" := ⟨⟨by decide, by decide⟩, by decide⟩
  obtain ⟨c, hc, hp⟩ := List.mem_flatMap.1 hp
  rcases List.mem_cons.1 hp with rfl | hp
  · exact ⟨[], tail, c.2, by simp, htail, (Path.relativeText_singleton _).symm, hc⟩
  · split at hp
    · obtain rfl := List.mem_singleton.1 hp
      exact ⟨[tail], "__init__", c.2, by simpa using htail, hinit,
        Path.join_eq_relativeText htail.1 hinit.1 c.2, hc⟩
    · cases hp

/-- What is found in directories is the first file in one of them. -/
lemma firstFile_of_search {rules : SuffixRules} {hs : List Handle} {found : List String}
    (hr : search rules t name tail hs found = .ok (some (.artifact x strategy))) :
    ∃ h ∈ hs, ∃ hasDirectory p, firstFile h t (probes rules tail hasDirectory) = .ok (some p) ∧
      bind rules name tail h p = .artifact x strategy := by
  induction hs generalizing found with
  | nil =>
    have hr := Except.ok.inj hr
    split at hr <;> cases hr
  | cons h hs ih =>
    obtain ⟨hasDirectory, -, hr⟩ := Outcome.bind_eq_ok.1 hr
    obtain ⟨p?, hp, hr⟩ := Outcome.bind_eq_ok.1 hr
    cases p? with
    | some p =>
      exact ⟨h, List.mem_cons_self .., hasDirectory, p, hp, Option.some.inj (Except.ok.inj hr)⟩
    | none =>
      obtain ⟨h', hmem, hfound⟩ := ih hr
      exact ⟨h', List.mem_cons_of_mem h hmem, hfound⟩

/-- What a search finds is bound at a probe with a file, in one of the directories that were
searched. -/
lemma found_of_search {rules : SuffixRules} {hs : List Handle} {found : List String}
    (hr : search rules t name tail hs found = .ok (some (.artifact x strategy))) :
    ∃ h ∈ hs, ∃ hasDirectory, ∃ p ∈ probes rules tail hasDirectory,
      h.isFile t p.path = .ok true ∧ bind rules name tail h p = .artifact x strategy := by
  obtain ⟨h, hmem, hasDirectory, p, hp, hbind⟩ := firstFile_of_search hr
  exact ⟨h, hmem, hasDirectory, p, mem_of_firstFile hp, isFile_of_firstFile hp, hbind⟩

/-- What a finder with the default rules finds, it found by a way, and it is loaded in the way of
its kind. -/
theorem found_of_resolve (hrules : f.rules = {}) (ho : f.root.Opened)
    (hr : f.resolve t name searchPath = .ok (some (.artifact x strategy))) :
    strategy = .forArtifact {} x.kind x.path ∧
      ∃ before stem suffix, f.Found t x before stem suffix := by
  unfold resolve at hr
  extract_lets tail at hr
  split at hr
  · next hsearchable =>
    obtain ⟨hs?, hd, hr⟩ := Outcome.bind_eq_ok.1 hr
    cases hs? with
    | none => cases hr
    | some hs =>
      rw [hrules] at hr
      obtain ⟨h, hmem, hasDirectory, p, hp, hfile, hbind⟩ := found_of_search hr
      have hthrough := looksThrough_of_directories hd h hmem
      obtain ⟨before, stem, suffix, hbefore, hstem, hpath, hkind⟩ :=
        way_of_mem_probes (isBare_short hsearchable) hp
      rw [bind] at hbind
      cases hbind
      exact ⟨rfl, before, stem, suffix, hthrough, (hthrough.opened ho).isName, hbefore, hstem,
        hpath, hkind, hfile⟩
  · cases hr

end RootFinder

end Found

end UnitLoader
