import Mathlib.Data.Prod.Lex
import Mathlib.Order.Bounds.Basic
import UnitLoader.Proofs.Chain
import UnitLoader.Proofs.Handle.Descent

/-!
# Which file is found

Of all files for a unit the one at the least place is found: in the first directory of the search
path, then with the first suffix, then beside the unit's directory rather than in it. Directories of
the unit's name are the answer if there is no such file anywhere.

## Main definitions

* `UnitLoader.positions` — the places in a list, and at each of them, in lexicographic order.
* `UnitLoader.SuffixRules.filePositions` — the places in directories at which there is a file.

## Main results

* `UnitLoader.Handle.hasDirectory_of_hasFile` — an initializer is in a directory.
* `UnitLoader.RootFinder.resolve_isLeast` — the file at the least place is found, or the directories.
-/

set_option relaxedAutoImplicit false
set_option autoImplicit false

namespace UnitLoader

open UnitName (short)

/-! ## The least place in a list -/

section Positions

variable {α β : Type} {a : α} {l : List α} {S : α → Set β} {i : ℕ} {b : β}

/-- The places in a list, each with the places at its element. -/
def positions (l : List α) (S : α → Set β) : Set (ℕ ×ₗ β) :=
  {r | ∃ a, l[(ofLex r).1]? = some a ∧ (ofLex r).2 ∈ S a}

/-- The places in a longer list are those at its first element, and those in the rest one further
on. -/
lemma positions_cons (a : α) (l : List α) (S : α → Set β) :
    positions (a :: l) S =
      {r | ((ofLex r).1 = 0 ∧ (ofLex r).2 ∈ S a) ∨
        ∃ i, (ofLex r).1 = i + 1 ∧ toLex (i, (ofLex r).2) ∈ positions l S} := by
  ext r
  simp only [positions, Set.mem_ofPred_eq, ofLex_toLex]
  cases (ofLex r).1 <;> simp

/-- If there are no places at an element and none in the rest, there are none. -/
lemma positions_cons_of_empty (ha : S a = ∅) (hl : positions l S = ∅) :
    positions (a :: l) S = ∅ := by
  simp [positions_cons, ha, hl]

variable [LinearOrder β]

/-- The least place at the first element is the least of all. -/
lemma isLeast_positions_cons (hb : IsLeast (S a) b) :
    IsLeast (positions (a :: l) S) (toLex (0, b)) := by
  rw [positions_cons]
  refine ⟨.inl ⟨rfl, hb.1⟩, fun r hr => Prod.Lex.le_iff.2 ?_⟩
  rcases hr with ⟨hzero, hr⟩ | ⟨i, hi, -⟩
  · exact .inr ⟨hzero.symm, hb.2 hr⟩
  · exact .inl (hi ▸ Nat.succ_pos i)

/-- If there is no place at the first element, the least place among the others is the least. -/
lemma isLeast_positions_cons_of_empty (ha : S a = ∅) (hb : IsLeast (positions l S) (toLex (i, b))) :
    IsLeast (positions (a :: l) S) (toLex (i + 1, b)) := by
  rw [positions_cons]
  refine ⟨.inr ⟨i, rfl, hb.1⟩, fun r hr => Prod.Lex.le_iff.2 ?_⟩
  rcases hr with ⟨-, hr⟩ | ⟨k, hk, hr⟩
  · exact absurd (ha ▸ hr) (Set.notMem_empty _)
  · rw [hk]
    exact (Prod.Lex.le_iff.1 (hb.2 hr)).imp Nat.succ_lt_succ (And.imp_left (congrArg Nat.succ))

end Positions

/-! ## What is there -/

namespace Handle

/-- A path leads to a file. -/
def hasFile (h : Handle) (t : Tree) (path : String) : Bool :=
  (h.stat t path).toOption.any Metadata.isFile

/-- A path leads to a directory. -/
def hasDirectory (h : Handle) (t : Tree) (path : String) : Bool :=
  (h.stat t path).toOption.any Metadata.isDirectory

variable {h : Handle} {t : Tree} {path : String}

/-- A test holds of what is told if something is told and it holds of that. -/
lemma any_stat_iff {f : Metadata → Bool} :
    (h.stat t path).toOption.any f = true ↔ ∃ m, h.stat t path = .ok m ∧ f m = true := by
  cases h.stat t path <;> simp [Except.toOption]

/-- A question is affirmed about what is told about. -/
lemma map_stat?_eq_ok_true_iff {f : Metadata → Bool} :
    (h.stat? t path).map (·.any f) = .ok true ↔ ∃ m, h.stat t path = .ok m ∧ f m = true := by
  simp only [← stat?_eq_ok_some]
  cases h.stat? t path with
  | error e => simp [Except.map]
  | ok m? => cases m? <;> simp [Except.map]

/-- Where telling does not fail, what is told is known, be it absence. -/
lemma stat?_of_isOk (ha : (h.stat? t path).isOk) :
    h.stat? t path = .ok (h.stat t path).toOption := by
  cases hs : h.stat? t path with
  | error e =>
    rw [hs] at ha
    cases ha
  | ok m? =>
    cases hstat : h.stat t path with
    | ok m => rw [← hs, stat?_eq_ok_some.2 hstat]; rfl
    | error e =>
      cases m? with
      | none => rfl
      | some m =>
        rw [stat?_eq_ok_some.1 hs] at hstat
        cases hstat

/-- Where telling does not fail, it is known whether there is a file. -/
lemma isFile_of_isOk (ha : (h.stat? t path).isOk) : h.isFile t path = .ok (h.hasFile t path) := by
  rw [isFile, stat?_of_isOk ha, hasFile]
  rfl

/-- Where telling does not fail, it is known whether there is a directory. -/
lemma isDirectory_of_isOk (ha : (h.stat? t path).isOk) :
    h.isDirectory t path = .ok (h.hasDirectory t path) := by
  rw [isDirectory, stat?_of_isOk ha, hasDirectory]
  rfl

end Handle

/-- A directory is told about as one. -/
lemma Tree.isDirectory_metadata {t : Tree} {id : NodeId} (hd : t.isDirectory id = true) :
    (t.metadata id).isDirectory = true := by
  rw [isDirectory] at hd
  rw [metadata]
  split at hd
  · next parent entries mtime hnode =>
    rw [hnode]
    rfl
  · cases hd

/-! ## Files for a unit -/

section Files

variable {rules : SuffixRules} {h : Handle} {t : Tree} {tail : String} {p : Probe}
  {c : ArtifactKind × String} {hasDirectory : Bool}

/-- The file that is looked for with a suffix: beside the directory of a unit, or in it. -/
def SuffixRules.probe (rules : SuffixRules) (tail : String) (c : ArtifactKind × String)
    (inDirectory : Bool) : Probe :=
  ⟨c.1, if inDirectory then Path.join tail (rules.initializer ++ c.2) else tail ++ c.2, inDirectory⟩

/-- On which side there is a file for a unit: beside its directory, or in it. -/
def SuffixRules.sidesWithFile (rules : SuffixRules) (h : Handle) (t : Tree) (tail : String)
    (c : ArtifactKind × String) : Set Bool :=
  {inDirectory | h.hasFile t (rules.probe tail c inDirectory).path = true}

/-- The places at which there is a file for a unit: in which directory, with which suffix, and on
which side. -/
def SuffixRules.filePositions (rules : SuffixRules) (t : Tree) (tail : String) (hs : List Handle) :
    Set (ℕ ×ₗ ℕ ×ₗ Bool) :=
  positions hs fun h => positions rules.candidates (rules.sidesWithFile h t tail)

/-- All that is asked in a directory about a unit is told: what is there, or that nothing is. -/
structure Handle.Answers (h : Handle) (t : Tree) (rules : SuffixRules) (tail : String) : Prop where
  directory : (h.stat? t tail).isOk
  beside : ∀ c ∈ rules.candidates, (h.stat? t (rules.probe tail c false).path).isOk
  inside : h.hasDirectory t tail = true →
    ∀ c ∈ rules.candidates, (h.stat? t (rules.probe tail c true).path).isOk

/-- The initializer of checked rules is a bare name. -/
lemma SuffixRules.Checked.isBare_initializer (hc : rules.Checked) :
    Path.IsBare rules.initializer := by
  have hinitializer := hc.isInitializer
  simp only [Settings.isInitializer, Bool.and_eq_true, decide_eq_true_eq] at hinitializer
  exact ⟨hc.isName_initializer, hinitializer.2⟩

/-- A suffix begins with a dot, and has no slash. -/
lemma SuffixRules.Checked.suffix (hc : rules.Checked) (hmem : c ∈ rules.candidates) :
    c.2.toList.head? = some '.' ∧ '/' ∉ c.2.toList := by
  have hsuffix := hc.isSuffix hmem
  simp only [Settings.isSuffix, Bool.and_eq_true, decide_eq_true_eq] at hsuffix
  exact ⟨hsuffix.1.2, hsuffix.2⟩

/-- The name of an initializer with a suffix is a name. -/
lemma SuffixRules.Checked.isName_initializer_append (hc : rules.Checked)
    (hmem : c ∈ rules.candidates) : Path.IsName (rules.initializer ++ c.2) :=
  hc.isBare_initializer.isName_append (hc.suffix hmem).2

/-- A file in the directory of a unit is in a directory. -/
lemma Handle.hasDirectory_of_hasFile (hc : rules.Checked) (htail : Path.IsName tail)
    (hmem : c ∈ rules.candidates) (hf : h.hasFile t (rules.probe tail c true).path = true) :
    h.hasDirectory t tail = true := by
  have hinit := hc.isName_initializer_append hmem
  have hpath : (rules.probe tail c true).path =
      Path.relativeText ([tail] ++ [rules.initializer ++ c.2]) :=
    Path.join_eq_relativeText htail hc.isName_initializer c.2
  obtain ⟨m, hm, -⟩ := any_stat_iff.1 hf
  obtain ⟨way, id, hway, hgrants, hid, -⟩ := stat_eq_ok_iff.1 hm
  rw [hpath, relative_relativeText (by simpa using ⟨htail, hinit⟩)] at hway
  obtain rfl := Except.ok.inj hway
  obtain ⟨mid, hmid, hdirectory, -⟩ :=
    exists_of_reach_append (by simpa using htail) (by simpa using hinit) (by simp) hid
  have hstat : h.stat t tail = .ok (t.metadata mid) :=
    stat_eq_ok_iff.2 ⟨[tail], mid, relative_of_isName htail, hgrants, hmid, rfl⟩
  exact any_stat_iff.2 ⟨_, hstat, Tree.isDirectory_metadata hdirectory⟩

/-! ## The loops -/

/-- A probe is the first with a file if it has one; if not, the others are asked. -/
lemma firstFile_cons {ps : List Probe} (ha : (h.stat? t p.path).isOk) :
    firstFile h t (p :: ps) =
      if h.hasFile t p.path = true then .ok (some p) else firstFile h t ps := by
  rw [firstFile, Handle.isFile_of_isOk ha]
  rfl

/-- The files that are looked for with one suffix. -/
def SuffixRules.probesWith (rules : SuffixRules) (tail : String) (hasDirectory : Bool)
    (c : ArtifactKind × String) : List Probe :=
  rules.probe tail c false :: if hasDirectory then [rules.probe tail c true] else []

/-- With one suffix, a file beside the directory comes before one in it. -/
lemma firstFile_probesWith (hbeside : (h.stat? t (rules.probe tail c false).path).isOk)
    (hinside : hasDirectory = true → (h.stat? t (rules.probe tail c true).path).isOk)
    (hdirectory : h.hasFile t (rules.probe tail c true).path = true → hasDirectory = true)
    (ps : List Probe) :
    (∃ b, IsLeast (rules.sidesWithFile h t tail c) b ∧
      firstFile h t (rules.probesWith tail hasDirectory c ++ ps) =
        .ok (some (rules.probe tail c b))) ∨
    (rules.sidesWithFile h t tail c = ∅ ∧
      firstFile h t (rules.probesWith tail hasDirectory c ++ ps) = firstFile h t ps) := by
  rw [SuffixRules.probesWith, List.cons_append, firstFile_cons hbeside]
  by_cases hflat : h.hasFile t (rules.probe tail c false).path = true
  · exact .inl ⟨false, ⟨hflat, fun _ _ => Bool.false_le _⟩, if_pos hflat⟩
  rw [if_neg hflat]
  by_cases hinit : h.hasFile t (rules.probe tail c true).path = true
  · obtain rfl := hdirectory hinit
    refine .inl ⟨true, ⟨hinit, fun b hb => ?_⟩, ?_⟩
    · cases b with
      | false => exact absurd hb hflat
      | true => exact le_rfl
    · rw [if_pos rfl, List.singleton_append, firstFile_cons (hinside rfl), if_pos hinit]
  · refine .inr ⟨?_, ?_⟩
    · ext b
      cases b <;> simp [SuffixRules.sidesWithFile, hflat, hinit]
    · cases hasDirectory with
      | false => rfl
      | true => rw [if_pos rfl, List.singleton_append, firstFile_cons (hinside rfl), if_neg hinit]

/-- In one directory, the file with the first suffix is found. -/
lemma firstFile_flatMap_probesWith {cs : List (ArtifactKind × String)}
    (hbeside : ∀ c ∈ cs, (h.stat? t (rules.probe tail c false).path).isOk)
    (hinside : hasDirectory = true → ∀ c ∈ cs, (h.stat? t (rules.probe tail c true).path).isOk)
    (hdirectory : ∀ c ∈ cs, h.hasFile t (rules.probe tail c true).path = true →
      hasDirectory = true) :
    (∃ j b c, IsLeast (positions cs (rules.sidesWithFile h t tail)) (toLex (j, b)) ∧
      cs[j]? = some c ∧ firstFile h t (cs.flatMap (rules.probesWith tail hasDirectory)) =
        .ok (some (rules.probe tail c b))) ∨
    (positions cs (rules.sidesWithFile h t tail) = ∅ ∧
      firstFile h t (cs.flatMap (rules.probesWith tail hasDirectory)) = .ok none) := by
  induction cs with
  | nil => exact .inr ⟨by simp [positions], rfl⟩
  | cons c cs ih =>
    obtain ⟨hc, hbeside⟩ := List.forall_mem_cons.1 hbeside
    obtain ⟨hc', hdirectory⟩ := List.forall_mem_cons.1 hdirectory
    rw [List.flatMap_cons]
    rcases firstFile_probesWith hc (fun hd => hinside hd c (List.mem_cons_self ..)) hc'
      (cs.flatMap (rules.probesWith tail hasDirectory)) with ⟨b, hb, hfirst⟩ | ⟨hempty, hfirst⟩
    · exact .inl ⟨0, b, c, isLeast_positions_cons hb, rfl, hfirst⟩
    rw [hfirst]
    rcases ih hbeside (fun hd => (List.forall_mem_cons.1 (hinside hd)).2) hdirectory with
      ⟨j, b, c', hleast, hget, hfirst'⟩ | ⟨hnone, hfirst'⟩
    · exact .inl ⟨j + 1, b, c', isLeast_positions_cons_of_empty hempty hleast, hget, hfirst'⟩
    · exact .inr ⟨positions_cons_of_empty hempty hnone, hfirst'⟩

namespace RootFinder

/-- The locations of the directories of a unit's name. -/
def locations (t : Tree) (tail : String) (hs : List Handle) : List String :=
  (hs.filter (·.hasDirectory t tail)).map (location · tail)

section

variable {name : String} {hs : List Handle} {found : List String}
  (hd : h.isDirectory t tail = .ok hasDirectory)

include hd

/-- The first directory in which there is a file decides. -/
lemma search_cons_of_some (hf : firstFile h t (probes rules tail hasDirectory) = .ok (some p)) :
    search rules t name tail (h :: hs) found = .ok (some (bind rules name tail h p)) := by
  rw [search, hd]
  simp only [Bind.bind, Except.bind]
  rw [hf]
  rfl

/-- A directory without a file is kept in mind, if the unit has a directory there. -/
lemma search_cons_of_none (hf : firstFile h t (probes rules tail hasDirectory) = .ok none) :
    search rules t name tail (h :: hs) found = search rules t name tail hs
      (if hasDirectory then found ++ [location h tail] else found) := by
  rw [search, hd]
  simp only [Bind.bind, Except.bind]
  rw [hf]

end

/-- In directories one after the other, the file at the least place is found, or all directories of
the unit's name are, after those that were found before. -/
lemma search_isLeast (name : String) {hs : List Handle} (hc : rules.Checked)
    (htail : Path.IsName tail) (hanswers : ∀ h ∈ hs, h.Answers t rules tail) (found : List String) :
    (∃ i j b h c, IsLeast (rules.filePositions t tail hs) (toLex (i, toLex (j, b))) ∧
      hs[i]? = some h ∧ rules.candidates[j]? = some c ∧
      search rules t name tail hs found =
        .ok (some (bind rules name tail h (rules.probe tail c b)))) ∨
    (rules.filePositions t tail hs = ∅ ∧
      search rules t name tail hs found =
        .ok (if found ++ locations t tail hs = [] then none
          else some (.portions name (found ++ locations t tail hs)))) := by
  induction hs generalizing found with
  | nil => exact .inr ⟨by simp [SuffixRules.filePositions, positions], by simp [locations, search]⟩
  | cons h hs ih =>
    obtain ⟨hh, hanswers⟩ := List.forall_mem_cons.1 hanswers
    have hfirst := firstFile_flatMap_probesWith hh.beside hh.inside fun c hmem =>
      Handle.hasDirectory_of_hasFile hc htail hmem
    have hprobes : rules.candidates.flatMap (rules.probesWith tail (h.hasDirectory t tail)) =
        probes rules tail (h.hasDirectory t tail) := rfl
    rw [hprobes] at hfirst
    have hdirectory := Handle.isDirectory_of_isOk hh.directory
    -- A file in the first directory comes before all others; without one, each place is one more.
    rcases hfirst with ⟨j, b, c, hleast, hget, hfirst⟩ | ⟨hempty, hfirst⟩
    · exact .inl ⟨0, j, b, h, c, isLeast_positions_cons hleast, rfl, hget,
        search_cons_of_some hdirectory hfirst⟩
    rw [search_cons_of_none hdirectory hfirst]
    have hlocations : (if h.hasDirectory t tail then found ++ [location h tail] else found) ++
        locations t tail hs = found ++ locations t tail (h :: hs) := by
      cases hd : h.hasDirectory t tail <;> simp [locations, hd]
    rcases ih hanswers (if h.hasDirectory t tail then found ++ [location h tail] else found) with
      ⟨i, j, b, h', c, hleast, hh', hget, hlater⟩ | ⟨hnone, hlater⟩
    · exact .inl ⟨i + 1, j, b, h', c, isLeast_positions_cons_of_empty hempty hleast, hh', hget,
        hlater⟩
    · rw [hlocations] at hlater
      exact .inr ⟨positions_cons_of_empty hempty hnone, hlater⟩

end RootFinder

end Files

/-! ## The file at the least place -/

/-- A tree with two directories that each hold a directory `u`. In the second there are an
initializer and a child in that directory and a cache beside it. -/
def Tree.layered : Tree :=
  ⟨[.directory 0 (.ofList [("a", 1), ("b", 2)]) 0, .directory 0 (.ofList [("u", 3)]) 0,
    .directory 0 (.ofList [("u", 4), ("u.cache", 7)]) 0, .directory 1 .empty 0,
    .directory 2 (.ofList [("__init__.src", 5), ("c.src", 6)]) 0, .file (.bytes [0x23]) 0,
    .file (.bytes [0x23]) 0, .file (.bytes [0x24]) 0]⟩

namespace RootFinder

variable {f : RootFinder} {t : Tree} {hs : List Handle} {searchPath : Option (List String)}

/-- What is found is what a search through the directories finds, if the name can be looked for. -/
lemma resolve_of_directories {name : String} (hd : f.directories t searchPath = .ok (some hs)) :
    f.resolve t name searchPath =
      if isSearchable (short name) then search f.rules t name (short name) hs [] else .ok none := by
  rw [resolve, hd]
  rfl

/-- The file at the least place is found: in the first directory of the search path where there is
one, with the first suffix that one of these has, and beside the directory of the unit rather than
in it. If there is no such file, all directories of the unit's name are found, in order, and nothing
if there is none of these either. Every question has to be answered, be it that nothing is there.

**Proof sketch.** Each of the three choices takes the first alternative at which there is something.
So the place is the least of its directory and suffix, then of the directory, then of all. -/
theorem resolve_isLeast (f : RootFinder) (t : Tree) (name : String)
    (searchPath : Option (List String)) (hs : List Handle) (hc : f.rules.Checked)
    (htail : Path.IsName (short name)) (hopens : f.OpensAll t hs searchPath)
    (hanswers : ∀ h ∈ hs, h.Answers t f.rules (short name)) :
    (∃ i j inside h c,
      IsLeast (f.rules.filePositions t (short name) hs) (toLex (i, toLex (j, inside))) ∧
      hs[i]? = some h ∧ f.rules.candidates[j]? = some c ∧
      f.resolve t name searchPath = .ok (some (.artifact
        ⟨name, h, (f.rules.probe (short name) c inside).path, c.1,
          if inside then some [location h (short name)] else none⟩
        (.forArtifact f.rules c.1 (f.rules.probe (short name) c inside).path)))) ∨
    (f.rules.filePositions t (short name) hs = ∅ ∧
      f.resolve t name searchPath =
        .ok (if locations t (short name) hs = [] then none
          else some (.portions name (locations t (short name) hs)))) := by
  have hsearchable : isSearchable (short name) = true := by
    simp [isSearchable, htail.1, htail.2]
  have hfound := search_isLeast name hc htail hanswers []
  simp only [List.nil_append] at hfound
  rw [resolve_of_directories (directories_eq_ok_iff.2 hopens), if_pos hsearchable]
  exact hfound

/-- An initializer in the second directory is found, although there is a cache beside the directory
that it is in, because sources come before caches. -/
theorem resolve_isLeast_layered :
    let t : Tree := .layered
    let f : RootFinder := { root := ⟨[], some 0, none⟩, rules := {} }
    let hs : List Handle := [⟨["a"], some 1, none⟩, ⟨["b"], some 2, none⟩]
    f.rules.Checked ∧ Path.IsName (short "ns.u") ∧ f.OpensAll t hs (some ["a", "/./b"]) ∧
      (∀ h ∈ hs, h.Answers t f.rules (short "ns.u")) ∧
      toLex (1, toLex (2, false)) ∈ f.rules.filePositions t (short "ns.u") hs ∧
      ∃ i j inside, IsLeast (f.rules.filePositions t (short "ns.u") hs)
        (toLex (i, toLex (j, inside))) ∧
      f.resolve t "ns.u" (some ["a", "/./b"]) = .ok (some (.artifact
        ⟨"ns.u", ⟨["b"], some 2, none⟩, "u/__init__.src", .source, some ["/b/u"]⟩
        (.cacheThenSource "u/__init__.cache"))) := by
  intro t f hs
  have hc : f.rules.Checked := ⟨{}, by decide, rfl⟩
  have htail : Path.IsName (short "ns.u") := ⟨by decide, by decide⟩
  have hopens : f.OpensAll t hs (some ["a", "/./b"]) :=
    directories_eq_ok_iff.1 (by decide +kernel)
  have hanswers : ∀ h ∈ hs, h.Answers t f.rules (short "ns.u") := by
    simp only [hs, List.forall_mem_cons]
    exact ⟨⟨by decide +kernel, by decide +kernel, by decide +kernel⟩,
      ⟨by decide +kernel, by decide +kernel, by decide +kernel⟩, nofun⟩
  have hfile : Handle.hasFile ⟨["b"], some 2, none⟩ t "u.cache" = true := by decide +kernel
  have hcache : toLex (1, toLex (2, false)) ∈ f.rules.filePositions t (short "ns.u") hs :=
    ⟨⟨["b"], some 2, none⟩, rfl, (.compiledCache, ".cache"), rfl, hfile⟩
  refine ⟨hc, htail, hopens, hanswers, hcache, ?_⟩
  rcases resolve_isLeast f t "ns.u" (some ["a", "/./b"]) hs hc htail hopens hanswers with
    ⟨i, j, inside, -, -, hleast, -⟩ | ⟨hempty, -⟩
  · exact ⟨i, j, inside, hleast, by decide +kernel⟩
  · rw [hempty] at hcache
    cases hcache

end RootFinder

end UnitLoader
