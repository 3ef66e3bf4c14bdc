import UnitLoader.Proofs.Chain
import UnitLoader.Proofs.Setup.Install

/-!
# What installed roots find

Installed roots find what the same roots find by path. The handles that are kept have limited
rights, and of several roots with one name only the first is kept. The first does not matter to
lookups that need no other rights. The second does not matter as long as a name stands for one
directory only: a name is a normal form, and takes a step up from a link back to where the link is,
while the path itself leads up from where the link leads.

## Main definitions

* `UnitLoader.Handle.unlimited`, `UnitLoader.Resolution.unlimited` — without limits.
* `UnitLoader.Ambient.TellsApart` — no name stands for two directories.

## Main results

* `UnitLoader.RootFinder.resolve_unlimited` — rights that are granted do not show in what is found.
* `UnitLoader.OpenedRoots.findAmbient_eq` — roots that were skipped do not show either.
* `UnitLoader.find_install` — installed roots find what the same roots find by path.
-/

set_option relaxedAutoImplicit false
set_option autoImplicit false

namespace UnitLoader

variable {a : Ambient} {t : Tree} {name tail : String} {searchPath : Option (List String)}
  {rules : SuffixRules} {limits : List Rights} {roots : List String}

/-! ## Handles without limits -/

namespace Handle

variable {h : Handle}

/-- The handle without limits. -/
def unlimited (h : Handle) : Handle :=
  { h with rights := none }

/-- A right that no limit takes away is granted. -/
lemma grants_of_foldl_narrow {r : Right} (hr : h.rights = limits.foldl narrow none)
    (hlimits : ∀ limit ∈ limits, limit.has r) : h.grants r := by
  rw [grants, hr, all_has_foldl_narrow]
  exact ⟨rfl, hlimits⟩

/-- A right that is granted can be required. -/
lemma require_of_grants {r : Right} (hg : h.grants r) : h.require r = .ok () :=
  if_pos hg

/-- The same is told through a handle that grants to be told about files. -/
lemma stat_unlimited (hg : h.grants .fstat) (t : Tree) (path : String) :
    h.unlimited.stat t path = h.stat t path := by
  rw [stat, stat, require_of_grants hg]
  rfl

/-- A path is a file through the handle without limits if it is one through a handle that grants to
be told. -/
lemma isFile_unlimited (hg : h.grants .fstat) (t : Tree) (path : String) :
    h.unlimited.isFile t path = h.isFile t path := by
  rw [isFile, isFile, stat?, stat?, stat_unlimited hg]

/-- A path is a directory through the handle without limits if it is one through a handle that
grants to be told. -/
lemma isDirectory_unlimited (hg : h.grants .fstat) (t : Tree) (path : String) :
    h.unlimited.isDirectory t path = h.isDirectory t path := by
  rw [isDirectory, isDirectory, stat?, stat?, stat_unlimited hg]

/-- The same probe is the first with a file for the handle without limits. -/
lemma firstFile_unlimited (hg : h.grants .fstat) (t : Tree) (ps : List Probe) :
    firstFile h.unlimited t ps = firstFile h t ps := by
  induction ps with
  | nil => rfl
  | cons p ps ih => rw [firstFile, firstFile, isFile_unlimited hg, ih]

/-- The same directories are opened through a handle that grants to look names up. -/
lemma subdirectory_unlimited (hg : h.grants .lookup) (t : Tree) (path : String) :
    h.unlimited.subdirectory t path = (h.subdirectory t path).map unlimited := by
  have hrelative : h.unlimited.relative path = h.relative path := rfl
  have hreach : ∀ way, h.unlimited.reachToOpen t way = h.reachToOpen t way := fun way => by
    rw [reachToOpen, reachToOpen, require_of_grants hg]
    rfl
  rw [subdirectory, subdirectory, hrelative]
  cases h.relative path with
  | error e => rfl
  | ok way =>
    simp only [bind, Except.bind, hreach]
    cases h.reachToOpen t way with
    | error e => rfl
    | ok id =>
      dsimp only
      split <;> rfl

end Handle

/-- The resolution with the directory of an artifact without limits. -/
def Resolution.unlimited : Resolution → Resolution
  | .artifact x strategy => .artifact { x with directory := x.directory.unlimited } strategy
  | .portions name locations => .portions name locations

namespace RootFinder

variable {f : RootFinder}

/-- The finder with its root without limits. -/
def unlimited (f : RootFinder) : RootFinder :=
  { f with root := f.root.unlimited }

/-- Handles on directories beneath a root without limits. -/
lemma open_unlimited (hg : f.root.grants .lookup) (t : Tree) (entries : List String) :
    directories.open_ f.unlimited t entries =
      (directories.open_ f t entries).map (Option.map (List.map Handle.unlimited)) := by
  induction entries with
  | nil => rfl
  | cons entry entries ih =>
    have hsub : f.unlimited.root.subdirectory t entry =
        (f.root.subdirectory t entry).map Handle.unlimited :=
      Handle.subdirectory_unlimited hg t entry
    rw [directories.open_, directories.open_, hsub, ih]
    cases f.root.subdirectory t entry with
    | error e => cases e <;> rfl
    | ok h =>
      cases directories.open_ f t entries with
      | error e => rfl
      | ok hs? => cases hs? <;> rfl

/-- The same directories are opened without limits. -/
lemma directories_unlimited (hg : f.root.grants .lookup) (t : Tree)
    (searchPath : Option (List String)) :
    f.unlimited.directories t searchPath =
      (f.directories t searchPath).map (Option.map (List.map Handle.unlimited)) := by
  cases searchPath with
  | none => rfl
  | some entries => exact open_unlimited hg t entries

/-- The same is found by a search without limits, in handles without them. -/
lemma search_unlimited {hs : List Handle} (hg : ∀ h ∈ hs, h.grants .fstat) (found : List String) :
    search rules t name tail (hs.map Handle.unlimited) found =
      (search rules t name tail hs found).map (Option.map Resolution.unlimited) := by
  induction hs generalizing found with
  | nil =>
    rw [List.map_nil, search]
    split <;> rfl
  | cons h hs ih =>
    obtain ⟨hgh, hghs⟩ := List.forall_mem_cons.1 hg
    rw [List.map_cons, search, search, Handle.isDirectory_unlimited hgh]
    cases h.isDirectory t tail with
    | error e => rfl
    | ok hasDirectory =>
      simp only [Bind.bind, Except.bind, Handle.firstFile_unlimited hgh]
      cases firstFile h t (probes rules tail hasDirectory) with
      | error e => rfl
      | ok p? =>
        cases p? with
        | some p => rfl
        | none => exact ih hghs _

/-- Rights that are granted do not show in what is found. -/
theorem resolve_unlimited (hlookup : f.root.grants .lookup) (hfstat : f.root.grants .fstat)
    (t : Tree) (name : String) (searchPath : Option (List String)) :
    f.unlimited.resolve t name searchPath =
      (f.resolve t name searchPath).map (Option.map Resolution.unlimited) := by
  unfold resolve
  extract_lets tail
  split
  · rw [directories_unlimited hlookup]
    cases hd : f.directories t searchPath with
    | error e => rfl
    | ok hs? =>
      cases hs? with
      | none => rfl
      | some hs =>
        refine search_unlimited (fun h hmem => ?_) []
        rw [Handle.grants, rights_of_looksThrough (looksThrough_of_directories hd h hmem)]
        exact hfstat
  · rfl

end RootFinder

/-- Rights that all roots grant do not show in what a chain finds. -/
lemma findInChain_unlimited {fs : List RootFinder}
    (hlookup : ∀ f ∈ fs, f.root.grants .lookup) (hfstat : ∀ f ∈ fs, f.root.grants .fstat) :
    findInChain a name searchPath ((fs.map RootFinder.unlimited).map .root) =
      (findInChain a name searchPath (fs.map .root)).map (Option.map Resolution.unlimited) := by
  induction fs with
  | nil => rfl
  | cons f fs ih =>
    obtain ⟨hf, hlookup⟩ := List.forall_mem_cons.1 hlookup
    obtain ⟨hf', hfstat⟩ := List.forall_mem_cons.1 hfstat
    rw [List.map_cons, List.map_cons, List.map_cons, findInChain, findInChain, Finder.find,
      Finder.find, RootFinder.resolve_unlimited hf hf', ih hlookup hfstat]
    cases f.resolve a.tree name searchPath with
    | error e => rfl
    | ok r? => cases r? <;> rfl

/-! ## Roots that were gone through -/

/-- The handles on those of some paths that can be opened. -/
def Ambient.openable (a : Ambient) (paths : List String) : List Handle :=
  paths.filterMap fun path => (Handle.openRoot a path).toOption

/-- Of the roots that can be opened no two have one name and are different directories. -/
def Ambient.TellsApart (a : Ambient) (roots : List String) : Prop :=
  ∀ h ∈ a.openable roots, ∀ g ∈ a.openable roots, h.name = g.name → h = g

/-- Roots that are told apart are opened as the same handle if they have the same name. -/
lemma Ambient.TellsApart.eq_of_name {path path' : String} {h g : Handle} (ha : a.TellsApart roots)
    (hp : path ∈ roots) (hh : Handle.openRoot a path = .ok h) (hp' : path' ∈ roots)
    (hg : Handle.openRoot a path' = .ok g) (hname : h.name = g.name) : h = g := by
  refine ha h (List.mem_filterMap.2 ⟨path, hp, ?_⟩) g (List.mem_filterMap.2 ⟨path', hp', ?_⟩) hname
  · rw [hh]; rfl
  · rw [hg]; rfl

/-- A root that can be opened is a directory. -/
lemma Ambient.isDirectory_of_openRoot {path : String} {h : Handle}
    (ho : Handle.openRoot a path = .ok h) : a.isDirectory path := by
  obtain ⟨-, id, -, hid, -⟩ := Handle.of_openRoot ho
  obtain ⟨hr, hd⟩ := openDirectory_eq_ok_iff.1 hid
  rw [isDirectory, hr]
  exact hd

/-- But for the limits a handle stays what it is. -/
lemma Handle.unlimited_of_limits {h g : Handle} (hl : limits.foldlM Handle.limit h = .ok g) :
    g.unlimited = h.unlimited := by
  induction limits generalizing h with
  | nil =>
    obtain rfl := Except.ok.inj hl
    rfl
  | cons limit limits ih =>
    rw [List.foldlM_cons] at hl
    obtain ⟨mid, hmid, hl⟩ := Outcome.bind_eq_ok.1 hl
    rw [Handle.limit_eq] at hmid
    split at hmid
    · cases hmid
    · obtain rfl := Except.ok.inj hmid
      have hrest := ih hl
      exact hrest

/-- A root that is opened with limits is opened without limits too. -/
lemma RootFinder.openRoot_unlimited {path : String} {f : RootFinder}
    (ho : openRoot a path rules limits = .ok f) :
    Handle.openRoot a path = .ok f.unlimited.root ∧ openRoot a path rules [] = .ok f.unlimited := by
  obtain ⟨h, root, hh, hlimits, rfl⟩ := of_openRoot ho
  have hroot : root.unlimited = h := by
    obtain ⟨name, id, -, -, rfl⟩ := Handle.of_openRoot hh
    exact Handle.unlimited_of_limits hlimits
  rw [openRoot, hh, unlimited, hroot]
  exact ⟨rfl, rfl⟩

/-- A path that a finder serves is the name of its root, once it is made absolute. -/
lemma Finder.absolute_of_serves {f : RootFinder} {path : String}
    (hs : (Finder.root f).serves a path) : a.absolute path = .ok f.root.name := by
  rw [serves, sameDirectory] at hs
  split at hs
  · next parts hparts =>
    obtain rfl := of_decide_eq_true hs
    exact hparts
  · cases hs

namespace OpenedRoots

variable {done done' : OpenedRoots} {root : String}

/-- The roots that were opened, with the finders on them. -/
structure Opens (a : Ambient) (limits : List Rights) (rules : SuffixRules) (done : OpenedRoots)
    (pairs : List (String × RootFinder)) : Prop where
  opened : done.opened = pairs.map (·.1)
  finders : done.finders = (pairs.map (·.2)).map .root
  openRoot : ∀ p ∈ pairs, RootFinder.openRoot a p.1 rules limits = .ok p.2

/-- A root is opened, or it is skipped: it is no directory, or a root that was opened has its
name. -/
lemma add_cases {pairs : List (String × RootFinder)} (hd : done.Opens a limits rules pairs)
    (hadd : done.add a limits rules root = .ok done') :
    (∃ f, done'.Opens a limits rules (pairs ++ [(root, f)])) ∨
      done'.Opens a limits rules pairs ∧
        (¬ a.isDirectory root ∨ ∃ p ∈ pairs, a.absolute root = .ok p.2.root.name) := by
  rw [add] at hadd
  split at hadd
  · cases hf : RootFinder.openRoot a root rules limits with
    | error e =>
      rw [hf] at hadd
      cases hadd
    | ok f =>
      rw [hf] at hadd
      obtain rfl := Except.ok.inj hadd
      refine .inl ⟨f, ⟨by simp [hd.opened], by simp [hd.finders], fun p hp => ?_⟩⟩
      rcases List.mem_append.1 hp with hmem | hmem
      · exact hd.openRoot p hmem
      · obtain rfl := List.mem_singleton.1 hmem
        exact hf
  · next hskip =>
    obtain rfl := Except.ok.inj hadd
    refine .inr ⟨⟨hd.opened, hd.finders, hd.openRoot⟩, ?_⟩
    by_cases hdirectory : a.isDirectory root
    · simp only [hdirectory, Bool.true_and, Bool.not_eq_true', Bool.not_eq_false, hd.finders,
        List.any_map, List.any_eq_true] at hskip
      obtain ⟨p, hp, hserves⟩ := hskip
      exact .inr ⟨p, hp, Finder.absolute_of_serves hserves⟩
    · exact .inl hdirectory

end OpenedRoots

namespace Finder

/-- A finder that opens its roots at each lookup asks later roots if earlier ones have nothing. -/
lemma findAmbient_append (xs ys : List String) :
    findAmbient a rules name searchPath (xs ++ ys) =
      findAmbient a rules name searchPath xs >>= fun
        | some r => .ok (some r)
        | none => findAmbient a rules name searchPath ys := by
  induction xs with
  | nil => rfl
  | cons path xs ih =>
    rw [List.cons_append, findAmbient, findAmbient, ih]
    split
    · cases RootFinder.openRoot a path rules [] with
      | error e => rfl
      | ok f =>
        simp only [Bind.bind, Except.bind]
        cases f.resolve a.tree name searchPath with
        | error e => rfl
        | ok r? => cases r? <;> rfl
    · rfl

/-- If nothing is found in some roots, nothing is found in any of them. -/
lemma resolve_eq_none {paths : List String} {path : String} {f : RootFinder}
    (hn : findAmbient a rules name searchPath paths = .ok none) (hp : path ∈ paths)
    (ho : RootFinder.openRoot a path rules [] = .ok f) :
    f.resolve a.tree name searchPath = .ok none := by
  induction paths with
  | nil => cases hp
  | cons other paths ih =>
    rw [findAmbient] at hn
    split at hn
    · obtain ⟨g, hg, hn⟩ := Outcome.bind_eq_ok.1 hn
      obtain ⟨r?, hr, hn⟩ := Outcome.bind_eq_ok.1 hn
      cases r? with
      | some r => cases hn
      | none =>
        rcases List.mem_cons.1 hp with rfl | hp
        · obtain rfl := Except.ok.inj (hg.symm.trans ho)
          exact hr
        · exact ih hn hp
    · next hnot =>
      rcases List.mem_cons.1 hp with rfl | hp
      · obtain ⟨h, -, hh, -⟩ := RootFinder.of_openRoot ho
        exact absurd (a.isDirectory_of_openRoot hh) hnot
      · exact ih hn hp

/-- Roots that were opened with limits are those that paths lead to, but for the rights. -/
lemma roots_opened {pairs : List (String × RootFinder)}
    (ho : ∀ p ∈ pairs, RootFinder.openRoot a p.1 rules limits = .ok p.2) :
    (Finder.ambient (pairs.map (·.1)) rules).roots a =
      .ok ((pairs.map (·.2)).map RootFinder.unlimited) := by
  rw [roots]
  induction pairs with
  | nil => rfl
  | cons p pairs ih =>
    obtain ⟨hp, hpairs⟩ := List.forall_mem_cons.1 ho
    obtain ⟨hh, hf⟩ := RootFinder.openRoot_unlimited hp
    rw [List.map_cons, List.filter_cons_of_pos (a.isDirectory_of_openRoot hh), List.mapM_cons, hf,
      ih hpairs]
    rfl

/-- The finders on roots that were opened find what is found in these roots by path, but for the
rights. -/
lemma findAmbient_opened {pairs : List (String × RootFinder)}
    (ho : ∀ p ∈ pairs, RootFinder.openRoot a p.1 rules limits = .ok p.2)
    (hlookup : ∀ limit ∈ limits, limit.has .lookup) (hfstat : ∀ limit ∈ limits, limit.has .fstat) :
    findAmbient a rules name searchPath (pairs.map (·.1)) =
      (findInChain a name searchPath ((pairs.map (·.2)).map .root)).map
        (Option.map Resolution.unlimited) := by
  have hgrants : ∀ r, (∀ limit ∈ limits, limit.has r) →
      ∀ f ∈ pairs.map (·.2), f.root.grants r := by
    intro r hr f hf
    obtain ⟨p, hp, rfl⟩ := List.mem_map.1 hf
    exact Handle.grants_of_foldl_narrow (RootFinder.rights_of_openRoot (ho p hp)) hr
  rw [findAmbient_eq (roots_opened ho),
    findInChain_unlimited (hgrants .lookup hlookup) (hgrants .fstat hfstat)]

end Finder

/-- A root with a name is opened under that name, if it is a directory. -/
lemma Ambient.exists_of_isDirectory {path : String} {parts : List String}
    (hd : a.isDirectory path) (hname : a.absolute path = .ok parts) :
    ∃ h, Handle.openRoot a path = .ok h ∧ h.name = parts := by
  rw [isDirectory] at hd
  cases hr : a.resolve path with
  | error e =>
    rw [hr] at hd
    cases hd
  | ok id =>
    rw [hr] at hd
    have hopen : a.openDirectory path = .ok id := openDirectory_eq_ok_iff.2 ⟨hr, hd⟩
    refine ⟨⟨parts, some id, none⟩, ?_, rfl⟩
    rw [Handle.openRoot, hname, hopen]
    rfl

namespace OpenedRoots

variable {done done' final : OpenedRoots} {root : String} {pairs : List (String × RootFinder)}

/-- What is found by path is found without a root that was skipped. -/
lemma findAmbient_of_skipped (ha : a.TellsApart roots) (hd : done.Opens a limits rules pairs)
    (hpairs : done.opened ⊆ roots) (hroot : root ∈ roots)
    (hskip : ¬ a.isDirectory root ∨ ∃ p ∈ pairs, a.absolute root = .ok p.2.root.name)
    (rest : List String) :
    Finder.findAmbient a rules name searchPath (done.opened ++ root :: rest) =
      Finder.findAmbient a rules name searchPath (done.opened ++ rest) := by
  rw [Finder.findAmbient_append, Finder.findAmbient_append]
  cases hn : Finder.findAmbient a rules name searchPath done.opened with
  | error e => rfl
  | ok r? =>
    cases r? with
    | some r => rfl
    | none =>
      simp only [Bind.bind, Except.bind]
      rw [Finder.findAmbient]
      by_cases hdirectory : a.isDirectory root
      · obtain ⟨p, hp, hname⟩ := hskip.resolve_left fun hnot => hnot hdirectory
        obtain ⟨hh, hf⟩ := RootFinder.openRoot_unlimited (hd.openRoot p hp)
        obtain ⟨g, hg, hgname⟩ := a.exists_of_isDirectory hdirectory hname
        have hmem : p.1 ∈ done.opened := by
          rw [hd.opened]
          exact List.mem_map_of_mem hp
        have hsame : Handle.openRoot a root = Handle.openRoot a p.1 := by
          rw [hg, hh, ha.eq_of_name hroot hg (hpairs hmem) hh hgname]
        have hopen : RootFinder.openRoot a root rules [] = .ok p.2.unlimited := by
          rw [← hf, RootFinder.openRoot, RootFinder.openRoot, hsame]
        rw [if_pos hdirectory, hopen]
        simp only [Bind.bind, Except.bind, Finder.resolve_eq_none hn hmem hf]
      · rw [if_neg hdirectory]

/-- Roots that were gone through were opened, or what they hold is found in others. -/
theorem findAmbient_eq {rest : List String} (hd : done.Opens a limits rules pairs)
    (hpairs : done.opened ⊆ roots) (hrest : rest ⊆ roots)
    (hf : rest.foldlM (add a limits rules) done = .ok final) :
    (∃ pairs', final.Opens a limits rules pairs') ∧
      (a.TellsApart roots → ∀ name searchPath,
        Finder.findAmbient a rules name searchPath (done.opened ++ rest) =
          Finder.findAmbient a rules name searchPath final.opened) := by
  induction rest generalizing done pairs with
  | nil =>
    obtain rfl := Except.ok.inj hf
    refine ⟨⟨pairs, hd⟩, fun _ name searchPath => ?_⟩
    rw [List.append_nil]
  | cons root rest ih =>
    rw [List.foldlM_cons] at hf
    cases hadd : done.add a limits rules root with
    | error e =>
      rw [hadd] at hf
      cases hf
    | ok done' =>
      rw [hadd] at hf
      obtain ⟨hroot, hrest⟩ := List.cons_subset.1 hrest
      -- A root is opened after the others, or skipped since one of them serves it.
      rcases add_cases hd hadd with ⟨f, hd'⟩ | ⟨hd', hskip⟩
      · have hopened : done'.opened = done.opened ++ [root] := by
          rw [hd'.opened, hd.opened, List.map_append, List.map_singleton]
        have hpairs' : done'.opened ⊆ roots := by
          rw [hopened]
          exact List.append_subset.2 ⟨hpairs, List.cons_subset.2 ⟨hroot, List.nil_subset _⟩⟩
        obtain ⟨hfinal, hfind⟩ := ih hd' hpairs' hrest hf
        refine ⟨hfinal, fun ha name searchPath => ?_⟩
        rw [← hfind ha, hopened, List.append_assoc, List.singleton_append]
      · have hopened : done'.opened = done.opened := hd'.opened.trans hd.opened.symm
        obtain ⟨hfinal, hfind⟩ := ih hd' (hopened ▸ hpairs) hrest hf
        refine ⟨hfinal, fun ha name searchPath => ?_⟩
        rw [← hfind ha, findAmbient_of_skipped ha hd hpairs hroot hskip, hopened]

end OpenedRoots

/-! ## Installed roots -/

/-- Installing that succeeds has gone through the roots. -/
lemma SetupM.of_install {names : List String} {h h' : Host} {report : InstallReport}
    (hi : exec (install a roots limits names rules) h = (.ok report, h')) :
    ∃ done, openRoots a limits rules roots = .ok done ∧ h'.loader.chain = done.finders ∧
      report = ⟨names, done.opened, done.skipped⟩ := by
  rw [exec_install] at hi
  generalize exec (preload a names) h = imported at hi
  match imported with
  | (.error _, _) => cases hi
  | (.ok _, _) =>
    cases hr : openRoots a limits rules roots with
    | error e =>
      rw [hr] at hi
      cases hi
    | ok done =>
      rw [hr] at hi
      cases hi
      exact ⟨done, rfl, rfl, rfl⟩

/-- Installed roots with the right to look names up and to be told about files find what the roots
that were opened find by path, but for the rights. They find what all the roots find by path, those
that were skipped among them, if no two of these roots have one name and are different directories.

**Proof sketch.** The handles that are kept are those that are opened by path, but for rights that
are granted. A root that is no directory is passed over by path too. Any other root that is skipped
has the name of one before it. It is the same directory then, and if anything were found in it, it
would have been found before. -/
theorem find_install (a : Ambient) (roots : List String) (limits : List Rights)
    (names : List String) (rules : SuffixRules) (h h' : Host) (report : InstallReport)
    (hlimits : ∀ limit ∈ limits, limit.has .lookup ∧ limit.has .fstat)
    (hi : SetupM.exec (install a roots limits names rules) h = (.ok report, h'))
    (name : String) (searchPath : Option (List String)) :
    (h'.loader.find a name searchPath).map (Option.map Resolution.unlimited) =
        (Finder.ambient report.roots rules).find a name searchPath ∧
      (a.TellsApart roots →
        (h'.loader.find a name searchPath).map (Option.map Resolution.unlimited) =
          (Finder.ambient roots rules).find a name searchPath) := by
  obtain ⟨done, hdone, hchain, rfl⟩ := SetupM.of_install hi
  have hempty : OpenedRoots.Opens a limits rules {} [] := ⟨rfl, rfl, nofun⟩
  obtain ⟨⟨pairs, hpairs⟩, hfind⟩ := OpenedRoots.findAmbient_eq hempty (List.nil_subset roots)
    (List.Subset.refl roots) hdone
  have hopened : Finder.findAmbient a rules name searchPath (pairs.map (·.1)) = _ :=
    Finder.findAmbient_opened hpairs.openRoot (fun l hl => (hlimits l hl).1)
      fun l hl => (hlimits l hl).2
  rw [Loader.find, hchain, hpairs.finders, ← hopened, ← hpairs.opened]
  exact ⟨rfl, fun ha => (hfind ha name searchPath).symm⟩

/-- A tree in which a link beneath `a` leads to a directory beneath `b`. Beneath `b` there is a file
`m.src`. -/
def Tree.detour : Tree :=
  ⟨[.directory 0 (.ofList [("a", 1), ("b", 3)]) 0, .directory 0 (.ofList [("link", 2)]) 0,
    .link "../b/sub", .directory 0 (.ofList [("sub", 4), ("m.src", 5)]) 0, .directory 3 .empty 0,
    .file (.bytes [0x78, 0x3d, 0x31]) 0]⟩

/-- The same root in several spellings, and paths that are no directories. -/
theorem find_install_detour :
    let a : Ambient := ⟨.detour, Tree.root⟩
    let s : Settings := {}
    let roots := ["/a/link", "/b", "/none", "/a/../b/.", "/b/m.src"]
    let x := SetupM.exec (install a roots [.ofNames s.granted] [] {}) {}
    x.1 = .ok ⟨[], ["/a/link", "/b"], ["/none", "/a/../b/.", "/b/m.src"]⟩ ∧
      a.TellsApart roots ∧
      (x.2.loader.find a "m" none).map (Option.map Resolution.unlimited) =
        (Finder.ambient roots {}).find a "m" none ∧
      (Finder.ambient roots {}).find a "m" none = .ok (some (.artifact
        ⟨"m", ⟨["b"], some 3, none⟩, "m.src", .source, none⟩ (.cacheThenSource "m.cache"))) := by
  intro a s roots x
  have hx : x.1 = .ok ⟨[], ["/a/link", "/b"], ["/none", "/a/../b/.", "/b/m.src"]⟩ := by
    decide +kernel
  have hdone : SetupM.exec (install a roots [.ofNames s.granted] [] {}) {} =
      (.ok ⟨[], ["/a/link", "/b"], ["/none", "/a/../b/.", "/b/m.src"]⟩, x.2) := by
    rw [← hx]
  have hapart : a.TellsApart roots := by
    unfold Ambient.TellsApart
    decide +kernel
  obtain ⟨-, hfind⟩ := find_install a roots [.ofNames s.granted] [] {} {} x.2 _ (by decide +kernel)
    hdone "m" none
  exact ⟨hx, hapart, hfind hapart, by decide +kernel⟩

/-- A root that leads up from where a link leads has the name of the directory that holds the link.
It is skipped beside that directory, and what it holds is found by path only. -/
theorem find_install_skips_other_directory :
    let a : Ambient := ⟨.detour, Tree.root⟩
    let s : Settings := {}
    let limits : List Rights := [.ofNames s.granted]
    let roots := ["/a", "/a/link/.."]
    let x := SetupM.exec (install a roots limits [] {}) {}
    (∀ limit ∈ limits, limit.has .read ∧ limit.has .lookup ∧ limit.has .fstat) ∧
      x.1 = .ok ⟨[], ["/a"], ["/a/link/.."]⟩ ∧ x.2.loader.find a "m" none = .ok none ∧
      (Finder.ambient roots {}).find a "m" none = .ok (some (.artifact
        ⟨"m", ⟨["a"], some 3, none⟩, "m.src", .source, none⟩ (.cacheThenSource "m.cache"))) := by
  refine ⟨by decide +kernel, by decide +kernel, by decide +kernel, by decide +kernel⟩

end UnitLoader
