import Mathlib.Data.List.Forall2
import UnitLoader.Proofs.Handle
import UnitLoader.Proofs.Lookup
import UnitLoader.Proofs.Settings.Check

/-!
# The places of units

Beneath a root, the segments of a unit's name lead to its place. What is found for the unit is found
there: a file whose name is continued by a suffix, or an initializer in a directory of the name.

## Main definitions

* `UnitLoader.place` — the place of a unit beneath a root.
* `UnitLoader.Resolution.IsAt` — what was found is at a place.
* `UnitLoader.Handle.Opened`, `UnitLoader.SuffixRules.Checked` — the handles that can be had, and
  the rules that settings can have.
* `UnitLoader.Finder.Usable` — finders with such roots and rules.
* `UnitLoader.RootFinder.OpensAll` — the directories that a search path leads to.

## Main results

* `UnitLoader.RootFinder.isAt_of_resolve` — a finder finds a unit at its place beneath the root, or
  beneath the location of the unit around it.
-/

set_option relaxedAutoImplicit false
set_option autoImplicit false

namespace UnitLoader

open UnitLoader.Path (IsName absoluteText)
open UnitName (short parent? isImportable)

variable {a : Ambient} {t : Tree} {name parent tail : String} {h : Handle} {rules : SuffixRules}
  {searchPath : Option (List String)} {r : Resolution} {root dir : List String}

/-! ## The way to a unit -/

/-- A text without slashes and dots is a name, unless it is empty. -/
lemma Path.isName_of_not_mem {s : String} (hne : s ≠ "") (hslash : '/' ∉ s.toList)
    (hdot : '.' ∉ s.toList) : IsName s := by
  have hone : s ≠ "." := by
    rintro rfl
    exact hdot (by decide)
  have htwo : s ≠ ".." := by
    rintro rfl
    exact hdot (by decide)
  exact ⟨by simp [isOrdinary, isFiller, hne, hone, htwo], hslash⟩

namespace UnitName

/-- The segments of a name, as the names on a way down. -/
def way (name : String) : List String :=
  (segments name).map String.ofList

/-- The way of a unit is through the units around it to its short name. -/
lemma way_eq (name : String) :
    way name = (segments name).dropLast.map String.ofList ++ [short name] := by
  calc way name
      = ((segments name).dropLast ++ [(segments name).getLastD []]).map String.ofList := by
        rw [dropLast_append_getLastD, way]
    _ = (segments name).dropLast.map String.ofList ++ [short name] := by
        rw [List.map_append, List.map_singleton, short]

/-- The way of a unit with no unit around it is its name. -/
lemma way_of_outermost (hp : parent? name = none) : way name = [short name] := by
  rw [way_eq, dropLast_segments_of_parent? hp, List.map_nil, List.nil_append]

/-- The way to a unit goes on from the unit around it. -/
lemma way_of_parent? (hp : parent? name = some parent) : way name = way parent ++ [short name] := by
  rw [way_eq, ← segments_of_parent? hp, ← way]

/-- The way to a unit that can be imported is made of names. -/
lemma isName_of_mem_way (hi : isImportable name) : ∀ s ∈ way name, IsName s := by
  intro s hs
  obtain ⟨segment, hsegment, rfl⟩ := List.mem_map.1 hs
  rw [isImportable, List.all_eq_true] at hi
  have hseg := hi segment hsegment
  rw [isSegment, Bool.and_eq_true, List.all_eq_true] at hseg
  obtain ⟨hne, hall⟩ := hseg
  have hempty : String.ofList segment ≠ "" := by
    intro he
    rw [String.ofList_eq_empty_iff] at he
    simp [he] at hne
  have hslash : '/' ∉ segment := fun hmem => by simpa using hall '/' hmem
  rw [← String.toList_ofList (l := segment)] at hslash
  refine Path.isName_of_not_mem hempty hslash ?_
  rw [String.toList_ofList]
  exact dot_not_mem_of_mem_segments hsegment

/-- The short name of an importable unit is a name of a file system. -/
lemma isName_short (hi : isImportable name) : IsName (short name) :=
  isName_of_mem_way hi _ (by simp [way_eq])

end UnitName

/-- The place of a unit beneath a root. -/
def place (root : List String) (name : String) : String :=
  absoluteText (root ++ UnitName.way name)

/-- What was found is at a place: a file whose name is continued by a suffix, an initializer in a
directory, or the directory alone. -/
def Resolution.IsAt (rules : SuffixRules) (place : String) : Resolution → Prop
  | .artifact x _ => ∃ c ∈ rules.candidates,
      (x.origin = place ++ c.2 ∧ x.locations = none) ∨
      (x.origin = place ++ "/" ++ rules.initializer ++ c.2 ∧ x.locations = some [place])
  | .portions _ locations => locations = [place]

/-! ## Roots and rules -/

/-- Handles that were opened, and may have been limited and closed since. -/
inductive Handle.Opened : Handle → Prop
  | root {a : Ambient} {path : String} {h : Handle} (ho : openRoot a path = .ok h) : Opened h
  | subdirectory {t : Tree} {path : String} {h g : Handle} (ho : Opened h)
      (hs : h.subdirectory t path = .ok g) : Opened g
  | limit {h g : Handle} {rights : Rights} (ho : Opened h) (hl : h.limit rights = .ok g) : Opened g
  | close {h : Handle} (ho : Opened h) : Opened h.close

/-- An absolute path, once it is normalized, is made of names. -/
lemma Path.isName_of_absolute? {working parts : List String} {path : String}
    (h : absolute? working path = .ok parts) : ∀ s ∈ parts, IsName s := by
  rw [absolute?] at h
  cases hn : normal? (join (absoluteText working) path) with
  | error e =>
    rw [hn] at h
    cases h
  | ok n =>
    rw [hn] at h
    obtain rfl := Except.ok.inj h
    exact isName_of_normal? hn

/-- The absolute path of whatever path is made of names. -/
lemma Ambient.isName_of_absolute {path : String} {names : List String}
    (h : a.absolute path = .ok names) : ∀ s ∈ names, IsName s := by
  unfold absolute at h
  split at h
  · exact Path.isName_of_absolute? (Outcome.mapError_eq_ok.1 h)
  · split at h
    · exact Path.isName_of_absolute? (Outcome.mapError_eq_ok.1 h)
    · cases h

/-- The name of an opened handle is in normal form. -/
lemma Handle.Opened.isName (ho : h.Opened) : ∀ s ∈ h.name, IsName s := by
  induction ho with
  | root ho =>
    obtain ⟨name, id, hname, -, rfl⟩ := of_openRoot ho
    exact Ambient.isName_of_absolute hname
  | subdirectory _ hs ih =>
    obtain ⟨way, id, hway, -, -, rfl⟩ := of_subdirectory hs
    intro s hmem
    exact (List.mem_append.1 hmem).elim (ih s) (isName_of_relative hway s)
  | limit _ hl ih =>
    obtain ⟨-, -, hl⟩ := Outcome.bind_eq_ok.1 hl
    split at hl <;> obtain rfl := Except.ok.inj hl <;> exact ih
  | close _ ih => exact ih

/-- Rules that settings can have. -/
def SuffixRules.Checked (rules : SuffixRules) : Prop :=
  ∃ settings : Settings, settings.check = .ok settings ∧ settings.rules = rules

/-- Checked rules are those of settings that pass each single check. -/
lemma SuffixRules.Checked.isFine (hc : rules.Checked) :
    ∃ settings : Settings, (∀ x, settings.isFine x = true) ∧ settings.rules = rules := by
  obtain ⟨settings, hs, hrules⟩ := hc
  exact ⟨settings, settings.check_eq_ok_iff.1 hs, hrules⟩

/-- The initializer of checked rules passes its check. -/
lemma SuffixRules.Checked.isInitializer (hc : rules.Checked) :
    Settings.isInitializer rules.initializer = true := by
  obtain ⟨settings, hfine, rfl⟩ := hc.isFine
  exact hfine .initializer

/-- Every suffix of checked rules passes the check of suffixes. -/
lemma SuffixRules.Checked.isSuffix {c : ArtifactKind × String} (hc : rules.Checked)
    (hmem : c ∈ rules.candidates) : Settings.isSuffix c.2 = true := by
  obtain ⟨settings, hfine, rfl⟩ := hc.isFine
  have hsource := (Bool.and_eq_true_iff.1 (hfine .source)).2
  simp only [candidates, List.mem_append, List.mem_map] at hmem
  rcases hmem with (⟨s, hs, rfl⟩ | ⟨s, hs, rfl⟩) | ⟨s, hs, rfl⟩
  · exact List.all_eq_true.1 (hfine .native) s hs
  · exact List.all_eq_true.1 hsource s hs
  · exact List.all_eq_true.1 (hfine .compiled) s hs

/-- The initializer of checked rules is a name. -/
lemma SuffixRules.Checked.isName_initializer (hc : rules.Checked) : IsName rules.initializer := by
  have hinitializer := hc.isInitializer
  rw [Settings.isInitializer, Bool.and_eq_true, Bool.and_eq_true] at hinitializer
  obtain ⟨⟨hne, hslash⟩, hdot⟩ := hinitializer
  exact Path.isName_of_not_mem (by simpa using hne) (by simpa using hslash) (by simpa using hdot)

/-- Finders with opened roots and checked rules. -/
def Finder.Usable : Finder → Prop
  | .root f => f.root.Opened ∧ f.rules.Checked
  | .ambient _ rules => rules.Checked

/-- The roots of a usable finder are opened handles, and their rules are checked. -/
lemma Finder.Usable.of_hasRoot {f : Finder} {g : RootFinder} (hu : f.Usable) (hg : f.HasRoot a g) :
    g.root.Opened ∧ g.rules.Checked := by
  cases hg with
  | root => exact hu
  | ambient _ ho =>
    obtain ⟨h, root, hh, hroot, rfl⟩ := RootFinder.of_openRoot ho
    obtain rfl := Except.ok.inj hroot
    exact ⟨.root hh, hu⟩

/-! ## Lookups -/

/-- The probe that is the first with a file is one of the probes. -/
lemma mem_of_firstFile {ps : List Probe} {p : Probe} (hf : firstFile h t ps = .ok (some p)) :
    p ∈ ps := by
  induction ps with
  | nil => simp [firstFile] at hf
  | cons q ps ih =>
    obtain ⟨there, -, hf⟩ := Outcome.bind_eq_ok.1 hf
    split at hf
    · obtain rfl := Option.some.inj (Except.ok.inj hf)
      exact List.mem_cons_self ..
    · exact List.mem_cons_of_mem q (ih hf)

namespace RootFinder

/-- A file that is looked for in a directory makes up the place of the unit. -/
lemma isAt_bind {hasDirectory : Bool} {p : Probe} (hn : ∀ s ∈ h.name, IsName s)
    (ht : IsName tail) (hi : IsName rules.initializer) (hp : p ∈ probes rules tail hasDirectory) :
    (bind rules name tail h p).IsAt rules (absoluteText (h.name ++ [tail])) := by
  obtain ⟨c, hc, hp⟩ := List.mem_flatMap.1 hp
  refine ⟨c, hc, ?_⟩
  rcases List.mem_cons.1 hp with rfl | hp
  · exact .inl ⟨Path.join_absoluteText hn ht c.2, rfl⟩
  · split at hp
    · obtain rfl := List.mem_singleton.1 hp
      refine .inr ⟨?_, rfl⟩
      have hpath : Path.join tail (rules.initializer ++ c.2) =
          tail ++ ("/" ++ rules.initializer ++ c.2) := by
        rw [Path.join_of_isName ht (hi.isAbsolute_append c.2)]
        simp [String.append_assoc]
      calc Path.join h.nameText (Path.join tail (rules.initializer ++ c.2))
          = absoluteText (h.name ++ [tail]) ++ ("/" ++ rules.initializer ++ c.2) := by
            rw [hpath]
            exact Path.join_absoluteText hn ht _
        _ = absoluteText (h.name ++ [tail]) ++ "/" ++ rules.initializer ++ c.2 := by
            simp [String.append_assoc]
    · cases hp

/-- What is found in one directory is at the place of the unit there. -/
lemma isAt_of_search (hn : ∀ s ∈ h.name, IsName s) (ht : IsName tail)
    (hi : IsName rules.initializer) (hr : search rules t name tail [h] [] = .ok (some r)) :
    r.IsAt rules (absoluteText (h.name ++ [tail])) := by
  obtain ⟨hasDirectory, -, hr⟩ := Outcome.bind_eq_ok.1 hr
  obtain ⟨p?, hp, hr⟩ := Outcome.bind_eq_ok.1 hr
  cases p? with
  | some p =>
    obtain rfl := Option.some.inj (Except.ok.inj hr)
    exact isAt_bind hn ht hi (mem_of_firstFile hp)
  | none =>
    have hr := Except.ok.inj hr
    cases hasDirectory with
    | false => cases hr
    | true =>
      obtain rfl := Option.some.inj hr
      rfl

variable {f : RootFinder} {hs : List Handle}

/-- The directories that a search path leads to, in its order. Without one, there is the root. -/
def OpensAll (f : RootFinder) (t : Tree) (hs : List Handle) : Option (List String) → Prop
  | none => hs = [f.root]
  | some entries => List.Forall₂ (fun entry h => f.root.subdirectory t entry = .ok h) entries hs

/-- The directories of a longer search path are the one that its first entry leads to, and those of
the others. -/
lemma open_cons_eq_ok_iff {entry : String} {entries : List String} :
    directories.open_ f t (entry :: entries) = .ok (some hs) ↔
      ∃ h later, f.root.subdirectory t entry = .ok h ∧
        directories.open_ f t entries = .ok (some later) ∧ hs = h :: later := by
  rw [directories.open_]
  cases f.root.subdirectory t entry with
  | error e => cases e <;> simp
  | ok h =>
    cases directories.open_ f t entries with
    | error e => simp
    | ok later? => cases later? <;> simp [eq_comm]

/-- A unit is looked for in the directories of the search path if they can all be opened. -/
lemma directories_eq_ok_iff :
    f.directories t searchPath = .ok (some hs) ↔ f.OpensAll t hs searchPath := by
  cases searchPath with
  | none => simp [directories, OpensAll, eq_comm]
  | some entries =>
    rw [directories, OpensAll]
    induction entries generalizing hs with
    | nil =>
      rw [List.forall₂_nil_left_iff]
      simp [directories.open_, eq_comm]
    | cons entry entries ih =>
      rw [open_cons_eq_ok_iff, List.forall₂_cons_left_iff]
      simp only [ih, exists_and_left]

/-- Where a search path makes a finder look for a unit. -/
def LooksIn (f : RootFinder) (dir : List String) : Option (List String) → Prop
  | none => dir = f.root.name
  | some entries => entries = [absoluteText dir]

/-- Where a finder looks in one directory only, it looks through a handle of that name. -/
lemma of_directories (hl : f.LooksIn dir searchPath)
    (hdir : ∀ s ∈ dir, IsName s) (hd : f.directories t searchPath = .ok (some hs)) :
    ∃ h, hs = [h] ∧ h.name = dir := by
  cases searchPath with
  | none =>
    obtain rfl := Option.some.inj (Except.ok.inj hd)
    exact ⟨f.root, rfl, hl.symm⟩
  | some entries =>
    obtain rfl : entries = [absoluteText dir] := hl
    obtain ⟨h, _, hsub, hnil, rfl⟩ := List.forall₂_cons_left_iff.1 (directories_eq_ok_iff.1 hd)
    obtain rfl := List.forall₂_nil_left_iff.1 hnil
    obtain ⟨way, id, hway, -, -, rfl⟩ := Handle.of_subdirectory hsub
    exact ⟨_, rfl, Path.append_of_relativeTo?_absoluteText hdir (Outcome.mapError_eq_ok.1 hway)⟩

/-- What a finder finds is at the place of the unit in the directory in which it is looked for. -/
theorem isAt_of_resolve {f : RootFinder} (hi : isImportable name)
    (hinit : IsName f.rules.initializer) (hl : f.LooksIn dir searchPath)
    (hdir : ∀ s ∈ dir, IsName s) (hr : f.resolve t name searchPath = .ok (some r)) :
    r.IsAt f.rules (absoluteText (dir ++ [short name])) := by
  unfold resolve at hr
  extract_lets tail at hr
  split at hr
  · obtain ⟨hs?, hd, hr⟩ := Outcome.bind_eq_ok.1 hr
    cases hs? with
    | none => cases hr
    | some hs =>
      obtain ⟨h, rfl, rfl⟩ := of_directories hl hdir hd
      exact isAt_of_search hdir (UnitName.isName_short hi) hinit hr
  · cases hr

end RootFinder

end UnitLoader
