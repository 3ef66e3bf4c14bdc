import UnitLoader.Handle
import UnitLoader.Proofs.Tree

/-!
# What is reached through a handle

A handle takes the normal form of a path as a way down from its directory. What it opens, lists or
tells about is at the end of that way, unless the way meets a link. A link is followed wherever it
leads, also out of the directory.

## Main results

* `UnitLoader.Handle.down?_of_reach` — a way is taken down from the directory of a handle.
* `UnitLoader.Handle.access_beneath` — every access is to the end of a way down, or meets a link.
* `UnitLoader.Handle.access_not_beneath` — a link leads out of the directory of a handle.
-/

set_option relaxedAutoImplicit false
set_option autoImplicit false

namespace UnitLoader

/-- A tree with a directory `box` that holds a link to the directory `out` beside it. -/
def Tree.linked : Tree :=
  ⟨[.directory 0 (.ofList [("box", 1), ("out", 3)]) 0, .directory 0 (.ofList [("link", 2)]) 0,
    .link "../out", .directory 0 (.ofList [("secret.txt", 4)]) 0, .file (.bytes [0x53]) 0]⟩

/-- A path leads to a directory if it leads to a node that is one. -/
lemma Ambient.openDirectory_eq_ok_iff {a : Ambient} {path : String} {id : NodeId} :
    a.openDirectory path = .ok id ↔ a.resolve path = .ok id ∧ a.tree.isDirectory id = true := by
  rw [openDirectory]
  cases a.resolve path with
  | error e => exact ⟨nofun, nofun⟩
  | ok id' =>
    simp only [Bind.bind, Except.bind]
    split
    · next hd =>
      exact ⟨fun h => ⟨h, Except.ok.inj h ▸ hd⟩, And.left⟩
    · next hd =>
      exact ⟨nofun, fun ⟨h, hd'⟩ => absurd (Except.ok.inj h ▸ hd') hd⟩

namespace Handle

open UnitLoader.Path (IsName)

variable {h g : Handle} {t : Tree} {dir id : NodeId} {way : List String} {path mode : String}

/-! ## What accesses do -/

/-- What is reached from the directory of a handle, with the errors of the operating system wrapped.
A path with a NUL is refused before the descriptor is asked for. -/
lemma reach_eq (h : Handle) (t : Tree) (way : List String) :
    h.reach t way =
      if holdsNul (Path.relativeText way) then
        .error (.badPath (.holdsNul (Path.relativeText way)))
      else h.descriptor >>= fun id =>
        (t.resolve id (Path.relativeText way)).mapError (.io ∘ .os) := by
  unfold reach
  extract_lets text
  split <;> rfl

/-- A file is opened if no letter of the mode is refused, the path names something beneath the
directory, and reading is granted. -/
lemma openFileMode_eq (h : Handle) (t : Tree) (path mode : String) :
    h.openFileMode t path mode =
      if mode.toList.filter isRefusedLetter ≠ [] then
        .error (.badMode (.refused (String.ofList (mode.toList.filter isRefusedLetter))))
      else do
        let way ← h.relative path
        if way = [] then .error (.badPath (.namesDirectory path))
        else do
          h.require .read
          let id ← h.reachToOpen t way
          return ⟨Path.absoluteText (h.name ++ way), id⟩ := by
  unfold openFileMode
  extract_lets letters
  split
  · rfl
  · refine bind_congr fun way => ?_
    split <;> rfl

/-- A way is taken down from the directory of a handle, as far as it meets no link. -/
lemma down?_of_reach (hd : h.directory = some dir) (hway : ∀ s ∈ way, IsName s)
    (hr : h.reach t way = .ok id) : t.down? dir way = some id ∨ t.MeetsLink dir way := by
  have hdescriptor : h.descriptor = .ok dir := by rw [descriptor, hd]
  rw [reach_eq, hdescriptor] at hr
  split at hr
  · cases hr
  · exact Tree.down?_or_meetsLink hway (Outcome.mapError_eq_ok.1 hr)

/-- The empty way leads from a directory to itself. -/
lemma eq_of_reach_nil (hd : h.directory = some dir) (hr : h.reach t [] = .ok id) : id = dir := by
  have hdescriptor : h.descriptor = .ok dir := by rw [descriptor, hd]
  rw [reach_eq, hdescriptor] at hr
  split at hr
  · cases hr
  · have hresolve : t.resolve dir (Path.relativeText []) = .ok id := Outcome.mapError_eq_ok.1 hr
    rw [Tree.resolve_relativeText (by simp)] at hresolve
    split at hresolve
    · cases hresolve
    · rw [if_pos rfl] at hresolve
      split at hresolve
      · exact (Except.ok.inj hresolve).symm
      · cases hresolve

/-! ## Accesses that succeed -/

/-- What a path names is taken down from the directory of a handle. -/
lemma isName_of_relative (hr : h.relative path = .ok way) : ∀ s ∈ way, IsName s :=
  Path.isName_of_relativeTo? (Outcome.mapError_eq_ok.1 hr)

/-- What is reached to be opened is reached. -/
lemma reach_of_reachToOpen (hr : h.reachToOpen t way = .ok id) : h.reach t way = .ok id := by
  obtain ⟨-, -, hr⟩ := Outcome.bind_eq_ok.1 hr
  exact hr

/-- A file that is opened is what the way leads to, under the path of that way. -/
lemma of_openFileMode {file : OpenFile} (ho : h.openFileMode t path mode = .ok file) :
    ∃ way, h.relative path = .ok way ∧ file.name = Path.absoluteText (h.name ++ way) ∧
      h.reach t way = .ok file.node := by
  rw [openFileMode_eq] at ho
  split at ho
  · cases ho
  · obtain ⟨way, hway, ho⟩ := Outcome.bind_eq_ok.1 ho
    split at ho
    · cases ho
    · obtain ⟨-, -, ho⟩ := Outcome.bind_eq_ok.1 ho
      obtain ⟨id, hid, ho⟩ := Outcome.bind_eq_ok.1 ho
      obtain rfl := Except.ok.inj ho
      exact ⟨way, hway, rfl, reach_of_reachToOpen hid⟩

/-- A root that is opened is a handle on the directory that the path leads to, with all rights. -/
lemma of_openRoot {a : Ambient} (ho : openRoot a path = .ok h) :
    ∃ name id, a.absolute path = .ok name ∧ a.openDirectory path = .ok id ∧
      h = ⟨name, some id, none⟩ := by
  obtain ⟨name, hname, ho⟩ := Outcome.bind_eq_ok.1 ho
  obtain ⟨id, hid, ho⟩ := Outcome.bind_eq_ok.1 ho
  exact ⟨name, id, hname, Outcome.mapError_eq_ok.1 hid, (Except.ok.inj ho).symm⟩

/-- A subdirectory that is opened is a handle on the directory that the way leads to, with the
rights of the handle it was opened through. -/
lemma of_subdirectory (hs : h.subdirectory t path = .ok g) :
    ∃ way id, h.relative path = .ok way ∧ h.reach t way = .ok id ∧ t.isDirectory id ∧
      g = ⟨h.name ++ way, some id, h.rights⟩ := by
  obtain ⟨way, hway, hs⟩ := Outcome.bind_eq_ok.1 hs
  obtain ⟨id, hid, hs⟩ := Outcome.bind_eq_ok.1 hs
  split at hs
  · next hdir => exact ⟨way, id, hway, reach_of_reachToOpen hid, hdir, (Except.ok.inj hs).symm⟩
  · cases hs

/-- What is told of a path is told of the node that the way leads to. -/
lemma of_stat {m : Metadata} (hs : h.stat t path = .ok m) :
    ∃ way id, h.relative path = .ok way ∧ h.reach t way = .ok id ∧ m = t.metadata id := by
  obtain ⟨way, hway, hs⟩ := Outcome.bind_eq_ok.1 hs
  obtain ⟨-, -, hs⟩ := Outcome.bind_eq_ok.1 hs
  obtain ⟨id, hid, hs⟩ := Outcome.bind_eq_ok.1 hs
  exact ⟨way, id, hway, hid, (Except.ok.inj hs).symm⟩

/-- What is listed are the names of the entries of the directory itself, in order. -/
lemma of_list {names : List String} (hl : h.list t = .ok names) :
    ∃ id parent entries mtime, h.reach t [] = .ok id ∧
      t.node? id = some (.directory parent entries mtime) ∧ names = entries.sortedNames := by
  obtain ⟨-, -, hl⟩ := Outcome.bind_eq_ok.1 hl
  obtain ⟨id, hid, hl⟩ := Outcome.bind_eq_ok.1 hl
  split at hl
  · next parent entries mtime hnode =>
    exact ⟨id, parent, entries, mtime, reach_of_reachToOpen hid, hnode, (Except.ok.inj hl).symm⟩
  · cases hl

/-! ## Confinement -/

/-- What is opened, told about or listed through a handle is at the end of the way down that the
path names in normal form, unless a link is met on that way. The list is that of the directory
itself.

**Proof sketch.** A normal form holds ordinary names only. So a walk from the directory of the
handle goes from each directory to one of its entries, until it meets a link. -/
theorem access_beneath (h : Handle) (t : Tree) (dir : NodeId) (hd : h.directory = some dir) :
    (∀ path mode file, h.openFileMode t path mode = .ok file → ∃ way,
      h.relative path = .ok way ∧ file.name = Path.absoluteText (h.name ++ way) ∧
      (t.down? dir way = some file.node ∨ t.MeetsLink dir way)) ∧
    (∀ path g, h.subdirectory t path = .ok g → ∃ way id,
      h.relative path = .ok way ∧ g = ⟨h.name ++ way, some id, h.rights⟩ ∧
      (t.down? dir way = some id ∨ t.MeetsLink dir way)) ∧
    (∀ path m, h.stat t path = .ok m → ∃ way id,
      h.relative path = .ok way ∧ m = t.metadata id ∧
      (t.down? dir way = some id ∨ t.MeetsLink dir way)) ∧
    ∀ names, h.list t = .ok names → ∃ parent entries mtime,
      t.node? dir = some (.directory parent entries mtime) ∧ names = entries.sortedNames := by
  refine ⟨fun path mode file ho => ?_, fun path g hs => ?_, fun path m hs => ?_, fun names hl => ?_⟩
  · obtain ⟨way, hway, hname, hr⟩ := of_openFileMode ho
    exact ⟨way, hway, hname, down?_of_reach hd (isName_of_relative hway) hr⟩
  · obtain ⟨way, id, hway, hr, -, hg⟩ := of_subdirectory hs
    exact ⟨way, id, hway, hg, down?_of_reach hd (isName_of_relative hway) hr⟩
  · obtain ⟨way, id, hway, hr, hm⟩ := of_stat hs
    exact ⟨way, id, hway, hm, down?_of_reach hd (isName_of_relative hway) hr⟩
  · obtain ⟨id, parent, entries, mtime, hr, hnode, hnames⟩ := of_list hl
    obtain rfl := eq_of_reach_nil hd hr
    exact ⟨parent, entries, mtime, hnode, hnames⟩

/-- A link leads out of the directory of a handle. What is beyond it is opened, told about and
listed, although no way down leads there. -/
theorem access_not_beneath :
    let t : Tree := .linked
    let h : Handle := ⟨["box"], some 1, none⟩
    (∀ way, t.down? 1 way ≠ some 3 ∧ t.down? 1 way ≠ some 4) ∧
      (h.openFile t "link/secret.txt").toOption.map (·.node) = some 4 ∧
      (h.stat t "link/secret.txt").toOption = some (.file 1 0) ∧
      (h.subdirectory t "link").toOption.bind (·.directory) = some 3 ∧
      (do (← h.subdirectory t "link").list t).toOption = some ["secret.txt"] := by
  refine ⟨fun way => ?_, by decide +kernel, by decide +kernel, by decide +kernel,
    by decide +kernel⟩
  have hbeneath : Tree.linked.down? 1 way = some 1 ∨ Tree.linked.down? 1 way = some 2 ∨
      Tree.linked.down? 1 way = none := by
    match way with
    | [] => exact .inl rfl
    | name :: rest =>
      have hbox : Tree.linked.down? 1 (name :: rest) =
          (Table.get? (.ofList [("link", 2)]) name).bind (Tree.linked.down? · rest) := rfl
      rw [hbox]
      by_cases hname : "link" = name
      · subst hname
        cases rest with
        | nil => exact .inr (.inl rfl)
        | cons _ _ => exact .inr (.inr rfl)
      · have hnone : (Table.get? (.ofList [("link", 2)]) name : Option NodeId) = none :=
          if_neg hname
        rw [hnone]
        exact .inr (.inr rfl)
  rcases hbeneath with he | he | he <;> rw [he] <;> decide

/-- A file is opened at the end of the way that its path names. -/
theorem access_beneath_linked :
    let t : Tree := .linked
    let h : Handle := ⟨["out"], some 3, none⟩
    h.directory = some 3 ∧ ∃ file way, h.openFileMode t "x/.././secret.txt" "rb" = .ok file ∧
      h.relative "x/.././secret.txt" = .ok way ∧ file.name = Path.absoluteText (h.name ++ way) ∧
      (t.down? 3 way = some file.node ∨ t.MeetsLink 3 way) := by
  intro t h
  have hopen : (h.openFileMode t "x/.././secret.txt" "rb").toOption.isSome = true := by
    decide +kernel
  cases ho : h.openFileMode t "x/.././secret.txt" "rb" with
  | error e =>
    rw [ho] at hopen
    cases hopen
  | ok file =>
    obtain ⟨way, hway⟩ := (access_beneath h t 3 rfl).1 _ _ file ho
    exact ⟨rfl, file, way, rfl, hway⟩

end Handle

end UnitLoader
