import Mathlib.Data.List.Induction
import UnitLoader.Handle
import UnitLoader.Proofs.Tree.Walk

/-!
# A new file in a tree

A file is put under a name that was free. Ways that look the name up led nowhere and lead to the
file now, or fail on it; all other ways lead where they led. Which name a link looks up is not seen
from the way that meets the link, so the links have to be asked for themselves.

## Main definitions

* `UnitLoader.Tree.Gains` — a tree is another one with a new file.
* `UnitLoader.Tree.SameLinks` — the links of two trees lead to the same.

## Main results

* `UnitLoader.Tree.Gains.walk_cases` — where a way leads that may look the name up.
* `UnitLoader.Tree.Gains.walk_of_not_mem` — a way without the name leads where it led.
* `UnitLoader.Tree.Gains.walk_concat` — a way that ends in the name leads where it led or to the
  file.
-/

set_option relaxedAutoImplicit false
set_option autoImplicit false

namespace UnitLoader.Tree

open UnitLoader.Path (IsName relativeText)

variable {t u : Tree} {dir here id : NodeId} {name s : String} {content : Content} {mtime : Int}
  {links : Nat} {way before rest : List String}

/-- A tree is another one with a file under a name that was free. -/
structure Gains (t u : Tree) (dir : NodeId) (name : String) (content : Content) (mtime : Int) :
    Prop where
  free : t.step dir name = .error .noEntry
  eq : u = t.add dir name (.file content mtime)

/-- The links of two trees lead to the same, or fail alike. -/
def SameLinks (t u : Tree) : Prop :=
  ∀ here s id target, t.step here s = .ok id → t.node? id = some (.link target) →
    u.walk maxLinks (start here target) (Path.segments target) =
      t.walk maxLinks (start here target) (Path.segments target)

/-! ## Places -/

/-- The parent of a directory. -/
def parent? (t : Tree) (id : NodeId) : Option NodeId :=
  match t.node? id with
  | some (.directory parent _ _) => some parent
  | _ => none

/-- The entries of a directory. -/
def entries? (t : Tree) (id : NodeId) : Option (Table NodeId) :=
  match t.node? id with
  | some (.directory _ entries _) => some entries
  | _ => none

/-- A directory has the place of its parent and the name that leads to it from there. -/
lemma placeWithin?_succ (t : Tree) (height : Nat) (hid : id ≠ root) :
    t.placeWithin? (height + 1) id = (t.parent? id).bind fun parent =>
      (t.entries? parent).bind fun entries => (entries.entries.find? (·.2 = id)).bind fun entry =>
        (t.placeWithin? height parent).map (· ++ [entry.1]) := by
  rw [placeWithin?, if_neg hid, parent?]
  rcases t.node? id with _ | _ | ⟨parent, _, _⟩ | _ <;> try rfl
  simp only [Option.bind_eq_bind, Option.bind_some]
  rw [entries?]
  rcases t.node? parent with _ | _ | ⟨_, entries, _⟩ | _ <;> try rfl
  simp only [Option.bind_some]
  refine congrArg (Option.bind _) (funext fun entry => ?_)
  cases t.placeWithin? height parent <;> rfl

/-- More height does not change a place. -/
lemma placeWithin?_succ_of_some {height : Nat} {place : List String}
    (h : t.placeWithin? height id = some place) : t.placeWithin? (height + 1) id = some place := by
  induction height generalizing id place with
  | zero => cases h
  | succ height ih =>
    by_cases hid : id = root
    · rw [placeWithin?, if_pos hid] at h ⊢
      exact h
    · rw [placeWithin?_succ t _ hid] at h ⊢
      obtain ⟨parent, hparent, h⟩ := Option.bind_eq_some_iff.1 h
      obtain ⟨entries, hentries, h⟩ := Option.bind_eq_some_iff.1 h
      obtain ⟨entry, hentry, h⟩ := Option.bind_eq_some_iff.1 h
      obtain ⟨before, hbefore, rfl⟩ := Option.map_eq_some_iff.1 h
      rw [hparent, Option.bind_some, hentries, Option.bind_some, hentry, Option.bind_some,
        ih hbefore]
      rfl

/-! ## Nodes -/

/-- The node that comes next is not there yet. -/
lemma node?_nextId (t : Tree) : t.node? t.nextId = none :=
  List.getElem?_eq_none (Nat.le_refl _)

namespace Gains

variable (h : t.Gains u dir name content mtime)

include h

/-- The directory before and after. -/
lemma directory : ∃ parent entries time, t.node? dir = some (.directory parent entries time) ∧
    entries.get? name = none ∧ Path.isFiller name = false ∧ name ≠ ".." ∧
    name.utf8ByteSize ≤ maxName ∧
    u.node? dir = some (.directory parent (entries.insert name t.nextId) presentTime) := by
  have hfree := h.free
  rw [step] at hfree
  split at hfree
  · next parent entries time hnode =>
    split_ifs at hfree with hfiller hdots hlong
    · cases hfree
    split at hfree
    · cases hfree
    · next hget =>
      refine ⟨parent, entries, time, hnode, hget, by simpa using hfiller, hdots,
        Nat.le_of_not_lt hlong, ?_⟩
      have hlt : dir < t.nodes.length := (List.getElem?_eq_some_iff.1 hnode).1
      have hmid : (Tree.mk (t.nodes ++ [.file content mtime])).node? dir =
          some (.directory parent entries time) := by
        rw [node?, List.getElem?_append_left hlt]
        exact hnode
      rw [h.eq, add, mapEntries, hmid]
      dsimp only
      rw [setNode, node?, List.getElem?_set_self]
      rw [List.length_append]
      exact Nat.lt_add_right _ hlt
  · cases hfree

/-- The directory that gains a file is a node of the tree. -/
lemma dir_lt : dir < t.nextId := by
  obtain ⟨_, _, _, hnode, -⟩ := h.directory
  exact (List.getElem?_eq_some_iff.1 hnode).1

/-- Every other node is what it was, and the file is the one that came next. -/
lemma node?_of_ne (hne : id ≠ dir) : u.node? id = (t.nodes ++ [.file content mtime])[id]? := by
  rw [h.eq, add, mapEntries]
  split
  · rw [setNode, node?, List.getElem?_set_ne (Ne.symm hne)]
  · rfl

/-- The new node is the file. -/
lemma node?_new : u.node? t.nextId = some (.file content mtime) := by
  rw [h.node?_of_ne (Nat.ne_of_gt h.dir_lt), nextId]
  simp

/-- Every other node is as it was, but for the directory. -/
lemma node?_eq (hdir : id ≠ dir) (hnext : id ≠ t.nextId) : u.node? id = t.node? id := by
  rw [h.node?_of_ne hdir, node?]
  rcases Nat.lt_or_gt_of_ne (show id ≠ t.nodes.length from hnext) with hlt | hgt
  · exact List.getElem?_append_left hlt
  · rw [List.getElem?_eq_none (by rw [List.length_append, List.length_singleton]; exact hgt),
      List.getElem?_eq_none (Nat.le_of_lt hgt)]

/-- What there is at an old node is as it was, apart from the entries and the time of the
directory. -/
lemma node?_cases (hnext : id ≠ t.nextId) :
    u.node? id = t.node? id ∨
    ∃ parent entries time entries' time', t.node? id = some (.directory parent entries time) ∧
      u.node? id = some (.directory parent entries' time') := by
  by_cases hdir : id = dir
  · subst hdir
    obtain ⟨parent, entries, time, ht, -, -, -, -, hu⟩ := h.directory
    exact .inr ⟨parent, entries, time, _, _, ht, hu⟩
  · exact .inl (h.node?_eq hdir hnext)

/-- The same nodes are links. -/
lemma node?_eq_link (target : String) :
    u.node? id = some (.link target) ↔ t.node? id = some (.link target) := by
  by_cases hnext : id = t.nextId
  · subst hnext
    rw [h.node?_new, t.node?_nextId]
    simp
  · rcases h.node?_cases hnext with he | ⟨_, _, _, _, _, ht, hu⟩
    · rw [he]
    · rw [ht, hu]
      simp

/-- The same nodes are directories. -/
lemma isDirectory (id : NodeId) : u.isDirectory id = t.isDirectory id := by
  by_cases hnext : id = t.nextId
  · subst hnext
    rw [Tree.isDirectory, Tree.isDirectory, h.node?_new, t.node?_nextId]
  · rcases h.node?_cases hnext with he | ⟨_, _, _, _, _, ht, hu⟩
    · rw [Tree.isDirectory, Tree.isDirectory, he]
    · rw [Tree.isDirectory, Tree.isDirectory, ht, hu]

/-- Of the nodes that there were the same are files. -/
lemma isFile_metadata (hnext : id ≠ t.nextId) :
    (u.metadata id).isFile = (t.metadata id).isFile := by
  rcases h.node?_cases hnext with he | ⟨_, _, _, _, _, ht, hu⟩
  · rw [metadata, metadata, he]
  · rw [metadata, metadata, ht, hu]
    rfl

/-- The same is read from the nodes that there were. -/
lemma read (hnext : id ≠ t.nextId) : u.read id = t.read id := by
  rcases h.node?_cases hnext with he | ⟨_, _, _, _, _, ht, hu⟩
  · rw [Tree.read, Tree.read, he]
  · rw [Tree.read, Tree.read, ht, hu]

/-! ## Steps -/

/-- The name leads to the file. -/
lemma step_self : u.step dir name = .ok t.nextId := by
  obtain ⟨parent, entries, time, -, -, hfiller, hdots, hlong, hu⟩ := h.directory
  simp [step, hu, hfiller, hdots, Nat.not_lt.2 hlong]

/-- Any other segment leads where it led. -/
lemma step_eq (hne : here = dir → s ≠ name) : u.step here s = t.step here s := by
  by_cases hdir : here = dir
  · subst hdir
    obtain ⟨parent, entries, time, ht, -, -, -, -, hu⟩ := h.directory
    simp only [step, ht, hu, Table.get?_insert, if_neg (Ne.symm (hne rfl))]
  · by_cases hnext : here = t.nextId
    · subst hnext
      rw [step, step, h.node?_new, t.node?_nextId]
    · rw [step, step, h.node?_eq hdir hnext]

/-- Any other segment leads on as before. -/
lemma advance_eq (hne : here = dir → s ≠ name) :
    u.advance links here s rest = t.advance links here s rest := by
  have hstep := h.step_eq hne
  rcases t.step_cases here s with ⟨e, hs⟩ | ⟨id, target, hs, hlink⟩ | ⟨id, hs, hlink⟩
  · rw [advance_of_error hs, advance_of_error (hstep.trans hs)]
  · have hlink' := (h.node?_eq_link target).2 hlink
    cases links with
    | zero =>
      rw [advance_zero_of_link hs hlink, advance_zero_of_link (hstep.trans hs) hlink']
    | succ links => rw [advance_of_link hs hlink, advance_of_link (hstep.trans hs) hlink']
  · have hlink' : ∀ target, u.node? id ≠ some (.link target) := fun target hl =>
      hlink target ((h.node?_eq_link target).1 hl)
    rw [advance_of_ne_link hs hlink, advance_of_ne_link (hstep.trans hs) hlink']

/-- The new name leads on to the file. -/
lemma advance_self : u.advance links dir name rest = .ok ⟨links, t.nextId, rest⟩ :=
  advance_of_ne_link h.step_self fun target hl => by
    rw [h.node?_new] at hl
    cases hl

/-! ## Walks -/

/-- Nothing is found beneath the file. -/
lemma walk_nextId (links : Nat) (way : List String) :
    u.walk links t.nextId way = .ok t.nextId ∨ u.walk links t.nextId way = .error .notDirectory := by
  cases way with
  | nil => exact .inl (walk_nil ..)
  | cons s rest =>
    have hstep : u.step t.nextId s = .error .notDirectory := by rw [step, h.node?_new]
    rw [walk_cons, advance_of_error hstep]
    exact .inr rfl

/-- A way leads where it led. Or it looks the name up: then it led nowhere, and it leads to the file
or fails on it. -/
theorem walk_cases (links : Nat) (here : NodeId) (way : List String) :
    u.walk links here way = t.walk links here way ∨
    t.walk links here way = .error .noEntry ∧
      (u.walk links here way = .ok t.nextId ∨ u.walk links here way = .error .notDirectory) := by
  induction links, here, way using t.walk_induction with
  | nil links here => simp
  | cons links here s rest ih =>
    rw [walk_cons, walk_cons]
    -- The way looks the name up, or it goes on alike in both trees.
    by_cases hname : here = dir ∧ s = name
    · obtain ⟨rfl, rfl⟩ := hname
      rw [advance_of_error h.free, h.advance_self]
      exact .inr ⟨rfl, h.walk_nextId links rest⟩
    · rw [h.advance_eq fun hdir hs => hname ⟨hdir, hs⟩]
      cases hp : t.advance links here s rest with
      | error e => exact .inl rfl
      | ok p => exact ih p hp

/-- Where a way led anywhere, or failed for another reason than that nothing was there, nothing
changes. -/
lemma walk_eq (hne : t.walk links here way ≠ .error .noEntry) :
    u.walk links here way = t.walk links here way :=
  (h.walk_cases links here way).resolve_right fun hw => hne hw.1

/-- The target of a link leads to the same, also if few links may be followed. -/
lemma walk_link (hlinks : t.SameLinks u) (hle : links ≤ maxLinks) {target : String}
    (hstep : t.step here s = .ok id) (hlink : t.node? id = some (.link target)) :
    u.walk links (start here target) (Path.segments target) =
      t.walk links (start here target) (Path.segments target) := by
  refine (h.walk_cases links _ _).resolve_right fun hw => ?_
  obtain ⟨ht, hu⟩ := hw
  have hmost := hlinks here s id target hstep hlink
  have htmost := (walk_of_le hle (by rw [ht]; simp [Errno.noEntry, Errno.tooManyLinks])).trans ht
  rcases hu with hu | hu
  · have humost := (walk_of_le hle (by rw [hu]; simp)).trans hu
    rw [htmost, humost] at hmost
    cases hmost
  · have humost :=
      (walk_of_le hle (by rw [hu]; simp [Errno.notDirectory, Errno.tooManyLinks])).trans hu
    rw [htmost, humost] at hmost
    cases hmost

/-- One segment leads where it led, unless it is the name in the directory. -/
lemma walk_singleton (hlinks : t.SameLinks u) (hle : links ≤ maxLinks)
    (hne : here = dir → s ≠ name) : u.walk links here [s] = t.walk links here [s] := by
  rw [walk_cons, walk_cons, h.advance_eq hne]
  rcases t.step_cases here s with ⟨e, hs⟩ | ⟨id, target, hs, hlink⟩ | ⟨id, hs, hlink⟩
  · rw [advance_of_error hs]
    rfl
  · cases links with
    | zero => rw [advance_zero_of_link hs hlink]; rfl
    | succ links =>
      rw [advance_of_link hs hlink, List.append_nil]
      exact h.walk_link hlinks (Nat.le_of_succ_le hle) hs hlink
  · rw [advance_of_ne_link hs hlink]
    simp [Except.bind]

/-- A way that leads where it led is walked alike, whatever comes after it. -/
lemma walk_append (hsame : u.walk links here before = t.walk links here before) :
    (∃ e, ∀ rest, t.walk links here (before ++ rest) = .error e ∧
      u.walk links here (before ++ rest) = .error e) ∨
    ∃ mid left, left ≤ links ∧ ∀ rest, t.walk links here (before ++ rest) = t.walk left mid rest ∧
      u.walk links here (before ++ rest) = u.walk left mid rest := by
  induction links, here, before using t.walk_induction with
  | nil links here => exact .inr ⟨here, links, Nat.le_refl _, fun rest => ⟨rfl, rfl⟩⟩
  | cons links here s before ih =>
    have hne : here = dir → s ≠ name := by
      rintro rfl rfl
      rw [walk_cons, walk_cons, advance_of_error h.free, h.advance_self] at hsame
      rcases h.walk_nextId links before with hw | hw <;>
      · simp only [Except.bind, hw] at hsame
        cases hsame
    rw [walk_cons, walk_cons, h.advance_eq hne] at hsame
    simp only [List.cons_append, walk_cons, h.advance_eq hne, advance_append]
    cases hp : t.advance links here s before with
    | error e => exact .inl ⟨e, fun rest => ⟨rfl, rfl⟩⟩
    | ok p =>
      rw [hp] at hsame
      rcases ih p hp hsame with ⟨e, he⟩ | ⟨mid, left, hleft, hrest⟩
      · exact .inl ⟨e, he⟩
      · exact .inr ⟨mid, left, Nat.le_trans hleft (links_le_of_advance hp), hrest⟩

/-- A way without the name leads where it led. -/
theorem walk_of_not_mem (hlinks : t.SameLinks u) (hle : links ≤ maxLinks) (hname : name ∉ way) :
    u.walk links here way = t.walk links here way := by
  induction way using List.reverseRecOn with
  | nil => simp
  | append_singleton before s ih =>
    rw [List.mem_append, List.mem_singleton, not_or] at hname
    rcases h.walk_append (ih hname.1) with ⟨e, he⟩ | ⟨mid, left, hleft, hrest⟩
    · rw [(he [s]).1, (he [s]).2]
    · rw [(hrest [s]).1, (hrest [s]).2]
      exact h.walk_singleton hlinks (Nat.le_trans hleft hle) fun _ hs => hname.2 hs.symm

/-- A way that ends in the name leads where it led, or it leads to the directory first and then to
the file. -/
theorem walk_concat (hlinks : t.SameLinks u) (hle : links ≤ maxLinks) (hname : name ∉ before)
    (here : NodeId) (s : String) :
    u.walk links here (before ++ [s]) = t.walk links here (before ++ [s]) ∨
    s = name ∧ u.walk links here (before ++ [s]) = .ok t.nextId ∧
      ∃ left, ∀ s', t.walk links here (before ++ [s']) = t.walk left dir [s'] := by
  rcases h.walk_append (h.walk_of_not_mem hlinks hle hname) with
    ⟨e, he⟩ | ⟨mid, left, hleft, hrest⟩
  · exact .inl (by rw [(he [s]).1, (he [s]).2])
  · by_cases hs : mid = dir ∧ s = name
    · obtain ⟨rfl, rfl⟩ := hs
      refine .inr ⟨rfl, ?_, left, fun s' => (hrest [s']).1⟩
      rw [(hrest [s]).2, walk_cons, h.advance_self]
      exact walk_nil ..
    · rw [(hrest [s]).1, (hrest [s]).2]
      exact .inl (h.walk_singleton hlinks (Nat.le_trans hleft hle) fun hmid hname => hs ⟨hmid, hname⟩)

/-! ## Paths -/

/-- What a path led to it leads to. -/
lemma resolve_of_eq_ok {path : String} (hr : t.resolve here path = .ok id) :
    u.resolve here path = .ok id := by
  rw [resolve] at hr ⊢
  split_ifs at hr ⊢
  rw [h.walk_eq (by rw [hr]; simp), hr]

/-- A path leads where it led or, if there was nothing, perhaps to the file. -/
lemma resolve_cases (here : NodeId) (hway : ∀ s ∈ way, IsName s) :
    u.resolve here (relativeText way) = t.resolve here (relativeText way) ∨
    t.resolve here (relativeText way) = .error .noEntry ∧
      (u.resolve here (relativeText way) = .ok t.nextId ∨
        u.resolve here (relativeText way) = .error .notDirectory) := by
  rw [resolve_relativeText hway, resolve_relativeText hway, h.isDirectory]
  split_ifs
  · exact .inl rfl
  · exact .inl rfl
  · exact .inl rfl
  · exact h.walk_cases ..

/-- The path of a way without the name leads where it led. -/
lemma resolve_of_not_mem (hlinks : t.SameLinks u) (hway : ∀ s ∈ way, IsName s)
    (hname : name ∉ way) :
    u.resolve here (relativeText way) = t.resolve here (relativeText way) := by
  rw [resolve_relativeText hway, resolve_relativeText hway, h.isDirectory,
    h.walk_of_not_mem hlinks (Nat.le_refl _) hname]

/-- A path that ends in the name leads where it led. Or it is short enough and leads to the
directory first: then it led nowhere and leads to the file now. -/
lemma resolve_concat (here : NodeId) (hlinks : t.SameLinks u) (hbefore : ∀ n ∈ before, IsName n)
    (hs : IsName s) (hname : name ∉ before) :
    u.resolve here (relativeText (before ++ [s])) = t.resolve here (relativeText (before ++ [s])) ∨
    s = name ∧ t.resolve here (relativeText (before ++ [s])) = .error .noEntry ∧
      u.resolve here (relativeText (before ++ [s])) = .ok t.nextId ∧
      (relativeText (before ++ [s])).utf8ByteSize < maxPath ∧
      ∃ left, ∀ s', t.walk maxLinks here (before ++ [s']) = t.walk left dir [s'] := by
  have hway : ∀ n ∈ before ++ [s], IsName n := fun n hn => by
    rcases List.mem_append.1 hn with hn | hn
    · exact hbefore n hn
    · exact List.mem_singleton.1 hn ▸ hs
  have hne : before ++ [s] ≠ [] := by simp
  rw [resolve_relativeText hway, resolve_relativeText hway, if_neg hne, if_neg hne]
  by_cases hlong : maxPath ≤ (relativeText (before ++ [s])).utf8ByteSize
  · rw [if_pos hlong, if_pos hlong]
    exact .inl rfl
  · rw [if_neg hlong, if_neg hlong]
    rcases h.walk_concat hlinks (Nat.le_refl _) hname here s with hw | ⟨rfl, hu, left, ht⟩
    · exact .inl hw
    · refine .inr ⟨rfl, ?_, hu, Nat.lt_of_not_le hlong, left, ht⟩
      rw [ht, walk_cons, advance_of_error h.free]
      rfl

/-! ## Places of directories -/

/-- The parents of directories are what they were. -/
lemma parent?_eq (id : NodeId) : u.parent? id = t.parent? id := by
  rw [parent?, parent?]
  by_cases hnext : id = t.nextId
  · subst hnext
    rw [h.node?_new, t.node?_nextId]
  · rcases h.node?_cases hnext with he | ⟨_, _, _, _, _, ht, hu⟩
    · rw [he]
    · rw [ht, hu]

/-- The first entry that leads to an old node is as it was. -/
lemma find?_entries {parent : NodeId} {entries : Table NodeId} {entry : String × NodeId}
    (he : t.entries? parent = some entries)
    (hf : entries.entries.find? (·.2 = id) = some entry) :
    ∃ entries', u.entries? parent = some entries' ∧
      entries'.entries.find? (·.2 = id) = some entry := by
  by_cases hdir : parent = dir
  · subst hdir
    obtain ⟨_, es, _, ht, hget, -, -, -, hu⟩ := h.directory
    rw [entries?, ht] at he
    obtain rfl := Option.some.inj he
    refine ⟨es.insert name t.nextId, by rw [entries?, hu], ?_⟩
    rw [Table.entries_insert_of_get?_none hget, List.find?_append, hf]
    rfl
  · refine ⟨entries, ?_, hf⟩
    by_cases hnext : parent = t.nextId
    · subst hnext
      rw [entries?, t.node?_nextId] at he
      cases he
    · rw [entries?, h.node?_eq hdir hnext]
      exact he

/-- A directory that had a place still has it. -/
lemma placeWithin? {height : Nat} {place : List String} (hp : t.placeWithin? height id = some place) :
    u.placeWithin? height id = some place := by
  induction height generalizing id place with
  | zero => cases hp
  | succ height ih =>
    by_cases hid : id = root
    · rw [Tree.placeWithin?, if_pos hid] at hp ⊢
      exact hp
    · rw [placeWithin?_succ _ _ hid] at hp ⊢
      obtain ⟨parent, hparent, hp⟩ := Option.bind_eq_some_iff.1 hp
      obtain ⟨entries, hentries, hp⟩ := Option.bind_eq_some_iff.1 hp
      obtain ⟨entry, hentry, hp⟩ := Option.bind_eq_some_iff.1 hp
      obtain ⟨before, hbefore, rfl⟩ := Option.map_eq_some_iff.1 hp
      obtain ⟨entries', hentries', hentry'⟩ := h.find?_entries hentries hentry
      rw [h.parent?_eq, hparent, Option.bind_some, hentries', Option.bind_some, hentry',
        Option.bind_some, ih hbefore]
      rfl

/-- There is one node more. -/
lemma length_nodes : u.nodes.length = t.nodes.length + 1 := by
  rw [h.eq, add, mapEntries]
  split <;> simp [setNode]

/-- The places of directories are what they were. -/
lemma placeOf? {place : List String} (hp : t.placeOf? id = some place) :
    u.placeOf? id = some place := by
  rw [Tree.placeOf?, h.length_nodes]
  exact placeWithin?_succ_of_some (h.placeWithin? hp)

end Gains

end UnitLoader.Tree
