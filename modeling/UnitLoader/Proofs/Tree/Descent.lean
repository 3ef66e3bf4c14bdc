import Mathlib.Algebra.GroupWithZero.Nat
import UnitLoader.Proofs.Tree.Walk
import UnitLoader.Tree.Ambient

/-!
# Ways that are taken in two steps

The path of a way leads to where the rest of the way leads from the directory that its first part
leads to. In one step more is asked for: the whole path may be too long, and the links of both parts
are counted together.

## Main definitions

* `UnitLoader.Tree.IsLinkFree` — trees without links.

## Main results

* `UnitLoader.Tree.exists_of_resolve_append` — what a path leads to is reached in two steps.
* `UnitLoader.Tree.resolve_append` — what is reached in two steps a path leads to, unless it is too
  long or meets too many links.
-/

set_option relaxedAutoImplicit false
set_option autoImplicit false

namespace UnitLoader

variable {before way : List String}

/-- The node is a link. -/
def Node.isLink : Node → Bool
  | .link _ => true
  | _ => false

/-! ## Texts of ways -/

/-- Pieces are joined in two parts as in one, with a separator between the parts. -/
lemma Text.joinWith_append {sep : Char} {ps qs : List (List Char)} (hp : ps ≠ []) (hq : qs ≠ []) :
    joinWith sep (ps ++ qs) = joinWith sep ps ++ sep :: joinWith sep qs := by
  induction ps with
  | nil => exact absurd rfl hp
  | cons p ps ih =>
    cases ps with
    | nil =>
      obtain ⟨q, qs, rfl⟩ := List.exists_cons_of_ne_nil hq
      rfl
    | cons p' ps =>
      have hrest := ih (List.cons_ne_nil p' ps)
      simp only [List.cons_append] at hrest ⊢
      rw [joinWith, hrest, joinWith, List.append_assoc, List.cons_append]

namespace Path

/-- The text of a way goes on from that of its first part. -/
lemma relativeText_append (hb : before ≠ []) (hw : way ≠ []) :
    relativeText (before ++ way) = relativeText before ++ "/" ++ relativeText way := by
  rw [relativeText, relativeText, relativeText, if_neg hb, if_neg hw, if_neg (by simp [hb])]
  apply String.toList_injective
  simp [joinNames, Text.joinWith_append, hb, hw]

/-- The text of a way has the bytes of all its names, and one more between any two. -/
lemma utf8ByteSize_relativeText (hw : way ≠ []) :
    (relativeText way).utf8ByteSize + 1 = (way.map (·.utf8ByteSize + 1)).sum := by
  induction way with
  | nil => exact absurd rfl hw
  | cons s way ih =>
    by_cases hnil : way = []
    · subst hnil
      simp [relativeText_singleton]
    · have htext : relativeText (s :: way) = s ++ "/" ++ relativeText way := by
        rw [← List.singleton_append, relativeText_append (by simp) hnil, relativeText_singleton]
      have hslash : "/".utf8ByteSize = 1 := by decide
      rw [htext, String.utf8ByteSize_append, String.utf8ByteSize_append, hslash, List.map_cons,
        List.sum_cons, ← ih hnil]
      omega

/-- Neither part of a way has a longer text than the way. -/
lemma utf8ByteSize_relativeText_le (before : List String) (hway : ∀ s ∈ way, IsName s)
    (hw : way ≠ []) :
    (relativeText before).utf8ByteSize ≤ (relativeText (before ++ way)).utf8ByteSize ∧
      (relativeText way).utf8ByteSize ≤ (relativeText (before ++ way)).utf8ByteSize := by
  by_cases hb : before = []
  · subst hb
    have hpos : 0 < (relativeText way).utf8ByteSize := by
      rw [Nat.pos_iff_ne_zero, ne_eq, String.utf8ByteSize_eq_zero_iff]
      exact relativeText_ne_empty hway
    exact ⟨hpos, Nat.le_refl _⟩
  · rw [relativeText_append hb hw, String.utf8ByteSize_append, String.utf8ByteSize_append]
    omega

end Path

/-- The path of a way holds a NUL if that of one of its parts does. -/
lemma holdsNul_relativeText_append (hw : way ≠ []) :
    holdsNul (Path.relativeText (before ++ way)) =
      (holdsNul (Path.relativeText before) || holdsNul (Path.relativeText way)) := by
  by_cases hb : before = []
  · subst hb
    have hdot : holdsNul (Path.relativeText []) = false := by decide
    rw [hdot, List.nil_append, Bool.false_or]
  · rw [Path.relativeText_append hb hw]
    simp [holdsNul, String.toList_append]

/-- The path of a way holds a NUL if one of its names does. -/
lemma holdsNul_relativeText (way : List String) :
    holdsNul (Path.relativeText way) = way.any holdsNul := by
  induction way with
  | nil => decide
  | cons s way ih =>
    by_cases hnil : way = []
    · subst hnil
      simp [Path.relativeText_singleton]
    · rw [← List.singleton_append, holdsNul_relativeText_append hnil, Path.relativeText_singleton,
        ih, List.singleton_append, List.any_cons]

namespace Tree

open UnitLoader.Path (IsName relativeText absoluteText)

variable {t : Tree} {here mid id : NodeId} {links : Nat} {s : String} {rest : List String}

/-! ## Two steps -/

/-- Segments lead on from directories only. -/
lemma isDirectory_of_walk_cons (h : t.walk links here (s :: rest) = .ok id) :
    t.isDirectory here = true := by
  have hstep : t.step here s ≠ .error .notDirectory := by
    intro he
    rw [walk_cons, advance_of_error he] at h
    cases h
  rw [isDirectory]
  cases hnode : t.node? here with
  | none => simp [step, hnode] at hstep
  | some node =>
    cases node with
    | directory parent entries mtime => rfl
    | _ => simp [step, hnode] at hstep

/-- What the path of a way leads to is reached in two steps, the first of which leads to a
directory. -/
theorem exists_of_resolve_append (hbefore : ∀ s ∈ before, IsName s) (hway : ∀ s ∈ way, IsName s)
    (hw : way ≠ []) (h : t.resolve here (relativeText (before ++ way)) = .ok id) :
    ∃ mid, t.resolve here (relativeText before) = .ok mid ∧ t.isDirectory mid = true ∧
      t.resolve mid (relativeText way) = .ok id := by
  have hall : ∀ s ∈ before ++ way, IsName s := by
    simpa [or_imp, forall_and] using ⟨hbefore, hway⟩
  obtain ⟨hleBefore, hleWay⟩ := Path.utf8ByteSize_relativeText_le before hway hw
  rw [resolve_relativeText hall] at h
  split_ifs at h with hlong hnil
  · exact absurd (List.append_eq_nil_iff.1 hnil).2 hw
  rcases t.walk_append_cases maxLinks here before with ⟨e, he⟩ | ⟨mid, left, hle, hrest⟩
  · rw [he] at h
    cases h
  have hbeforeWalk : t.walk maxLinks here before = .ok mid := by
    rw [← List.append_nil before, hrest, walk_nil]
  rw [hrest] at h
  have hdirectory : t.isDirectory mid = true := by
    obtain ⟨s, rest, rfl⟩ := List.exists_cons_of_ne_nil hw
    exact isDirectory_of_walk_cons h
  have hwayWalk : t.walk maxLinks mid way = .ok id :=
    (walk_of_le hle (by rw [h]; simp)).trans h
  refine ⟨mid, ?_, hdirectory, ?_⟩
  · rw [resolve_relativeText hbefore, if_neg (by omega)]
    split
    · next hb =>
      subst hb
      rw [walk_nil] at hbeforeWalk
      obtain rfl := Except.ok.inj hbeforeWalk
      exact if_pos hdirectory
    · exact hbeforeWalk
  · rw [resolve_relativeText hway, if_neg (by omega), if_neg hw, hwayWalk]

/-- What is reached in two steps the path of the whole way leads to, unless it is too long or too
many links are on it. -/
theorem resolve_append (hbefore : ∀ s ∈ before, IsName s) (hway : ∀ s ∈ way, IsName s)
    (hw : way ≠ []) (hmid : t.resolve here (relativeText before) = .ok mid)
    (hid : t.resolve mid (relativeText way) = .ok id) :
    t.resolve here (relativeText (before ++ way)) =
      if maxPath ≤ (relativeText (before ++ way)).utf8ByteSize then .error .nameTooLong
      else if t.walk maxLinks here (before ++ way) = .error .tooManyLinks then .error .tooManyLinks
      else .ok id := by
  have hall : ∀ s ∈ before ++ way, IsName s := by
    simpa [or_imp, forall_and] using ⟨hbefore, hway⟩
  obtain ⟨left, hle, hrest⟩ := walk_append_of_walk (walk_of_resolve hbefore hmid)
  rw [resolve_relativeText hall, if_neg (by simp [hw] : before ++ way ≠ [])]
  split
  · rfl
  · split
    · next hlinks => exact hlinks
    · next hlinks =>
      rw [hrest] at hlinks ⊢
      rw [← walk_of_le hle hlinks]
      exact walk_of_resolve hway hid

/-! ## Paths from the root -/

/-- A filler leads from a directory to itself, and nowhere from anything else. -/
lemma step_filler (t : Tree) (here : NodeId) (hs : Path.isFiller s = true) :
    t.step here s = if t.isDirectory here then .ok here else .error .notDirectory := by
  rw [step, isDirectory]
  cases t.node? here with
  | none => rfl
  | some node => cases node <;> simp [hs]

/-- A walk goes on from a directory behind a filler, and ends there at anything else. -/
lemma walk_filler (hs : Path.isFiller s = true) :
    t.walk links here (s :: rest) =
      if t.isDirectory here then t.walk links here rest else .error .notDirectory := by
  have hstep := t.step_filler here hs
  rw [walk_cons]
  split at hstep
  · next hd =>
    have hlink : ∀ target, t.node? here ≠ some (.link target) := by
      rintro target hnode
      simp [isDirectory, hnode] at hd
    rw [advance_of_ne_link hstep hlink, if_pos hd]
    rfl
  · next hd =>
    rw [advance_of_error hstep, if_neg hd]
    rfl

/-- The path of names leads from the root through these, wherever it is taken from. -/
lemma of_resolve_absoluteText {names : List String} (hnames : ∀ s ∈ names, IsName s)
    (h : t.resolve here (absoluteText names) = .ok id) :
    (absoluteText names).utf8ByteSize < maxPath ∧ t.walk maxLinks root names = .ok id := by
  rw [resolve, if_neg (Path.absoluteText_ne_empty names), start, Path.isAbsolute_absoluteText,
    if_pos rfl, Path.segments_absoluteText, walk_filler (by decide)] at h
  split_ifs at h with hlong hroot
  refine ⟨Nat.lt_of_not_le hlong, ?_⟩
  cases names with
  | nil =>
    have hempty : Path.segments (Path.joinNames []) = [""] := by decide
    rwa [hempty, walk_filler (by decide), if_pos hroot] at h
  | cons name names =>
    have hne : name :: names ≠ [] := List.cons_ne_nil name names
    rwa [Path.segments_joinNames hne fun s hs => (hnames s hs).2] at h

/-! ## Trees without links -/

/-- There are no links in a tree. -/
def IsLinkFree (t : Tree) : Prop :=
  ∀ node ∈ t.nodes, node.isLink = false

/-- Whether there are links is decided node by node. -/
instance (t : Tree) : Decidable t.IsLinkFree :=
  inferInstanceAs (Decidable (∀ node ∈ t.nodes, node.isLink = false))

/-- Where there are no links no node is one. -/
lemma IsLinkFree.ne_link (hl : t.IsLinkFree) (id : NodeId) (target : String) :
    t.node? id ≠ some (.link target) := fun h => by
  simpa [Node.isLink] using hl _ (List.mem_of_getElem? h)

/-- A single segment does not fail for too many links. -/
lemma step_ne_tooManyLinks (t : Tree) (here : NodeId) (s : String) :
    t.step here s ≠ .error .tooManyLinks := by
  rw [step]
  split
  · split_ifs
    · simp
    · simp
    · simp [Errno.nameTooLong, Errno.tooManyLinks]
    · split <;> simp [Errno.noEntry, Errno.tooManyLinks]
  · simp [Errno.notDirectory, Errno.tooManyLinks]

namespace IsLinkFree

/-- Without links each name is a step. -/
lemma walk_cons (hl : t.IsLinkFree) (links : Nat) (here : NodeId) (s : String)
    (rest : List String) :
    t.walk links here (s :: rest) = (t.step here s).bind fun id => t.walk links id rest := by
  rw [Tree.walk_cons]
  rcases t.step_cases here s with ⟨e, hstep⟩ | ⟨id, target, -, hlink⟩ | ⟨id, hstep, hlink⟩
  · rw [advance_of_error hstep, hstep]
    rfl
  · exact absurd hlink (hl.ne_link id target)
  · rw [advance_of_ne_link hstep hlink, hstep]
    rfl

/-- Without links a walk goes on from where the first part of its way leads, with as many links to
spare as before. -/
lemma walk_append (hl : t.IsLinkFree) (hw : t.walk links here before = .ok mid)
    (rest : List String) : t.walk links here (before ++ rest) = t.walk links mid rest := by
  induction before generalizing here with
  | nil =>
    rw [walk_nil] at hw
    obtain rfl := Except.ok.inj hw
    rfl
  | cons s before ih =>
    rw [List.cons_append, hl.walk_cons]
    rw [hl.walk_cons] at hw
    cases hstep : t.step here s with
    | error e =>
      rw [hstep] at hw
      cases hw
    | ok id =>
      rw [hstep] at hw
      exact ih hw

/-- Where there are no links there are never too many. -/
lemma walk_ne_tooManyLinks (hl : t.IsLinkFree) (links : Nat) (here : NodeId)
    (way : List String) : t.walk links here way ≠ .error .tooManyLinks := by
  induction way generalizing here with
  | nil => simp
  | cons s way ih =>
    rw [hl.walk_cons]
    cases hstep : t.step here s with
    | error e =>
      intro he
      obtain rfl := Except.error.inj he
      exact t.step_ne_tooManyLinks here s hstep
    | ok id => exact ih id

end IsLinkFree

end Tree

end UnitLoader
