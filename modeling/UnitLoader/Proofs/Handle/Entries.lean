import Mathlib.Algebra.Order.BigOperators.Group.List
import Mathlib.Algebra.Order.Ring.Nat
import UnitLoader.Proofs.Handle.Descent
import UnitLoader.Proofs.Suffix
import UnitLoader.Proofs.Way

/-!
# Entries of directories

In a tree without links, the path of an entry of a directory leads to the entry or, if there is
none, to a name that is not there. It is otherwise only if the path, or a name on it, has more bytes
than the operating system takes, or holds a NUL.

## Main definitions

* `UnitLoader.Path.isTooLong` — what the operating system does not take for its length.
* `UnitLoader.Handle.NamesEntry` — a path names an entry of a directory, be there one or not.
* `UnitLoader.Handle.refuses` — the operating system refuses a path for its length.

## Main results

* `UnitLoader.Handle.NamesEntry.stat?` — what is told about an entry.
* `UnitLoader.Handle.NamesEntry.replaceSuffix?` — with another suffix a path names an entry of the
  same directory.
-/

set_option relaxedAutoImplicit false
set_option autoImplicit false

namespace UnitLoader

open UnitLoader.Path (IsName relativeText)

/-! ## Lengths -/

/-- The operating system does not take the path of a way for its length, or a name on it. -/
def Path.isTooLong (way : List String) : Bool :=
  Tree.maxPath ≤ (relativeText way).utf8ByteSize || way.any (Tree.maxName < ·.utf8ByteSize)

/-- The path of few names that are short enough is short enough. -/
lemma Path.isTooLong_of_le {way : List String} (hlength : way.length ≤ 16)
    (hle : ∀ s ∈ way, s.utf8ByteSize ≤ Tree.maxName) : isTooLong way = false := by
  have hpath : (relativeText way).utf8ByteSize < Tree.maxPath := by
    by_cases hnil : way = []
    · subst hnil
      decide
    · have hsum : (way.map (·.utf8ByteSize + 1)).sum ≤ way.length * (Tree.maxName + 1) := by
        have hbound := List.sum_le_card_nsmul (way.map (·.utf8ByteSize + 1)) (Tree.maxName + 1)
          (by simpa using hle)
        simpa using hbound
      have hsize := utf8ByteSize_relativeText hnil
      simp only [Tree.maxName, Tree.maxPath] at hsum ⊢
      omega
  simpa [isTooLong, hpath] using hle

/-- If a suffix begins with a dot, what is before it begins as a bare name that the text begins
with. -/
lemma Path.IsBare.head?_of_append_eq {stem suffix stem' old : String} (hstem : IsBare stem)
    (hold : old.toList.head? = some '.') (h : stem ++ suffix = stem' ++ old) :
    ∃ first, first ≠ '.' ∧ stem'.toList.head? = some first := by
  obtain ⟨first, hdot, hfirst⟩ := hstem.exists_head
  have hhead := congrArg (·.toList.head?) h
  simp only [String.toList_append, List.head?_append, hfirst, hold] at hhead
  refine ⟨first, hdot, ?_⟩
  cases hstem' : stem'.toList.head? with
  | none =>
    rw [hstem'] at hhead
    exact absurd (Option.some.inj hhead) hdot
  | some c =>
    rw [hstem'] at hhead
    exact hhead.symm

namespace Tree

variable {t : Tree} {links : Nat} {here mid : NodeId} {s : String} {before rest : List String}

/-- From a directory a name leads to an entry, if it is not too long and there is one. -/
lemma step_cases_of_isDirectory (hd : t.isDirectory here = true) (hs : IsName s) :
    (maxName < s.utf8ByteSize ∧ t.step here s = .error .nameTooLong) ∨
      (s.utf8ByteSize ≤ maxName ∧
        (t.step here s = .error .noEntry ∨ ∃ id, t.step here s = .ok id)) := by
  unfold isDirectory at hd
  split at hd
  · next parent entries mtime hnode =>
    rw [step_of_isName hs, hnode]
    dsimp only
    split
    · next hlong => exact .inl ⟨hlong, rfl⟩
    · next hshort =>
      refine .inr ⟨Nat.le_of_not_lt hshort, ?_⟩
      cases entries.get? s with
      | some id => exact .inr ⟨id, rfl⟩
      | none => exact .inl rfl
  · cases hd

namespace IsLinkFree

/-- The names of a way that leads somewhere are not too long. -/
lemma utf8ByteSize_le_of_walk (hl : t.IsLinkFree) (hbefore : ∀ s ∈ before, IsName s)
    (hw : t.walk links here before = .ok mid) : ∀ s ∈ before, s.utf8ByteSize ≤ maxName := by
  induction before generalizing here with
  | nil => simp
  | cons s before ih =>
    obtain ⟨hs, hbefore⟩ := List.forall_mem_cons.1 hbefore
    have hd : t.isDirectory here = true := isDirectory_of_walk_cons hw
    rw [hl.walk_cons] at hw
    rcases step_cases_of_isDirectory hd hs with ⟨-, hstep⟩ | ⟨hshort, hstep | ⟨id, hstep⟩⟩
    · rw [hstep] at hw
      cases hw
    · rw [hstep] at hw
      cases hw
    · rw [hstep] at hw
      exact List.forall_mem_cons.2 ⟨hshort, ih hbefore hw⟩

/-- The path of an entry of a directory leads to the entry, if there is one and the path is not too
long. -/
lemma resolve_concat (hl : t.IsLinkFree) (hbefore : ∀ s ∈ before, IsName s) (hs : IsName s)
    (hmid : t.walk maxLinks here before = .ok mid) (hd : t.isDirectory mid = true) :
    (Path.isTooLong (before ++ [s]) = true ∧
        t.resolve here (relativeText (before ++ [s])) = .error .nameTooLong) ∨
      (Path.isTooLong (before ++ [s]) = false ∧
        (t.resolve here (relativeText (before ++ [s])) = .error .noEntry ∨
          ∃ id, t.resolve here (relativeText (before ++ [s])) = .ok id)) := by
  have hall : ∀ n ∈ before ++ [s], IsName n := by
    simpa [or_imp, forall_and] using And.intro hbefore hs
  have hshort : before.any (maxName < ·.utf8ByteSize) = false := by
    simpa using hl.utf8ByteSize_le_of_walk hbefore hmid
  have hsingle : t.walk maxLinks mid [s] = t.step mid s := by
    rw [hl.walk_cons]
    cases t.step mid s <;> simp [Except.bind]
  rw [resolve_relativeText hall, if_neg (by simp : before ++ [s] ≠ []), hl.walk_append hmid,
    hsingle, Path.isTooLong, List.any_append, hshort]
  by_cases hpath : maxPath ≤ (relativeText (before ++ [s])).utf8ByteSize
  · exact .inl ⟨by simp [hpath], if_pos hpath⟩
  · rw [if_neg hpath]
    rcases step_cases_of_isDirectory hd hs with ⟨hlong, hstep⟩ | ⟨hle, hstep⟩
    · exact .inl ⟨by simp [hlong], hstep⟩
    · exact .inr ⟨by simpa [hpath] using hle, hstep⟩

end IsLinkFree

end Tree

/-! ## Entries of directories -/

namespace Handle

variable {h : Handle} {t : Tree} {path s : String} {way before : List String} {dir mid : NodeId}
  {e : LoadError}

/-- A path names an entry of a directory that is reached through a handle, be there such an entry or
not. -/
structure NamesEntry (h : Handle) (t : Tree) (path : String) (before : List String) (s : String) :
    Prop where
  relative : h.relative path = .ok (before ++ [s])
  within : ∃ dir mid, h.directory = some dir ∧ t.walk Tree.maxLinks dir before = .ok mid ∧
    t.isDirectory mid = true

/-- The operating system refuses a path for its length. It is not asked about a path with a NUL. -/
def refuses (h : Handle) (path : String) : Bool :=
  (h.relative path).toOption.any fun way => !holdsNul (relativeText way) && Path.isTooLong way

/-- A path is refused for the length of its way, unless that holds a NUL. -/
lemma refuses_eq (hr : h.relative path = .ok way) :
    h.refuses path = (!holdsNul (relativeText way) && Path.isTooLong way) := by
  rw [refuses, hr]
  rfl

/-- A path of few names that are short enough is not refused. -/
lemma refuses_of_le (hr : h.relative path = .ok way) (hlength : way.length ≤ 16)
    (hle : ∀ s ∈ way, s.utf8ByteSize ≤ Tree.maxName) : h.refuses path = false := by
  rw [refuses_eq hr, Path.isTooLong_of_le hlength hle, Bool.and_false]

/-- What is told of a path is what is known of the node that its way leads to. -/
lemma stat_of_relative (hr : h.relative path = .ok way) (hg : h.grants .fstat = true) :
    h.stat t path = (h.reach t way).map t.metadata := by
  have haccess : h.access t [.fstat] (.ok way) = (h.reach t way).map (way, ·) := by
    rw [access, forM_require_singleton, require, if_pos hg]
    cases hreach : h.reach t way <;> simp [bind, pure, Except.bind, Except.pure, hreach, Except.map]
  rw [stat_eq_access, hr, haccess]
  cases h.reach t way <;> rfl

/-- A file is not opened for what keeps the end of its way from being reached. -/
lemma openArtifact_of_reach_error (hr : h.relative path = .ok way) (hne : way ≠ [])
    (hg : ∀ r, h.grants r = true) (hreach : h.reach t way = .error e) :
    h.openArtifact t path = .error (e.atArtifact (Path.join h.nameText path)) := by
  have hway : h.wayToFile path "rb" = .ok way := by
    rw [wayToFile, if_neg (by decide), hr]
    exact if_neg hne
  rw [openArtifact, openFile, openFileMode_eq_access, hway,
    access_of_reach_error (fun r _ => hg r) hreach]
  rfl

/-- A name is that of an entry of the directory of the handle. -/
lemma namesEntry_of_isName (hroot : h.directory = some dir) (hd : t.isDirectory dir = true)
    (hs : IsName s) : h.NamesEntry t s [] s :=
  ⟨relative_of_isName hs, dir, dir, hroot, Tree.walk_nil .., hd⟩

/-- A name after the path of a directory is that of an entry of it. -/
lemma namesEntry_of_reach (hbefore : ∀ n ∈ before, IsName n) (hs : IsName s)
    (hmid : h.reach t before = .ok mid) (hd : t.isDirectory mid = true) :
    h.NamesEntry t (relativeText (before ++ [s])) before s := by
  obtain ⟨dir, hroot⟩ := exists_directory_of_reach hmid
  refine ⟨relative_relativeText ?_, dir, mid, hroot, ?_, hd⟩
  · simpa [or_imp, forall_and] using And.intro hbefore hs
  · exact walk_of_reach hroot hbefore hmid

namespace NamesEntry

variable (he : h.NamesEntry t path before s) (hl : t.IsLinkFree)

include he hl

/-- A way to an entry is refused for a NUL or for its length, or leads to the entry if there is
one. -/
lemma reach_cases :
    (holdsNul (relativeText (before ++ [s])) = true ∧ h.refuses path = false ∧
        h.reach t (before ++ [s]) = .error (.badPath (.holdsNul (relativeText (before ++ [s]))))) ∨
      (holdsNul (relativeText (before ++ [s])) = false ∧ h.refuses path = true ∧
        h.reach t (before ++ [s]) = .error (.io (.os .nameTooLong))) ∨
      (holdsNul (relativeText (before ++ [s])) = false ∧ h.refuses path = false ∧
        (h.reach t (before ++ [s]) = .error (.io (.os .noEntry)) ∨
          ∃ id, h.reach t (before ++ [s]) = .ok id)) := by
  have hnames := isName_of_relative he.relative
  obtain ⟨dir, mid, hroot, hmid, hd⟩ := he.within
  have hbefore : ∀ n ∈ before, IsName n := fun n hn => hnames n (by simp [hn])
  have hdescriptor : h.descriptor = .ok dir := by rw [descriptor, hroot]
  rw [refuses_eq he.relative, reach_eq, hdescriptor]
  cases hnul : holdsNul (relativeText (before ++ [s])) with
  | true => exact .inl ⟨rfl, rfl, if_pos rfl⟩
  | false =>
    rw [if_neg Bool.false_ne_true]
    dsimp only [bind, Except.bind]
    rcases hl.resolve_concat hbefore (hnames s (by simp)) hmid hd with
      ⟨hlong, hresolve⟩ | ⟨hshort, hresolve | ⟨id, hresolve⟩⟩ <;> rw [hresolve]
    · exact .inr (.inl ⟨rfl, hlong, rfl⟩)
    · exact .inr (.inr ⟨rfl, hshort, .inl rfl⟩)
    · exact .inr (.inr ⟨rfl, hshort, .inr ⟨id, rfl⟩⟩)

/-- **What is told about an entry**, be it that it is not there, unless its path is refused. -/
theorem stat? (hg : h.grants .fstat = true) :
    h.stat? t path =
      if h.refuses path then .error (.io (.os .nameTooLong))
      else .ok (h.stat t path).toOption := by
  rw [Handle.stat?, stat_of_relative he.relative hg]
  rcases he.reach_cases hl with
    ⟨-, hrefuses, hreach⟩ | ⟨-, hrefuses, hreach⟩ | ⟨-, hrefuses, hreach | ⟨id, hreach⟩⟩ <;>
  · rw [hreach, hrefuses]
    rfl

end NamesEntry

/-- What a path with another suffix names is an entry of the same directory. -/
lemma NamesEntry.replaceSuffix? {stem suffix old new other : String}
    (he : h.NamesEntry t path before (stem ++ suffix)) (hstem : Path.IsBare stem)
    (hreplace : replaceSuffix? path old new = some other) (hold : old.toList.head? = some '.')
    (hnew : '/' ∉ new.toList) : ∃ s, h.NamesEntry t other before s := by
  obtain ⟨base, stem', hsplit, rfl⟩ := of_replaceSuffix? hreplace
  obtain ⟨before', hway, hjoin⟩ := Path.relativeTo?_join_of_split? hsplit
    (Outcome.mapError_eq_ok.1 he.relative) (by simp)
  obtain ⟨rfl, hlast⟩ := List.append_inj' hway rfl
  have hname : stem ++ suffix = stem' ++ old := List.singleton_inj.1 hlast
  obtain ⟨first, hdot, hfirst⟩ := hstem.head?_of_append_eq hold hname
  have hslash : '/' ∉ stem'.toList := fun hmem =>
    (isName_of_relative he.relative (stem ++ suffix) (by simp)).2 (by
      rw [hname, String.toList_append]
      exact List.mem_append_left _ hmem)
  have hhead : (stem' ++ new).toList.head? = some first := by
    rw [String.toList_append, List.head?_append, hfirst]
    rfl
  have hother : IsName (stem' ++ new) :=
    Path.isName_of_head hhead hdot (by simp [String.toList_append, hslash, hnew])
  refine ⟨stem' ++ new, ?_, he.within⟩
  rw [Handle.relative, hjoin _ hother]
  rfl

end Handle

end UnitLoader
