import UnitLoader.Loader.Load
import UnitLoader.Proofs.Resemblance

/-!
# Trees that agree beneath a directory

Two trees can have the same files and directories beneath two of their directories, and differ
anywhere else. Handles on these directories then give the same answers, and what looking up a name
finds through them is the same, as long as there are no links on which ways lead elsewhere.

## Main definitions

* `UnitLoader.Tree.SameBeneath` — there is the same beneath nodes of two trees, and no links.
* `UnitLoader.Handle.Matches`, `UnitLoader.Resolution.Matches` — handles and resolutions that
  differ in the numbers of nodes only.

## Main results

* `UnitLoader.Tree.SameBeneath.resolve` — the same paths lead to nodes with the same beneath them.
* `UnitLoader.Handle.Matches.readSource`, `UnitLoader.Handle.Matches.readCache` — the same is read.
* `UnitLoader.findInChain_matches` — the same is found.
-/

set_option relaxedAutoImplicit false
set_option autoImplicit false

namespace UnitLoader

/-! ## Nodes -/

/-- What there is at a node, apart from where it is and what is beneath it. -/
inductive Outline where
  | file (content : Content) (mtime : Int)
  | directory (mtime : Int)
  | link (target : String)

/-- What there is at a node. -/
def Node.outline : Node → Outline
  | .file content mtime => .file content mtime
  | .directory _ _ mtime => .directory mtime
  | .link target => .link target

namespace Tree

/-- What there is at the end of a way down, if there is a node. -/
def outline? (t : Tree) (here : NodeId) (way : List String) : Option (Option Outline) :=
  (t.down? here way).map fun id => (t.node? id).map Node.outline

/-- A way down from a directory goes on from the entry that its first segment names. -/
lemma outline?_cons {t : Tree} {here p : NodeId} {es : Table NodeId} {mtime : Int}
    (h : t.node? here = some (.directory p es mtime)) (s : String) (way : List String) :
    t.outline? here (s :: way) = (es.get? s).bind (t.outline? · way) := by
  rw [outline?, down?_cons h]
  cases es.get? s <;> rfl

/-- There is the same at nodes of two trees and beneath them, and no links. -/
structure SameBeneath (t u : Tree) (i j : NodeId) : Prop where
  outline : ∀ way, u.outline? j way = t.outline? i way
  linkless : ∀ way, ¬ t.MeetsLink i way

namespace SameBeneath

open UnitLoader.Path (IsName)

variable {t u : Tree} {i j : NodeId} {s : String} {way : List String}

/-- At both nodes there is nothing, the same file, or a directory of the same time. -/
lemma node?_cases (h : t.SameBeneath u i j) :
    (t.node? i = none ∧ u.node? j = none) ∨
    (∃ content mtime, t.node? i = some (.file content mtime) ∧
      u.node? j = some (.file content mtime)) ∨
    ∃ p q es fs mtime, t.node? i = some (.directory p es mtime) ∧
      u.node? j = some (.directory q fs mtime) := by
  have hnode : (u.node? j).map Node.outline = (t.node? i).map Node.outline :=
    Option.some.inj (h.outline [])
  have hlink : ∀ target, t.node? i ≠ some (.link target) := fun target hl =>
    h.linkless [] ⟨[], i, target, List.prefix_rfl, rfl, hl⟩
  cases hi : t.node? i with
  | none =>
    rw [hi] at hnode
    exact .inl ⟨rfl, Option.map_eq_none_iff.1 hnode⟩
  | some m =>
    rw [hi] at hnode
    obtain ⟨n, hj, hn⟩ := Option.map_eq_some_iff.1 hnode
    cases m with
    | file content mtime => cases n <;> cases hn; exact .inr (.inl ⟨content, mtime, rfl, hj⟩)
    | directory p es mtime =>
      cases n <;> cases hn; exact .inr (.inr ⟨p, _, es, _, mtime, rfl, hj⟩)
    | link target => exact absurd hi (hlink target)

/-- Nodes with the same beneath them are both directories or neither is. -/
lemma isDirectory (h : t.SameBeneath u i j) : u.isDirectory j = t.isDirectory i := by
  rcases h.node?_cases with ⟨hi, hj⟩ | ⟨_, _, hi, hj⟩ | ⟨_, _, _, _, _, hi, hj⟩ <;>
    rw [Tree.isDirectory, Tree.isDirectory, hi, hj]

/-- The same is told of nodes with the same beneath them. -/
lemma metadata (h : t.SameBeneath u i j) : u.metadata j = t.metadata i := by
  rcases h.node?_cases with ⟨hi, hj⟩ | ⟨_, _, hi, hj⟩ | ⟨_, _, _, _, _, hi, hj⟩ <;>
    rw [Tree.metadata, Tree.metadata, hi, hj]

/-- The same is read from nodes with the same beneath them. -/
lemma read (h : t.SameBeneath u i j) : u.read j = t.read i := by
  rcases h.node?_cases with ⟨hi, hj⟩ | ⟨_, _, hi, hj⟩ | ⟨_, _, _, _, _, hi, hj⟩ <;>
    rw [Tree.read, Tree.read, hi, hj]

/-- The entries of a name are nodes with the same beneath them. -/
lemma entry {p q : NodeId} {es fs : Table NodeId} {mtime : Int} (h : t.SameBeneath u i j)
    (ht : t.node? i = some (.directory p es mtime)) (hu : u.node? j = some (.directory q fs mtime))
    (s : String) : Option.Rel (t.SameBeneath u) (es.get? s) (fs.get? s) := by
  have hsame (way) : (fs.get? s).bind (u.outline? · way) = (es.get? s).bind (t.outline? · way) := by
    rw [← outline?_cons ht, ← outline?_cons hu]
    exact h.outline (s :: way)
  have hdown (way) : t.down? i (s :: way) = (es.get? s).bind (t.down? · way) := down?_cons ht
  generalize es.get? s = x at hsame hdown ⊢
  generalize fs.get? s = y at hsame ⊢
  cases x with
  | none =>
    cases y with
    | none => exact .none
    | some n => cases hsame []
  | some m =>
    cases y with
    | none => cases hsame []
    | some n => exact .some ⟨hsame, fun way hm => h.linkless (s :: way) (hm.cons hdown)⟩

/-- The same names lead on to nodes with the same beneath them. -/
lemma step (h : t.SameBeneath u i j) (hs : IsName s) :
    Alike (t.SameBeneath u) (t.step i s) (u.step j s) := by
  rw [Tree.step_of_isName hs, Tree.step_of_isName hs]
  rcases h.node?_cases with ⟨ht, hu⟩ | ⟨_, _, ht, hu⟩ | ⟨p, q, es, fs, mtime, ht, hu⟩
  · rw [ht, hu]
    exact .error _
  · rw [ht, hu]
    exact .error _
  · have hentry := h.entry ht hu s
    rw [ht, hu]
    dsimp only
    generalize es.get? s = x at hentry ⊢
    generalize fs.get? s = y at hentry ⊢
    split_ifs
    · exact .error _
    · cases hentry with
      | none => exact .error _
      | some hmn => exact .ok hmn

/-- Walking through the same names leads to nodes with the same beneath them. -/
lemma walkWith (h : t.SameBeneath u i j) (hway : ∀ s ∈ way, IsName s)
    (follow : NodeId → List String → Except Errno NodeId)
    (follow' : NodeId → List String → Except Errno NodeId) :
    Alike (t.SameBeneath u) (t.walkWith follow i way) (u.walkWith follow' j way) := by
  induction way generalizing i j with
  | nil => exact .ok h
  | cons s way ih =>
    obtain ⟨hs, hway⟩ := List.forall_mem_cons.1 hway
    have hstep := h.step hs
    rw [Tree.walkWith, Tree.walkWith]
    generalize t.step i s = x at hstep
    generalize u.step j s = y at hstep
    cases hstep with
    | error e => exact .error e
    | @ok m n hmn =>
      have hrest := ih hmn hway
      rcases hmn.node?_cases with ⟨ht, hu⟩ | ⟨_, _, ht, hu⟩ | ⟨_, _, _, _, _, ht, hu⟩ <;>
        simp only [ht, hu] <;> exact hrest

/-- The path of a way down leads to nodes with the same beneath them. -/
lemma resolve (h : t.SameBeneath u i j) (hway : ∀ s ∈ way, IsName s) :
    Alike (t.SameBeneath u) (t.resolve i (Path.relativeText way))
      (u.resolve j (Path.relativeText way)) := by
  rw [resolve_relativeText hway, resolve_relativeText hway, h.isDirectory]
  split_ifs
  · exact .error _
  · exact .ok h
  · exact .error _
  · exact h.walkWith hway _ _

/-- Trees with the same nodes beneath a directory have the same beneath it. -/
lemma of_nodes (S : NodeId → Prop) (hnode : ∀ id, S id → u.node? id = t.node? id)
    (hlink : ∀ id target, S id → t.node? id ≠ some (.link target))
    (hentry : ∀ id p es mtime, S id → t.node? id = some (.directory p es mtime) →
      ∀ s n, es.get? s = some n → S n) (hi : S i) : t.SameBeneath u i i := by
  -- Ways down stay among the given nodes, and so they lead to the same.
  have hdown : ∀ way i, S i →
      u.down? i way = t.down? i way ∧ ∀ n, t.down? i way = some n → S n := by
    intro way
    induction way with
    | nil =>
      intro i hi
      refine ⟨rfl, fun n hn => ?_⟩
      obtain rfl := Option.some.inj hn
      exact hi
    | cons s way ih =>
      intro i hi
      rw [down?, down?, hnode i hi]
      cases hd : t.node? i with
      | none => exact ⟨rfl, by simp⟩
      | some node =>
        cases node with
        | directory p es mtime =>
          dsimp only
          cases hs : es.get? s with
          | none => exact ⟨rfl, by simp⟩
          | some n => exact ih n (hentry i p es mtime hi hd s n hs)
        | _ => exact ⟨rfl, by simp⟩
  refine ⟨fun way => ?_, fun way hm => ?_⟩
  · obtain ⟨hsame, hin⟩ := hdown way i hi
    rw [outline?, outline?, hsame]
    cases hn : t.down? i way with
    | none => rfl
    | some n => simp [hnode n (hin n hn)]
  · obtain ⟨before, n, target, -, hn, hl⟩ := hm
    exact hlink n target ((hdown before i hi).2 n hn) hl

end SameBeneath

end Tree

/-! ## Handles -/

variable {t u : Tree}

/-- Nodes with the same beneath them correspond. -/
lemma Tree.Resemblance.sameBeneath (t u : Tree) : t.Resemblance u (t.SameBeneath u) :=
  ⟨SameBeneath.isDirectory, SameBeneath.metadata, SameBeneath.resolve⟩

namespace Handle

/-- Handles on directories with the same beneath them, which differ in the numbers of these. -/
abbrev Matches (t u : Tree) : Handle → Handle → Prop :=
  Resembles (t.SameBeneath u)

namespace Matches

variable {h g : Handle}

/-- A source is read alike through handles on directories with the same beneath them. -/
lemma readSource (hm : h.Matches t u g) (path : String) :
    g.readSource u path = h.readSource t path := by
  refine Alike.eq ((hm.openArtifact (.sameBeneath t u) path).bind fun file file' hfile => ?_)
  obtain ⟨hname, hnode⟩ := hfile
  rw [hname, hnode.read]
  exact .refl _

/-- A cache is read alike through handles on directories with the same beneath them, and is as
fresh. -/
lemma readCache (hm : h.Matches t u g) (cache : String) (source : Option String) :
    g.readCache u cache source = h.readCache t cache source := by
  refine Alike.eq ((hm.openArtifact (.sameBeneath t u) cache).bind fun file file' hfile => ?_)
  obtain ⟨hname, hnode⟩ := hfile
  rw [hname, hnode.read]
  refine (Alike.refl _).bind fun v w hvw => ?_
  subst hvw
  cases source with
  | none => exact .refl _
  | some source =>
    refine (Alike.of_eq (hm.ensureFresh (.sameBeneath t u) source v.1 file.name)).bind
      fun _ _ _ => ?_
    exact .refl _

end Matches

end Handle

/-! ## Artifacts -/

/-- Artifacts that differ in the numbers of their directories only. -/
abbrev Artifact.Matches (t u : Tree) : Artifact → Artifact → Prop :=
  Resembles (t.SameBeneath u)

/-- The same library is linked. -/
lemma Artifact.Matches.link {x y : Artifact} (hm : x.Matches t u y) : y.link u = x.link t := by
  rw [Artifact.link, Artifact.link, hm.path, hm.origin]
  refine Alike.eq ((hm.directory.openArtifact (.sameBeneath t u) x.path).bind
    fun file file' hfile => ?_)
  rcases hfile.2.node?_cases with ⟨hi, hj⟩ | ⟨_, _, hi, hj⟩ | ⟨_, _, _, _, _, hi, hj⟩ <;>
    rw [hi, hj] <;> exact .refl _

/-! ## Lookups -/

/-- Resolutions that differ in the numbers of directories only. -/
abbrev Resolution.Matches (t u : Tree) : Resolution → Resolution → Prop :=
  Resembles (t.SameBeneath u)

/-- Finders with the same rules, on roots that differ in their numbers only. -/
abbrev RootFinder.Matches (t u : Tree) : RootFinder → RootFinder → Prop :=
  Resembles (t.SameBeneath u)

/-- The same is found in chains of finders on roots with the same beneath them. -/
lemma findInChain_matches {a b : Ambient} {fs gs : List RootFinder}
    (hm : List.Forall₂ (RootFinder.Matches a.tree b.tree) fs gs) (name : String)
    (searchPath : Option (List String)) :
    Alike (Option.Rel (Resolution.Matches a.tree b.tree))
      (findInChain a name searchPath (fs.map .root))
      (findInChain b name searchPath (gs.map .root)) :=
  findInChain_resembles (.sameBeneath a.tree b.tree) hm name searchPath

end UnitLoader
