import Mathlib.Data.List.Forall2
import UnitLoader.Proofs.Handle.Rights
import UnitLoader.Proofs.Lookup
import UnitLoader.Proofs.Tree.Shape
import UnitLoader.Setup.Install

/-!
# Roots that are installed

Installing goes through the roots in order. It replaces the chain by one finder for each root that
was opened, limited by every set of rights, or it leaves the process as the imports in advance left
it.

## Main definitions

* `UnitLoader.SetupM.exec` — the result of a step of the setup and the process that it leaves.
* `UnitLoader.OpenedRoots.Resembles` — roots that were gone through alike in two trees.

## Main results

* `UnitLoader.SetupM.exec_install` — what installing does.
* `UnitLoader.RootFinder.rights_of_openRoot` — the rights that limits leave on a root.
* `UnitLoader.Ambient.SameShape.openRoots` — the same roots are opened in trees of the same shape.
-/

set_option relaxedAutoImplicit false
set_option autoImplicit false

namespace UnitLoader

variable {a : Ambient} {limits : List Rights} {rules : SuffixRules}

/-! ## Steps of the setup -/

namespace SetupM

variable {α β : Type} (host : Host)

/-- The result of a step of the setup and the process that it leaves. -/
def exec (x : SetupM α) (host : Host) : Except SetupError α × Host :=
  x.run.run host

/-- A step goes on with what it gave, or stops at its error. -/
lemma exec_bind (x : SetupM α) (f : α → SetupM β) :
    exec (x >>= f) host = match exec x host with
      | (.ok v, host') => exec (f v) host'
      | (.error e, host') => (.error e, host') := by
  unfold exec ExceptT.run StateT.run
  simp only [bind, ExceptT.bind, ExceptT.mk, StateT.bind, ExceptT.bindCont]
  rcases x host with ⟨_ | v, host'⟩ <;> rfl

/-- Installing imports units in advance, and then replaces the chain if all roots can be opened. -/
lemma exec_install (a : Ambient) (roots : List String) (limits : List Rights) (names : List String)
    (rules : SuffixRules) :
    exec (install a roots limits names rules) host = match exec (preload a names) host with
      | (.error e, host') => (.error e, host')
      | (.ok _, host') => match openRoots a limits rules roots with
        | .error e => (.error e, host')
        | .ok done => (.ok ⟨names, done.opened, done.skipped⟩,
            { host' with loader := { host'.loader with chain := done.finders } }) := by
  rw [install, exec_bind]
  rcases exec (preload a names) host with ⟨_ | _, host'⟩
  · rfl
  · dsimp only
    rw [exec_bind]
    cases openRoots a limits rules roots <;> rfl

/-- With nothing to preload nothing happens. -/
lemma exec_preload_nil (a : Ambient) : exec (preload a []) host = (.ok (), host) := rfl

end SetupM

/-! ## Roots -/

/-- Limits that are taken one after the other narrow the rights one after the other. -/
lemma Handle.rights_of_limits {limits : List Rights} {h g : Handle}
    (hl : limits.foldlM Handle.limit h = .ok g) : g.rights = limits.foldl narrow h.rights := by
  induction limits generalizing h with
  | nil =>
    obtain rfl := Except.ok.inj hl
    rfl
  | cons limit limits ih =>
    rw [List.foldlM_cons] at hl
    obtain ⟨mid, hmid, hl⟩ := Outcome.bind_eq_ok.1 hl
    rw [Handle.limit_eq] at hmid
    split at hmid
    · cases hmid
    · obtain rfl := Except.ok.inj hmid
      exact ih hl

/-- A root that is opened has the rights that its limits leave. -/
lemma RootFinder.rights_of_openRoot {path : String} {f : RootFinder}
    (ho : RootFinder.openRoot a path rules limits = .ok f) :
    f.root.rights = limits.foldl Handle.narrow none := by
  obtain ⟨h, root, hh, hlimits, rfl⟩ := RootFinder.of_openRoot ho
  obtain ⟨name, id, -, -, rfl⟩ := Handle.of_openRoot hh
  exact Handle.rights_of_limits hlimits

/-! ## Trees of the same shape -/

section Shape

variable {b : Ambient} {R : NodeId → NodeId → Prop} {done done' : OpenedRoots}
  {fs gs : List RootFinder}

/-- Roots that were gone through alike: the same were opened and skipped, and the finders correspond
and have certain rights. -/
structure OpenedRoots.Resembles (R : NodeId → NodeId → Prop) (rights : Option Rights)
    (done done' : OpenedRoots) : Prop where
  finders : ∃ fs gs, done.finders = fs.map .root ∧ done'.finders = gs.map .root ∧
    List.Forall₂ (RootFinder.Resembles R) fs gs ∧ ∀ f ∈ fs, f.root.rights = rights
  opened : done'.opened = done.opened
  skipped : done'.skipped = done.skipped

/-- Trees of the same shape have chains that serve the same paths. -/
lemma Ambient.SameShape.any_serves (h : a.SameShape b R)
    (hm : List.Forall₂ (RootFinder.Resembles R) fs gs) (path : String) :
    (gs.map Finder.root).any (·.serves b path) = (fs.map Finder.root).any (·.serves a path) := by
  induction hm with
  | nil => rfl
  | cons hfg _ ih =>
    rw [List.map_cons, List.map_cons, List.any_cons, List.any_cons, ih, h.serves hfg]

/-- One more root is gone through alike. -/
lemma Ambient.SameShape.add (h : a.SameShape b R) (limits : List Rights) (rules : SuffixRules)
    (hm : done.Resembles R (limits.foldl Handle.narrow none) done') (root : String) :
    Alike (OpenedRoots.Resembles R (limits.foldl Handle.narrow none))
      (done.add a limits rules root) (done'.add b limits rules root) := by
  obtain ⟨⟨fs, gs, hfs, hgs, hfg, hrights⟩, hopened, hskipped⟩ := hm
  have hopen := h.openRoot root rules limits
  rw [OpenedRoots.add, OpenedRoots.add, h.isDirectory, hfs, hgs, h.any_serves hfg]
  split
  · generalize hf : RootFinder.openRoot a root rules limits = x at hopen
    generalize RootFinder.openRoot b root rules limits = y at hopen
    cases hopen with
    | error e => exact .error _
    | @ok f g hroot =>
      refine .ok ⟨⟨fs ++ [f], gs ++ [g], ?_, ?_, List.rel_append hfg (.cons hroot .nil), ?_⟩, ?_,
        hskipped⟩
      · rw [List.map_append, List.map_singleton]
      · rw [List.map_append, List.map_singleton]
      · intro f' hf'
        rcases List.mem_append.1 hf' with hmem | hmem
        · exact hrights f' hmem
        · obtain rfl := List.mem_singleton.1 hmem
          exact RootFinder.rights_of_openRoot hf
      · rw [hopened]
  · exact .ok ⟨⟨fs, gs, rfl, rfl, hfg, hrights⟩, hopened, by rw [hskipped]⟩

/-- The same roots are opened and skipped in trees of the same shape, and the finders correspond. -/
theorem Ambient.SameShape.openRoots (h : a.SameShape b R) (limits : List Rights)
    (rules : SuffixRules) (roots : List String) :
    Alike (OpenedRoots.Resembles R (limits.foldl Handle.narrow none))
      (openRoots a limits rules roots) (openRoots b limits rules roots) := by
  refine .foldlM ?_ (fun _ _ root hm => h.add limits rules hm root) roots
  exact ⟨⟨[], [], rfl, rfl, .nil, by simp⟩, rfl, rfl⟩

end Shape

end UnitLoader
