import UnitLoader.Proofs.Loader.Surroundings

/-!
# Imports that fail

A load that fails takes away the unit that it created, and nothing else. So a unit is not registered
after an import of it failed, unless the failure was that of the unit around it: the program of that
unit may have imported the unit before it failed.

## Main results

* `UnitLoader.nextId_le_of_import?` — a unit that was not registered is a new one when it is given.
* `UnitLoader.find?_none_or_parent` — a unit is not registered after its own failure.
* `UnitLoader.import?_error` — what is registered after an import failed.
-/

set_option relaxedAutoImplicit false
set_option autoImplicit false

namespace UnitLoader

open LoadM (exec)
open UnitName (parent? ancestors)

variable {a : Ambient} {l l' : Loader} {name : String} {e : LoadError}

/-- A unit that was not registered is a new one when it is given. -/
lemma nextId_le_of_import? {id : UnitId} (hfree : l.registry.find? name = none)
    (h : exec (import? a name) l = (.ok id, l')) : l.registry.nextId ≤ id := by
  have hsteps := steps_import? a l name
  rw [Loader.after, h] at hsteps
  rcases hsteps.find?_or_new.2 name id (registered_of_import? h).1 with hr | hle
  · rw [hfree] at hr
    cases hr
  · exact hle

/-- A unit that could not be brought in is not registered. -/
lemma find?_none_of_bring {searchPath : Option (List String)} (hfree : l.registry.find? name = none)
    (h : exec (bring a (import? a) name searchPath) l = (.error e, l')) :
    l'.registry.find? name = none := by
  have hfollows := bring_follows (s := []) (n := 0) hfree ⟨List.not_mem_nil, trivial⟩
    fun id p => supplies_import? a (.running name id p :: [.bringing name searchPath])
  have hpost := hfollows.post
  rw [h] at hpost
  exact hpost

/-- A unit that could not be brought into the one around it is not registered. -/
lemma find?_none_of_bringInside {parent : String} {parentId : UnitId}
    (h : exec (bringInside a (import? a) name parent parentId) l = (.error e, l')) :
    l'.registry.find? name = none := by
  cases hname : l.registry.find? name with
  | some id =>
    rw [LoadM.exec_bringInside_of_registered hname] at h
    cases h
  | none =>
    rw [LoadM.exec_bringInside hname] at h
    split at h
    · rcases hb : exec (bring a (import? a) name _) l with ⟨_ | _, l''⟩
      · rw [hb] at h
        cases h
        exact find?_none_of_bring hname hb
      · rw [hb] at h
        cases h
    · cases h
      exact hname

/-- After an import failed either the unit is not registered, or the failure was that of the unit
around it. -/
lemma find?_none_or_parent (hfree : l.registry.find? name = none)
    (h : exec (import? a name) l = (.error e, l')) :
    l'.registry.find? name = none ∨ ∃ parent, parent? name = some parent ∧
      l.registry.find? parent = none ∧ exec (import? a parent) l = (.error e, l') := by
  rw [exec_import?_eq, importOnce] at h
  split at h
  · next hi =>
    cases haround : ancestors name with
    | nil =>
      rw [haround, LoadM.exec_importLineage_of_outermost hfree] at h
      exact .inl (find?_none_of_bring hfree h)
    | cons parent around =>
      obtain ⟨hp, haround'⟩ := UnitName.parent?_of_ancestors_cons haround
      rw [haround, LoadM.exec_importLineage hfree, LoadM.exec_bind] at h
      rcases hl : exec (importLineage a (import? a) parent around) l with ⟨_ | parentId, l₁⟩
      · rw [hl] at h
        cases h
        refine .inr ⟨parent, hp, ?_, ?_⟩
        · by_contra hr
          obtain ⟨id, hid⟩ := Option.ne_none_iff_exists'.1 hr
          rw [LoadM.exec_importLineage_of_registered hid] at hl
          cases hl
        · rw [exec_import?_eq, importOnce, if_pos (UnitName.isImportable_of_parent? hp hi),
            haround', hl]
      · rw [hl] at h
        exact .inl (find?_none_of_bringInside h)
  · cases h
    exact .inl hfree

/-- An import of a unit that is not registered fails in one of two ways. Either the unit is not
registered afterwards, and is a new one if it is given later. Or the unit around it was not
registered either, and an import of that one alone fails in the same way; then the unit may have
been imported meanwhile, and if it was, it stays registered and is given from then on.

**Proof sketch.** What brings in a unit evicts it again if that fails, so that the unit is registered
only if the units around it failed first. Then it was not reached at all, and all that happened is
the import of the unit around it. -/
theorem import?_error (a : Ambient) (l : Loader) (name : String)
    (hfree : l.registry.find? name = none) (e : LoadError)
    (h : (exec (import? a name) l).1 = .error e) :
    let l' := l.after a name
    (l'.registry.find? name = none ∧
      ∀ b id, (exec (import? b name) l').1 = .ok id → l'.registry.nextId ≤ id) ∨
    ∃ parent id, parent? name = some parent ∧ l.registry.find? parent = none ∧
      exec (import? a parent) l = (.error e, l') ∧ l'.registry.find? name = some id ∧
      ∀ b, exec (import? b name) l' = (.ok id, l') := by
  intro l'
  have he : exec (import? a name) l = (.error e, l') := Prod.ext h rfl
  cases hr : l'.registry.find? name with
  | none =>
    exact .inl ⟨rfl, fun b id hid => nextId_le_of_import? hr (Prod.ext hid rfl)⟩
  | some id =>
    rcases find?_none_or_parent hfree he with hnone | ⟨parent, hp, hpfree, hpe⟩
    · rw [hr] at hnone
      cases hnone
    · -- Otherwise nothing would have happened, and the unit would not be registered.
      have hi : UnitName.isImportable name := by
        by_contra hi
        rw [exec_import?_eq, importOnce, if_neg hi, LoadM.exec_throw, Prod.mk.injEq] at he
        rw [← he.2, hfree] at hr
        cases hr
      exact .inr ⟨parent, id, hp, hpfree, hpe, rfl, fun b => exec_import?_of_registered b hi hr⟩

/-- A failure of the unit around leaves a child registered, which is given from then on. And a unit
whose program is run again can end differently: the child that it asks for is registered by then, so
that it is not told of it again. -/
theorem import?_error_not_final :
    let a : Ambient := ⟨.package "import p.c\nraise boom" "x = 1", Tree.root⟩
    let b : Ambient := ⟨.package "import sys as c\nimport p.c as d\nv = c.arch" "", Tree.root⟩
    let l := Loader.rooted
    l.registry.find? "p.c" = none ∧ (exec (import? a "p.c") l).1.toOption = none ∧
      (l.after a "p.c").registry.find? "p.c" = some 1 ∧
      (exec (import? a "p.c") (l.after a "p.c")).1.toOption = some 1 ∧
      l.registry.find? "p" = none ∧ (exec (import? b "p") l).1.toOption = none ∧
      (l.after b "p").registry.find? "p" = none ∧
      (exec (import? b "p") (l.after b "p")).1.toOption = some 3 := by
  decide +kernel

/-- A package that fails after it imported a child leaves the child. -/
theorem import?_error_package :
    let a : Ambient := ⟨.package "import p.c\nraise boom" "x = 1", Tree.root⟩
    let l' := Loader.rooted.after a "p.c"
    ∃ e parent id, parent? "p.c" = some parent ∧ Loader.rooted.registry.find? parent = none ∧
      exec (import? a parent) .rooted = (.error e, l') ∧ l'.registry.find? "p.c" = some id ∧
      ∀ b, exec (import? b "p.c") l' = (.ok id, l') := by
  intro a l'
  have hfail : (exec (import? a "p.c") .rooted).1.toOption = none := by decide +kernel
  have hleft : ((Loader.rooted.after a "p.c").registry.find? "p.c").isSome = true := by
    decide +kernel
  obtain ⟨e, he⟩ : ∃ e, (exec (import? a "p.c") .rooted).1 = .error e := by
    cases hr : (exec (import? a "p.c") .rooted).1 with
    | error e => exact ⟨e, rfl⟩
    | ok id =>
      rw [hr] at hfail
      cases hfail
  rcases import?_error a .rooted "p.c" (by decide) e he with ⟨hnone, -⟩ | hparent
  · rw [hnone] at hleft
    cases hleft
  · exact ⟨e, hparent⟩

end UnitLoader
