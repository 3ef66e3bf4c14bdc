import UnitLoader.Proofs.Loader.Failure

/-!
# Where units are brought in, and why imports fail

An import of a unit that is not registered imports the unit around it first, and so on outwards.
Then the unit is brought in, in the loader that these imports leave. So an import fails where a unit
is brought in, be it the unit itself or one around it, and there it fails for one of few reasons.

## Main definitions

* `UnitLoader.Loader.Prepares` — the loader in which a unit is brought in.
* `UnitLoader.Loader.BringsIn` — the units that are brought in by an import, and the loaders in
  which they are.
* `UnitLoader.Loader.Lacks` — nothing can be found for a unit.
* `UnitLoader.Loader.Breaks` — an artifact is found for a unit, and loading it fails.

## Main results

* `UnitLoader.exec_import?_of_prepares` — an import brings in its unit in the loader that is
  prepared.
* `UnitLoader.exec_bring_error` — why a unit is not brought in.
* `UnitLoader.import?_error_cases` — why an import fails.
-/

set_option relaxedAutoImplicit false
set_option autoImplicit false

namespace UnitLoader

open LoadM (exec)
open UnitName (parent? ancestors)

variable {a : Ambient} {l l₁ l' : Loader} {name parent : String}
  {searchPath : Option (List String)} {e : LoadError}

/-! ## Where a unit is brought in -/

/-- The loader in which a unit is brought in if it is not registered there: that in which it was
asked for, or the one after the unit around it was imported. -/
inductive Loader.Prepares (a : Ambient) (l : Loader) (name : String) : Loader → Prop
  | outermost (hp : parent? name = none) : Prepares a l name l
  | within {parent : String} {id : UnitId} {l₁ : Loader} (hp : parent? name = some parent)
      (hi : exec (import? a parent) l = (.ok id, l₁)) : Prepares a l name l₁

/-- After an import of the unit around it the loader is prepared for a unit. -/
lemma Loader.Prepares.after (hp : parent? name = some parent)
    (h : (exec (import? a parent) l).1.toOption.isSome = true) :
    l.Prepares a name (l.after a parent) := by
  cases hi : (exec (import? a parent) l).1 with
  | error e => simp [hi, Except.toOption] at h
  | ok id => exact .within hp (Prod.ext hi rfl)

/-- The loader in which a unit that was brought in is an attribute of the unit around it. -/
def Loader.adopted (l : Loader) (name : String) : Loader :=
  match (parent? name).bind l.registry.find? with
  | some id => l.modifyUnit id (·.setAttribute (UnitName.short name) (.unit name))
  | none => l

/-- The import of an importable name imports the units around it first. -/
lemma exec_import?_eq_importLineage (hi : UnitName.isImportable name) :
    exec (import? a name) l = exec (importLineage a (import? a) name (ancestors name)) l := by
  rw [exec_import?_eq, importOnce, if_pos hi]

/-- The import of a unit with a unit around it imports that one, and brings the unit in inside. -/
lemma exec_import?_within (hi : UnitName.isImportable name) (hfree : l.registry.find? name = none)
    (hp : parent? name = some parent) :
    exec (import? a name) l = match exec (import? a parent) l with
      | (.ok id, l₁) => exec (bringInside a (import? a) name parent id) l₁
      | (.error e, l₁) => (.error e, l₁) := by
  obtain ⟨around, haround⟩ : ∃ around, ancestors name = parent :: around := by
    rw [UnitName.ancestors_eq, hp]
    exact ⟨_, UnitName.lineage_eq parent⟩
  rw [exec_import?_eq_importLineage hi, haround, LoadM.exec_importLineage hfree, LoadM.exec_bind,
    exec_import?_eq_importLineage (UnitName.isImportable_of_parent? hp hi),
    (UnitName.parent?_of_ancestors_cons haround).2]
  rcases exec (importLineage a (import? a) parent around) l with ⟨_ | _, l₁⟩ <;> rfl

/-- The import of a unit with no unit around it brings the unit in at once. -/
lemma exec_import?_outermost (hi : UnitName.isImportable name)
    (hfree : l.registry.find? name = none) (hp : parent? name = none) :
    exec (import? a name) l = exec (bring a (import? a) name none) l := by
  have haround : ancestors name = [] := by rw [UnitName.ancestors_eq, hp]
  rw [exec_import?_eq_importLineage hi, haround, LoadM.exec_importLineage_of_outermost hfree]

/-- Bringing in a unit keeps what is registered. -/
lemma find?_of_bring {other : String} {id : UnitId} (hfree : l.registry.find? name = none)
    (hr : l.registry.find? other = some id) (searchPath : Option (List String)) :
    (exec (bring a (import? a) name searchPath) l).2.registry.find? other = some id := by
  have hfollows := bring_follows (s := []) (n := 0) hfree ⟨List.not_mem_nil, trivial⟩
    fun id p => supplies_import? a (.running name id p :: [.bringing name searchPath])
  exact (hfollows.steps.find?_of_not_running hr (by simp [Frame.runningNames])).1

/-- An import brings in its unit in the loader that is prepared, and binds it in the unit around. -/
theorem exec_import?_of_prepares (hi : UnitName.isImportable name)
    (hfree : l.registry.find? name = none) (hl : l.Prepares a name l₁)
    (hfree₁ : l₁.registry.find? name = none) (hs : l₁.Searches name searchPath) :
    exec (import? a name) l = match exec (bring a (import? a) name searchPath) l₁ with
      | (.ok id, l₂) => (.ok id, l₂.adopted name)
      | (.error e, l₂) => (.error e, l₂) := by
  cases hl with
  | outermost hp =>
    cases hs with
    | within hp' _ _ => exact absurd hp' (by simp [hp])
    | anywhere _ =>
      rw [exec_import?_outermost hi hfree hp]
      rcases exec (bring a (import? a) name none) l with ⟨_ | id, l₂⟩
      · rfl
      · simp [Loader.adopted, hp]
  | @within parent parentId _ hp hparent =>
    cases hs with
    | anywhere hp' => exact absurd hp (by simp [hp'])
    | @within _ id hp' hr hc =>
      obtain rfl := Option.some.inj (hp.symm.trans hp')
      obtain rfl := Option.some.inj (hr.symm.trans (registered_of_import? hparent).1)
      have hkept := find?_of_bring (a := a) hfree₁ hr (some (l₁.registry.unit id).locations)
      rw [exec_import?_within hi hfree hp, hparent]
      dsimp only
      rw [LoadM.exec_bringInside hfree₁, if_pos hc]
      rcases hb : exec (bring a (import? a) name _) l₁ with ⟨_ | _, l₂⟩
      · rfl
      · rw [hb] at hkept
        simp [Loader.adopted, hp, hkept]

/-- There is one place at most where a unit is looked for. -/
lemma Loader.Searches.unique {other : Option (List String)} (hs : l.Searches name searchPath)
    (ho : l.Searches name other) : searchPath = other := by
  cases hs with
  | anywhere hp =>
    cases ho with
    | anywhere _ => rfl
    | within hp' _ _ => exact absurd hp' (by simp [hp])
  | within hp hr _ =>
    cases ho with
    | anywhere hp' => exact absurd hp (by simp [hp'])
    | within hp' hr' _ =>
      obtain rfl := Option.some.inj (hp.symm.trans hp')
      obtain rfl := Option.some.inj (hr.symm.trans hr')
      rfl

/-! ## Why a unit is not brought in -/

/-- A unit is not brought in if looking for it fails, if nothing is found, or if loading what is
found fails. -/
theorem exec_bring_error (hfree : l.registry.find? name = none)
    (h : exec (bring a (import? a) name searchPath) l = (.error e, l')) :
    l.builtins.get? name = none ∧
      ((l.find a name searchPath = .error e ∧ l' = l) ∨
        (l.find a name searchPath = .ok none ∧ e = .missingArtifact (.unit name) ∧ l' = l) ∨
        ∃ artifact strategy, l.find a name searchPath = .ok (some (.artifact artifact strategy)) ∧
          exec (artifact.load a.tree (import? a) strategy) l = (.error e, l')) := by
  rw [LoadM.exec_bring] at h
  cases hb : l.builtins.get? name with
  | some bindings =>
    rw [hb] at h
    dsimp only at h
    rw [LoadM.exec_describe hfree] at h
    cases h
  | none =>
    refine ⟨rfl, ?_⟩
    rw [hb, LoadM.exec_bringFound] at h
    cases hf : l.find a name searchPath with
    | error e' =>
      rw [hf] at h
      cases h
      exact .inl ⟨rfl, rfl⟩
    | ok found =>
      rw [hf] at h
      match found, hf with
      | none, hf =>
        cases h
        exact .inr (.inl ⟨rfl, rfl, rfl⟩)
      | some (.artifact artifact strategy), hf =>
        refine .inr (.inr ⟨artifact, strategy, rfl, ?_⟩)
        obtain rfl := name_of_find hf
        have hload := load_follows (s := []) (n := 0) hfree hf ⟨List.not_mem_nil, trivial⟩
          (fun id p => supplies_import? a
            (.running artifact.name id p :: [.bringing artifact.name searchPath]))
        have hpost := hload.post
        dsimp only at h
        rw [LoadM.exec_onError] at h
        rcases hx : exec (artifact.load a.tree (import? a) strategy) l with ⟨_ | _, l₂⟩
        · rw [hx] at h hpost
          cases h
          -- The unit was evicted where it failed, so that evicting it again changes nothing.
          rw [Loader.evict, Resolution.name, Registry.evict_of_find?_none hpost]
        · rw [hx] at h
          cases h
      | some (.portions m locations), hf =>
        obtain rfl : m = name := name_of_find hf
        have hdescribe := LoadM.exec_describe hfree (·.bindMetadata none none (some locations))
        cases hdescribe.symm.trans h

/-! ## Why an import fails -/

/-- The units that are brought in by an import of a unit that is not registered, as far as it comes:
the unit, or one around it that is not registered either, each in the loader that is prepared for
it. -/
inductive Loader.BringsIn (a : Ambient) (l : Loader) : String → String → Loader → Prop
  | here {name : String} {l₁ : Loader} (hl : l.Prepares a name l₁)
      (hfree : l₁.registry.find? name = none) : BringsIn a l name name l₁
  | around {name parent other : String} {l₁ : Loader} (hp : parent? name = some parent)
      (hfree : l.registry.find? parent = none) (h : BringsIn a l parent other l₁) :
      BringsIn a l name other l₁

/-- Nothing can be found for a unit: where it or a unit around it is brought in, the unit around
that one is no container, or it is no builtin and the chain finds nothing. -/
def Loader.Lacks (a : Ambient) (l : Loader) (name : String) : Prop :=
  ∃ other l₁, l.BringsIn a name other l₁ ∧ ∀ searchPath, l₁.Searches other searchPath →
    l₁.builtins.get? other = none ∧ l₁.find a other searchPath = .ok none

/-- Looking for a unit, or for one around it, fails. -/
def Loader.Baffles (a : Ambient) (l : Loader) (name : String) (e : LoadError) : Prop :=
  ∃ other l₁ searchPath, l.BringsIn a name other l₁ ∧ l₁.Searches other searchPath ∧
    l₁.find a other searchPath = .error e

/-- An artifact is found for a unit, or for one around it, and loading the artifact fails. -/
def Loader.Breaks (a : Ambient) (l : Loader) (name : String) (e : LoadError) (l' : Loader) : Prop :=
  ∃ l₁ searchPath artifact strategy, l.BringsIn a name artifact.name l₁ ∧
    l₁.Searches artifact.name searchPath ∧ l₁.builtins.get? artifact.name = none ∧
    l₁.find a artifact.name searchPath = .ok (some (.artifact artifact strategy)) ∧
    exec (artifact.load a.tree (import? a) strategy) l₁ = (.error e, l')

/-- An import that fails does so where a unit is brought in. -/
lemma exists_bringsIn_of_error (hi : UnitName.isImportable name)
    (hfree : l.registry.find? name = none) (h : exec (import? a name) l = (.error e, l')) :
    ∃ other l₁, l.BringsIn a name other l₁ ∧ l₁.registry.find? other = none ∧
      ((∃ parent, (∀ searchPath, ¬ l₁.Searches other searchPath) ∧
          e = .missingArtifact (.inNoContainer other parent)) ∨
        ∃ searchPath, l₁.Searches other searchPath ∧
          exec (bring a (import? a) other searchPath) l₁ = (.error e, l')) := by
  generalize haround : ancestors name = around
  -- Outwards from the unit: either it was brought in, or the import of the unit around it failed.
  induction around generalizing name with
  | nil =>
    have hp := UnitName.parent?_of_ancestors_nil haround
    rw [exec_import?_outermost hi hfree hp] at h
    exact ⟨name, l, .here (.outermost hp) hfree, hfree, .inr ⟨none, .anywhere hp, h⟩⟩
  | cons parent around ih =>
    obtain ⟨hp, haround'⟩ := UnitName.parent?_of_ancestors_cons haround
    have hi' := UnitName.isImportable_of_parent? hp hi
    rw [exec_import?_within hi hfree hp] at h
    rcases hparent : exec (import? a parent) l with ⟨_ | parentId, l₁⟩
    · rw [hparent] at h
      cases h
      -- If it were registered, it would have been given at once.
      have hfree' : l.registry.find? parent = none := by
        by_contra hr
        obtain ⟨id, hid⟩ := Option.ne_none_iff_exists'.1 hr
        rw [exec_import?_of_registered a hi' hid] at hparent
        cases hparent
      obtain ⟨other, l₁, hbrings, hwhy⟩ := ih hi' hfree' hparent haround'
      exact ⟨other, l₁, .around hp hfree' hbrings, hwhy⟩
    · rw [hparent] at h
      dsimp only at h
      have hr := (registered_of_import? hparent).1
      have hl : l.Prepares a name l₁ := .within hp hparent
      cases hname : l₁.registry.find? name with
      | some id =>
        rw [LoadM.exec_bringInside_of_registered hname] at h
        cases h
      | none =>
        refine ⟨name, l₁, .here hl hname, hname, ?_⟩
        rw [LoadM.exec_bringInside hname] at h
        split at h
        · next hc =>
          refine .inr ⟨_, .within hp hr hc, ?_⟩
          rcases hb : exec (bring a (import? a) name _) l₁ with ⟨_ | _, l₂⟩
          · rw [hb] at h
            exact h
          · rw [hb] at h
            cases h
        · next hc =>
          cases h
          refine .inl ⟨parent, fun searchPath hs => ?_, rfl⟩
          cases hs with
          | anywhere hp' => exact absurd hp (by simp [hp'])
          | within hp' hr' hc' =>
            obtain rfl := Option.some.inj (hp.symm.trans hp')
            obtain rfl := Option.some.inj (hr.symm.trans hr')
            exact hc hc'

/-- **Why an import fails.** The name may be one that cannot be imported. Else nothing can be found
for the unit, or looking for it fails, or loading what is found fails, where each may be so for a
unit around it already.

**Proof sketch.** By induction on the units around. The import of the unit around fails where a unit
is brought in, or leaves the loader that is prepared for the unit; there the unit is brought in,
which fails for one of the reasons of `exec_bring_error`, unless there is no place to look in. -/
theorem import?_error_cases (hfree : l.registry.find? name = none)
    (h : exec (import? a name) l = (.error e, l')) :
    (¬ UnitName.isImportable name ∧ e = .badPath (.unitName name)) ∨
      (l.Lacks a name ∧ ∃ what, e = .missingArtifact what) ∨
      l.Baffles a name e ∨ l.Breaks a name e l' := by
  by_cases hi : UnitName.isImportable name
  · obtain ⟨other, l₁, hbrings, hother, ⟨parent, hno, he⟩ | ⟨searchPath, hs, hbring⟩⟩ :=
      exists_bringsIn_of_error hi hfree h
    · exact .inr (.inl ⟨⟨other, l₁, hbrings, fun _ hs => absurd hs (hno _)⟩, _, he⟩)
    · obtain ⟨hb, ⟨hf, -⟩ | ⟨hf, he, -⟩ | ⟨artifact, strategy, hf, hload⟩⟩ :=
        exec_bring_error hother hbring
      · exact .inr (.inr (.inl ⟨other, l₁, searchPath, hbrings, hs, hf⟩))
      · refine .inr (.inl ⟨⟨other, l₁, hbrings, fun searchPath' hs' => ?_⟩, _, he⟩)
        obtain rfl := hs.unique hs'
        exact ⟨hb, hf⟩
      · obtain rfl : artifact.name = other := name_of_find hf
        exact .inr (.inr (.inr ⟨l₁, searchPath, artifact, strategy, hbrings, hs, hb, hf, hload⟩))
  · rw [exec_import?_of_not_isImportable a l hi] at h
    cases h
    exact .inl ⟨hi, rfl⟩

/-- If there is no place where a unit is looked for, or nothing is found there, its import fails. -/
lemma Loader.Prepares.exec_import?_of_nothing (hl : l.Prepares a name l₁)
    (hi : UnitName.isImportable name) (hfree : l.registry.find? name = none)
    (hfree₁ : l₁.registry.find? name = none)
    (hnothing : ∀ searchPath, l₁.Searches name searchPath →
      l₁.builtins.get? name = none ∧ l₁.find a name searchPath = .ok none) :
    ∃ what, exec (import? a name) l = (.error (.missingArtifact what), l₁) := by
  by_cases hplace : ∃ searchPath, l₁.Searches name searchPath
  · obtain ⟨searchPath, hs⟩ := hplace
    obtain ⟨hb, hf⟩ := hnothing searchPath hs
    refine ⟨.unit name, ?_⟩
    rw [exec_import?_of_prepares hi hfree hl hfree₁ hs, LoadM.exec_bring, hb]
    dsimp only
    rw [LoadM.exec_bringFound, hf]
  · cases hl with
    | outermost hp => exact absurd ⟨none, .anywhere hp⟩ hplace
    | @within parent parentId _ hp hparent =>
      refine ⟨.inNoContainer name parent, ?_⟩
      rw [exec_import?_within hi hfree hp, hparent]
      dsimp only
      rw [LoadM.exec_bringInside hfree₁, if_neg]
      intro hc
      exact hplace ⟨_, .within hp (registered_of_import? hparent).1 hc⟩

/-- If nothing can be found for a unit, its import fails, and the error says so. -/
theorem Loader.Lacks.exec_import? (h : l.Lacks a name) (hi : UnitName.isImportable name)
    (hfree : l.registry.find? name = none) :
    ∃ what l', exec (import? a name) l = (.error (.missingArtifact what), l') := by
  obtain ⟨other, l₁, hbrings, hnothing⟩ := h
  induction hbrings with
  | here hl hfree₁ =>
    obtain ⟨what, hwhat⟩ := hl.exec_import?_of_nothing hi hfree hfree₁ hnothing
    exact ⟨what, _, hwhat⟩
  | around hp hfree' _ ih =>
    obtain ⟨what, l', hwhat⟩ := ih (UnitName.isImportable_of_parent? hp hi) hfree' hnothing
    refine ⟨what, l', ?_⟩
    rw [exec_import?_within hi hfree hp, hwhat]

end UnitLoader
