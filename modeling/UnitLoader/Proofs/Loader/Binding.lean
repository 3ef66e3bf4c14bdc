import UnitLoader.Proofs.Loader.Surroundings

/-!
# Children in the units around them

A unit that is brought in becomes an attribute of the unit around it. As long as nothing fails and
nothing is evicted, it stays one. A unit that native code of another unit registers is not brought
in, and the unit around it is not told.

## Main definitions

* `UnitLoader.Loader.Reached` — loaders that calls from outside lead to.
* `UnitLoader.Moment.IsBound` — a unit has an attribute for a child, or the child was registered by
  native code of another unit.

## Main results

* `UnitLoader.Steps.isBoundSince` — whatever loads bring in without a failure is bound.
* `UnitLoader.import?_binds` — the units that an import brings in are bound in those around them.
-/

set_option relaxedAutoImplicit false
set_option autoImplicit false

namespace UnitLoader

open LoadM (exec)
open UnitName (parent? lineage short)

variable {a : Ambient} {l : Loader} {name : String} {m m' : Moment} {k : Nat} {id : UnitId}

/-! ## Loaders in use -/

/-- A loader that imports, evictions and reclamations lead to from one with nothing registered. -/
inductive Loader.Reached : Loader → Prop
  | fresh (chain : List Finder) (builtins : Builtins) : Reached { chain, builtins }
  | imported {l : Loader} (h : Reached l) (a : Ambient) (name : String) : Reached (l.after a name)
  | evicted {l : Loader} (h : Reached l) (name : String) : Reached (l.evict name)
  | reclaimed {l l' : Loader} (h : Reached l) {names evicted : List String}
      (hr : l.reclaim? names = some (l', evicted)) : Reached l'

/-- What each eviction keeps several keep. -/
lemma Loader.evictAll_of_evict {P : Loader → Prop} (hP : ∀ l name, P l → P (l.evict name))
    (h : P l) (names : List String) : P (l.evictAll names).1 := by
  induction names generalizing l with
  | nil => exact h
  | cons name names ih =>
    rw [evictAll]
    split
    · exact ih (hP l name h)
    · exact ih h

/-- What evictions keep is kept by a reclamation. -/
lemma Loader.of_reclaim? {P : Loader → Prop} {l' : Loader} {names evicted : List String}
    (hP : ∀ l name, P l → P (l.evict name)) (h : P l)
    (hr : l.reclaim? names = some (l', evicted)) : P l' := by
  unfold Loader.reclaim? Gate.reclaim? at hr
  split at hr
  · cases hr
  · have he : l.evictAll names = (l', evicted) := Option.some.inj hr
    have hall := evictAll_of_evict hP h names
    rwa [he] at hall

/-- A loader in use has a valid registry. -/
lemma Loader.Reached.valid (h : l.Reached) : l.registry.Valid := by
  induction h with
  | fresh chain builtins =>
    intro name id hid
    simp [Registry.find?] at hid
  | imported _ a name ih => exact ih.after a name
  | evicted _ name ih => exact ih.evict name
  | reclaimed _ hr ih =>
    exact Loader.of_reclaim? (P := (·.registry.Valid)) (fun _ name hv => hv.evict name) ih hr

/-! ## Attributes that stay -/

namespace LoadedUnit

variable {u : LoadedUnit} {key : String}

/-- An attribute that a unit has is not lost when one is set. -/
lemma isSome_setAttribute (h : (u.attribute? key).isSome) (other : String) (value : Value) :
    ((u.setAttribute other value).attribute? key).isSome := by
  rw [attribute?_setAttribute]
  split
  · rfl
  · exact h

/-- A unit that is told its origin loses no attribute. -/
lemma isSome_bindMetadata (h : (u.attribute? key).isSome) (origin : String)
    (kind : Option ArtifactKind) (locations : Option (List String)) :
    ((u.bindMetadata (some origin) kind locations).attribute? key).isSome := by
  rw [attribute?_bindMetadata]
  split
  · next hk => simp [hk, h]
  · split
    · rfl
    · split
      · rfl
      · split
        · rfl
        · exact h

end LoadedUnit

/-- A step takes no attribute from a unit. -/
lemma Step.isSome_attribute (h : Step a k m m') {key : String}
    (hid : id < m.loader.registry.nextId)
    (hk : ((m.loader.registry.unit id).attribute? key).isSome) :
    ((m'.loader.registry.unit id).attribute? key).isSome := by
  have hmodify : ∀ (r : Registry) (other : UnitId) (f : LoadedUnit → LoadedUnit),
      ((r.unit id).attribute? key).isSome → ((f (r.unit id)).attribute? key).isSome →
        (((r.modify other f).unit id).attribute? key).isSome := by
    intro r other f hr hf
    rw [Registry.unit_modify]
    split
    · exact hf
    · exact hr
  cases h with
  | builtin _ _ | portions _ _ | begin _ _ _ =>
    rw [← Registry.unit_modify_insertNew hid] at hk
    exact hk
  | register _ _ =>
    rw [← Registry.unit_insertNew_of_lt hid] at hk
    exact hk
  | assign _ | set _ _ | adopt _ _ _ =>
    exact hmodify _ _ _ hk (LoadedUnit.isSome_setAttribute hk _ _)
  | bind _ _ => exact hmodify _ _ _ hk (LoadedUnit.isSome_bindMetadata hk _ _ _)
  | _ => exact hk

/-! ## Units that are bound -/

/-- A unit has an attribute for a child, or native code of another unit registered the child since
another loader. -/
def Moment.IsBound (l : Loader) (m : Moment) (parent child : String) : Prop :=
  (∃ id, m.loader.registry.find? parent = some id ∧
    ((m.loader.registry.unit id).attribute? (short child)).isSome) ∨
  ∃ es caller, m.loader.history = es ++ l.history ∧ .registered child caller ∈ es ∧ caller ≠ child

/-- All that was registered since another loader is bound, unless it is being brought in. -/
def Moment.IsBoundSince (l : Loader) (m : Moment) : Prop :=
  ∀ child parent id, l.registry.find? child = none → parent? child = some parent →
    m.loader.registry.find? child = some id →
    (∃ searchPath, .bringing child searchPath ∈ m.frames) ∨ m.IsBound l parent child

/-- A step without a failure takes no unit away. -/
lemma Step.find?_of_calm (h : Step a k m m')
    (hc : failures m'.loader.history = failures m.loader.history)
    (hr : m.loader.registry.find? name = some id) : m'.loader.registry.find? name = some id := by
  cases h with
  | fail => simp [failures] at hc
  | builtin hfree _ | portions hfree _ | begin hfree _ _ | register _ hfree =>
    exact Registry.find?_insertNew_of_some hfree hr
  | _ => exact hr

/-- A step without a failure leaves a unit bound. -/
lemma Step.isBound (h : Step a k m m') (hv : m.loader.registry.Valid)
    (hc : failures m'.loader.history = failures m.loader.history) {parent child : String}
    (hb : m.IsBound l parent child) : m'.IsBound l parent child := by
  refine hb.imp ?_ ?_
  · rintro ⟨id, hr, hk⟩
    exact ⟨id, h.find?_of_calm hc hr, h.isSome_attribute (hv parent id hr).1 hk⟩
  · rintro ⟨es, caller, hes, hmem, hne⟩
    obtain ⟨new, -, hnew, -⟩ := h.history
    exact ⟨new ++ es, caller, by rw [hnew, hes, List.append_assoc], List.mem_append_right new hmem,
      hne⟩

/-- What a step registers is being brought in, or native code of another unit registers it. -/
lemma Step.registers (h : Step a k m m') {child : String}
    (hid : m'.loader.registry.find? child = some id) :
    m.loader.registry.find? child = some id ∨
      (∃ searchPath, .bringing child searchPath ∈ m'.frames) ∨
      ∃ caller, m'.loader.history = .registered child caller :: m.loader.history ∧
        caller ≠ child := by
  cases h with
  | builtin _ _ | portions _ _ =>
    rcases Registry.find?_insertNew_cases hid with ⟨rfl, -⟩ | hr
    · exact .inr (.inl ⟨_, List.mem_cons_self ..⟩)
    · exact .inl hr
  | begin _ _ _ =>
    rcases Registry.find?_insertNew_cases hid with ⟨rfl, -⟩ | hr
    · exact .inr (.inl ⟨_, List.mem_cons_of_mem _ (List.mem_cons_self ..)⟩)
    · exact .inl hr
  | @register name other searchPath _ _ _ _ _ _ =>
    rcases Registry.find?_insertNew_cases hid with ⟨rfl, -⟩ | hr
    · by_cases he : name = other
      · subst he
        exact .inr (.inl ⟨searchPath, List.mem_cons_self ..⟩)
      · exact .inr (.inr ⟨name, rfl, he⟩)
    · exact .inl hr
  | fail => exact .inl (Registry.find?_evict_eq_some.1 hid).2
  | _ => exact .inl hid

/-- A registered unit is being brought in until it is bound in the unit around it. -/
lemma Step.bringing_or_bound (h : Step a k m m') (hv : m.loader.registry.Valid)
    {child parent : String} {searchPath : Option (List String)} (hp : parent? child = some parent)
    (hid : m'.loader.registry.find? child = some id)
    (hf : .bringing child searchPath ∈ m.frames) :
    .bringing child searchPath ∈ m'.frames ∨
      ∃ parentId, m'.loader.registry.find? parent = some parentId ∧
        ((m'.loader.registry.unit parentId).attribute? (short child)).isSome := by
  cases h with
  | @adopt name around searchPath _ aroundId _ _ _ har hpr =>
    rcases List.mem_cons.1 hf with he | hf
    · cases he
      obtain rfl := Option.some.inj (har.symm.trans hp)
      refine .inr ⟨aroundId, hpr, ?_⟩
      rw [Loader.registry_modifyUnit, Registry.unit_modify, if_pos ⟨rfl, (hv _ _ hpr).1⟩,
        LoadedUnit.attribute?_setAttribute, if_pos rfl]
      rfl
    · exact .inl hf
  | settle _ hnone =>
    rcases List.mem_cons.1 hf with he | hf
    · cases he
      rw [hnone] at hp
      cases hp
    · exact .inl hf
  | abandon hnone =>
    rcases List.mem_cons.1 hf with he | hf
    · cases he
      rw [hnone] at hid
      cases hid
    · exact .inl hf
  | ask _ | bring _ _ _ | begin _ _ _ => exact .inl (List.mem_cons_of_mem _ hf)
  | give _ | deny | finish | fail => exact .inl (by simpa using hf)
  | _ => exact .inl hf

/-- A step without a failure binds what it does not leave being brought in. -/
lemma Step.isBoundSince (h : Step a k m m') (hv : m.loader.registry.Valid)
    (hc : failures m'.loader.history = failures m.loader.history)
    (hh : ∃ es, m.loader.history = es ++ l.history) (hm : m.IsBoundSince l) :
    m'.IsBoundSince l := by
  intro child parent id hfree hp hid
  rcases h.registers hid with hr | hf | ⟨caller, hcaller, hne⟩
  · rcases hm child parent id hfree hp hr with ⟨searchPath, hf⟩ | hb
    · exact (h.bringing_or_bound hv hp hid hf).imp (⟨searchPath, ·⟩) .inl
    · exact .inr (h.isBound hv hc hb)
  · exact .inl hf
  · obtain ⟨es, hes⟩ := hh
    exact .inr (.inr ⟨_ :: es, caller, hcaller.trans (congrArg _ hes), List.mem_cons_self .., hne⟩)

/-- Failures are not forgotten. -/
lemma Steps.failures_le (h : Steps a m m') :
    failures m.loader.history ≤ failures m'.loader.history := by
  induction h with
  | refl => exact Nat.le_refl _
  | tail _ hstep ih => exact Nat.le_trans ih hstep.failures_le

/-- Whatever loads bring in without a failure is bound in the end.

**Proof sketch.** By induction on the steps. Failures are not forgotten, so that none of the steps
is a failure if there are no more at the end. -/
theorem Steps.isBoundSince (h : Steps a ⟨[.asking name], l⟩ m) (hl : l.registry.Valid)
    (hc : failures m.loader.history = failures l.history) : m.IsBoundSince l := by
  induction h with
  | refl =>
    intro child parent id hfree _ hid
    rw [hfree] at hid
    cases hid
  | @tail m m' hsteps hstep ih =>
    have hle : failures l.history ≤ failures m.loader.history := Steps.failures_le hsteps
    have hle' := hstep.failures_le
    obtain ⟨es, hes, -⟩ := Steps.history hsteps
    exact hstep.isBoundSince (Steps.valid hsteps hl) (by omega) ⟨es, hes⟩ (ih (by omega))

/-- Take the units from an imported one outwards, as far as none of them was registered before. The
unit around each of them is registered afterwards, and has an attribute for it, unless native code
of another unit registered it.

**Proof sketch.** Importing goes on inwards only from a unit that is registered, and an import that
gives a unit has had no failure. So no unit was evicted meanwhile, and what was bound stays bound. -/
theorem import?_binds (a : Ambient) (l : Loader) (hl : l.Reached) (name : String) (id : UnitId)
    (h : (exec (import? a name) l).1 = .ok id) :
    let l' := l.after a name
    ∀ child ∈ lineage name,
      (∀ inner ∈ lineage name, child ∈ lineage inner → l.registry.find? inner = none) →
      ∀ parent, parent? child = some parent → ∃ parentId,
        l'.registry.find? parent = some parentId ∧
        (((l'.registry.unit parentId).attribute? (short child)).isSome ∨
          ∃ es caller, l'.history = es ++ l.history ∧ .registered child caller ∈ es ∧
            caller ≠ child) := by
  intro l' child hchild hfree parent hp
  have hok : exec (import? a name) l = (.ok id, l') := Prod.ext h rfl
  obtain ⟨⟨childId, hr⟩, hparents⟩ := (registered_of_import? hok).2 child hchild hfree
  obtain ⟨parentId, hpr⟩ := hparents parent hp
  have hcalm : failures l'.history = failures l.history := by
    have horderly : Orderly l [.asking name] := trivial
    have hfollows := import?_follows a horderly
    exact hfollows.calm id h
  have hself : l.registry.find? child = none := hfree child hchild (UnitName.self_mem_lineage child)
  have hsteps := steps_import? a l name
  rcases Steps.isBoundSince hsteps hl.valid hcalm child parent childId hself hp hr with
    ⟨searchPath, hf⟩ | ⟨parentId', hpr', hk⟩ | hnative
  · simp at hf
  · exact ⟨parentId', hpr', .inl hk⟩
  · exact ⟨parentId, hpr, .inr hnative⟩

/-- A child that is registered is given at once, although the unit around it was evicted. That unit is
not imported again. -/
theorem import?_binds_not_registered :
    let a : Ambient := ⟨.package "" "x = 1", Tree.root⟩
    let l := (Loader.rooted.after a "p.c").evict "p"
    (exec (import? a "p.c") l).1.toOption = some 1 ∧
      (l.after a "p.c").registry.find? "p" = none := by
  decide +kernel

/-- A child that native code registers while the unit around it is brought in is given at once. The
unit around it is not told: `q` imports `core`, whose entry point registers `q.core`. -/
theorem import?_binds_not_native :
    let library : NativeLibrary :=
      ⟨some "core", [.register (some "core"), .register (some "q.core"), .setInt (some "k") 1]⟩
    let script := Text.Utf8.encode "import core as z".toList
    let a : Ambient := ⟨⟨[.directory 0 (.ofList [("core.so", 1), ("q", 2)]) 0,
      .file (.library library) 0, .directory 0 (.ofList [("__init__.src", 3)]) 0,
      .file (.bytes script) 0]⟩, Tree.root⟩
    (exec (import? a "q.core") .rooted).1.toOption = some 2 ∧
      (Loader.rooted.after a "q.core").registry.find? "q" = some 0 ∧
      (((Loader.rooted.after a "q.core").registry.unit 0).attribute? "core").isSome = false := by
  decide +kernel

/-- A package that was not registered is told of its child. -/
theorem import?_binds_package :
    let a : Ambient := ⟨.package "" "x = 1", Tree.root⟩
    let l' := Loader.rooted.after a "p.c"
    Loader.rooted.Reached ∧ ∃ id parentId, (exec (import? a "p.c") .rooted).1 = .ok id ∧
      l'.registry.find? "p" = some parentId ∧
      (((l'.registry.unit parentId).attribute? (short "p.c")).isSome ∨
        ∃ es caller, l'.history = es ++ Loader.rooted.history ∧ .registered "p.c" caller ∈ es ∧
          caller ≠ "p.c") := by
  intro a l'
  have hl : Loader.rooted.Reached := .fresh _ .standard
  have hgiven : (exec (import? a "p.c") .rooted).1.toOption.isSome = true := by decide +kernel
  obtain ⟨id, hid⟩ : ∃ id, (exec (import? a "p.c") .rooted).1 = .ok id := by
    cases hr : (exec (import? a "p.c") .rooted).1 with
    | ok id => exact ⟨id, rfl⟩
    | error e =>
      rw [hr] at hgiven
      cases hgiven
  obtain ⟨parentId, hparent⟩ := import?_binds a .rooted hl "p.c" id hid "p.c"
    (UnitName.self_mem_lineage "p.c") (fun _ _ _ => rfl) "p" (by decide)
  exact ⟨hl, id, parentId, hid, hparent⟩

end UnitLoader
