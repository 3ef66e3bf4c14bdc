import UnitLoader.Proofs.Loader.Nesting

/-!
# What an import leaves as it was

An import of scripts changes units that were registered before in one way only: they are told of
children that were brought in. And what it leaves registered is whole: a builtin, a namespace, or a
unit whose program ran to its end.

## Main definitions

* `UnitLoader.Tree.IsScripts` — a tree without native libraries.
* `UnitLoader.LoadedUnit.bare` — what is known of a unit apart from its attributes.
* `UnitLoader.LoadedUnit.IsNamespace` — a unit that only has locations.
* `UnitLoader.Moment.IsTold` — a unit has a child as an attribute that was brought in meanwhile.

## Main results

* `UnitLoader.Steps.undisturbed` — loads tell old units of children that they bring in, and no more.
* `UnitLoader.Steps.isWholeSince` — what loads leave registered is whole unless its program is running.
* `UnitLoader.import?_preserves` — what an import leaves as it was, and what it leaves new.
-/

set_option relaxedAutoImplicit false
set_option autoImplicit false

namespace UnitLoader

open LoadM (exec)
open UnitLoader.Frame (runningNames)

variable {a : Ambient} {l : Loader} {name : String} {m m' : Moment} {k : Nat} {id : UnitId}

/-! ## Scripts -/

/-- A tree has no native libraries. -/
def Tree.IsScripts (t : Tree) : Prop :=
  ∀ library mtime, Node.file (.library library) mtime ∉ t.nodes

/-- There is no library to be linked in a tree of scripts. -/
lemma Artifact.link_ne_ok {t : Tree} (ht : t.IsScripts) (artifact : Artifact)
    (library : NativeLibrary) : artifact.link t ≠ .ok library := by
  intro h
  obtain ⟨file, -, h⟩ := Outcome.bind_eq_ok.1 h
  split at h
  · next hnode => exact ht _ _ (List.mem_of_getElem? hnode)
  · cases h

/-- A tree with a package `p` and a child `p.c` of it, by their sources. -/
def Tree.package (initializer child : String) : Tree :=
  let file : String → Node := fun text => .file (.bytes (Text.Utf8.encode text.toList)) 0
  ⟨[.directory 0 (.ofList [("p", 1)]) 0,
    .directory 0 (.ofList [("__init__.src", 2), ("c.src", 3)]) 0, file initializer, file child]⟩

/-- A package of scripts is a tree of scripts. -/
lemma Tree.isScripts_package (initializer child : String) :
    (package initializer child).IsScripts := by
  simp [IsScripts, package]

/-- A loader that looks for units in the root. -/
def Loader.rooted : Loader :=
  { chain := [.root { root := ⟨[], some Tree.root, none⟩, rules := {} }] }

/-- With nothing registered a registry is valid. -/
lemma Loader.valid_rooted : Loader.rooted.registry.Valid := by
  intro name id h
  simp [rooted, Registry.find?] at h

/-! ## Single steps -/

namespace LoadedUnit

/-- What is known of a unit apart from its attributes. -/
def bare (u : LoadedUnit) : LoadedUnit :=
  { u with attributes := .empty }

/-- Setting an attribute changes nothing but attributes. -/
@[simp]
lemma bare_setAttribute (u : LoadedUnit) (key : String) (value : Value) :
    (u.setAttribute key value).bare = u.bare := rfl

/-- A unit that only has locations. -/
def IsNamespace (u : LoadedUnit) : Prop :=
  u.origin = none ∧ u.kind = none ∧ u.isContainer

/-- Attributes do not matter for whether a unit is a directory without an initializer. -/
lemma IsNamespace.of_bare_eq {u v : LoadedUnit} (h : u.IsNamespace) (he : v.bare = u.bare) :
    v.IsNamespace := by
  simp only [bare, mk.injEq] at he
  obtain ⟨-, horigin, hkind, hcontainer, -, -⟩ := he
  obtain ⟨ho, hk, hc⟩ := h
  exact ⟨horigin.trans ho, hkind.trans hk, by rw [hcontainer, hc]⟩

end LoadedUnit

/-- A step of scripts changes nothing but attributes of a unit. -/
lemma Step.bare_eq (h : Step a k m m') (ht : a.tree.IsScripts) (hid : id < m.loader.registry.nextId) :
    (m'.loader.registry.unit id).bare = (m.loader.registry.unit id).bare := by
  have hset : ∀ (r : Registry) (other : UnitId) (key : String) (v : Value),
      ((r.modify other (·.setAttribute key v)).unit id).bare = (r.unit id).bare := by
    intro r other key v
    rw [Registry.unit_modify]
    split <;> simp
  cases h with
  | builtin _ _ | portions _ _ | begin _ _ _ =>
    exact congrArg _ (Registry.unit_modify_insertNew hid _ _)
  | assign _ | adopt _ _ _ => exact hset _ _ _ _
  | register hl _ | set hl _ | bind _ hl => exact absurd hl (Artifact.link_ne_ok ht _ _)
  | _ => rfl

/-- A step of scripts changes the attributes of a unit if its program sets one, or if a child is
brought in. -/
lemma Step.unit_eq_or_adopt (h : Step a k m m') (ht : a.tree.IsScripts)
    (hid : id < m.loader.registry.nextId)
    (hrunning : ∀ unit p, .running unit id p ∉ m.frames) :
    m'.loader.registry.unit id = m.loader.registry.unit id ∨
      ∃ name parent searchPath child, m.frames = .bringing name searchPath :: m'.frames ∧
        UnitName.parent? name = some parent ∧ m.loader.registry.find? name = some child ∧
        m.loader.registry.find? parent = some id ∧
        m'.loader = m.loader.modifyUnit id (·.setAttribute (UnitName.short name) (.unit name)) := by
  cases h with
  | builtin _ _ | portions _ _ | begin _ _ _ => exact .inl (Registry.unit_modify_insertNew hid _ _)
  | assign _ =>
    refine .inl (Registry.unit_modify_of_ne ?_ _)
    rintro rfl
    exact hrunning _ _ (List.mem_cons_self ..)
  | @adopt name parent searchPath child parentId _ _ hr hp hpr =>
    by_cases he : parentId = id
    · subst he
      exact .inr ⟨name, parent, searchPath, child, rfl, hp, hr, hpr, rfl⟩
    · exact .inl (Registry.unit_modify_of_ne he _)
  | register hl _ | set hl _ | bind _ hl => exact absurd hl (Artifact.link_ne_ok ht _ _)
  | _ => exact .inl rfl

/-- A step of scripts changes an attribute of a unit whose program is not running only to tell it of
a child that was being brought in. -/
lemma Step.attribute?_eq_or_told (h : Step a k m m') (ht : a.tree.IsScripts)
    (hv : m.loader.registry.Valid) (ho : Orderly m.loader m.frames) {unit : String}
    (hid : m.loader.registry.find? unit = some id)
    (hrunning : ∀ unit p, .running unit id p ∉ m.frames) (key : String) :
    (m'.loader.registry.unit id).attribute? key = (m.loader.registry.unit id).attribute? key ∨
      (m'.loader.registry.unit id).attribute? key = some (.unit (UnitName.child unit key)) ∧
      (∃ searchPath, .bringing (UnitName.child unit key) searchPath ∈ m.frames) ∧
      ∃ child, m'.loader.registry.find? (UnitName.child unit key) = some child ∧
        UnitName.child unit key ∉ runningNames m'.frames := by
  obtain ⟨hlt, hname⟩ := hv unit id hid
  rcases h.unit_eq_or_adopt ht hlt hrunning with he | hadopt
  · exact .inl (congrArg (LoadedUnit.attribute? · key) he)
  · obtain ⟨name, parent, searchPath, child, hframes, hp, hchild, hparent, he⟩ := hadopt
    obtain rfl : parent = unit := (hv parent id hparent).2.symm.trans hname
    have hset : (m'.loader.registry.unit id).attribute? key =
        if UnitName.short name = key then some (.unit name)
        else (m.loader.registry.unit id).attribute? key := by
      rw [he, Loader.registry_modifyUnit, Registry.unit_modify, if_pos ⟨rfl, hlt⟩,
        LoadedUnit.attribute?_setAttribute]
    by_cases hkey : UnitName.short name = key
    · subst hkey
      rw [if_pos rfl] at hset
      rw [hframes] at ho ⊢
      rw [UnitName.child_short hp]
      exact .inr ⟨hset, ⟨searchPath, List.mem_cons_self ..⟩, child, by rw [he]; exact hchild, ho.1⟩
    · rw [if_neg hkey] at hset
      exact .inl hset

/-! ## Units that were registered before -/

/-- A unit has a child as an attribute that was brought in since another loader. -/
def Moment.IsTold (l : Loader) (m : Moment) (id : UnitId) (unit key : String) : Prop :=
  (m.loader.registry.unit id).attribute? key = some (.unit (UnitName.child unit key)) ∧
    l.registry.find? (UnitName.child unit key) = none ∧
    ∃ child, m.loader.registry.find? (UnitName.child unit key) = some child ∧
      UnitName.child unit key ∉ runningNames m.frames

/-- Since another loader no unit was changed that was registered there, except that it was told of
children that were brought in. -/
structure Moment.Undisturbed (l : Loader) (m : Moment) : Prop where
  nextId_le : l.registry.nextId ≤ m.loader.registry.nextId
  running : ∀ unit id p, .running unit id p ∈ m.frames → l.registry.nextId ≤ id
  bringing : ∀ unit searchPath, .bringing unit searchPath ∈ m.frames → l.registry.find? unit = none
  bare : ∀ unit id, l.registry.find? unit = some id →
    (m.loader.registry.unit id).bare = (l.registry.unit id).bare
  attributes : ∀ unit id, l.registry.find? unit = some id → ∀ key,
    (m.loader.registry.unit id).attribute? key = (l.registry.unit id).attribute? key ∨
      m.IsTold l id unit key

/-- A step tells old units of children that it brings in, and changes them in no other way. -/
lemma Step.undisturbed (h : Step a k m m') (ht : a.tree.IsScripts) (hl : l.registry.Valid)
    (hv : m.loader.registry.Valid) (ho : Orderly m.loader m.frames)
    (hkept : ∀ unit id, l.registry.find? unit = some id → m.loader.registry.find? unit = some id)
    (hm : m.Undisturbed l) : m'.Undisturbed l := by
  obtain ⟨hnext, hrunning, hbringing, hbare, hattr⟩ := hm
  have hlt : ∀ unit id, l.registry.find? unit = some id → id < m.loader.registry.nextId :=
    fun unit id hid => (hv unit id (hkept unit id hid)).1
  refine ⟨Nat.le_trans hnext h.find?_or_new.1, ?_, ?_, fun unit id hid => ?_,
    fun unit id hid key => ?_⟩
  · intro unit id p hf
    rcases h.mem_frames hf with hf | ⟨_, hf⟩ | ⟨_, _, hf, -⟩ | ⟨_, _, hf⟩
    · exact hrunning unit id p hf
    all_goals cases hf
    exact hnext
  · intro unit searchPath hf
    rcases h.mem_frames hf with hf | ⟨_, hf⟩ | ⟨_, _, hf, hfree⟩ | ⟨_, _, hf⟩
    · exact hbringing unit searchPath hf
    all_goals cases hf
    refine Option.eq_none_iff_forall_ne_some.2 fun id hid => ?_
    rw [hkept unit id hid] at hfree
    cases hfree
  · rw [h.bare_eq ht (hlt unit id hid), hbare unit id hid]
  · -- Programs that run are those of units that are newer than the ones from before.
    have hnot : ∀ unit' p, .running unit' id p ∉ m.frames := fun unit' p hf =>
      Nat.not_le.2 (hl unit id hid).1 (hrunning unit' id p hf)
    rcases h.attribute?_eq_or_told ht hv ho (hkept unit id hid) hnot key with he | htold
    · refine (hattr unit id hid key).imp he.trans ?_
      rintro ⟨htold, hfree, child, hchild, hn⟩
      exact ⟨he.trans htold, hfree, child, h.find?_of_not_running hchild hn⟩
    · obtain ⟨htold, ⟨searchPath, hf⟩, hchild⟩ := htold
      exact .inr ⟨htold, hbringing _ searchPath hf, hchild⟩

/-- Loads tell old units of children that they bring in, and change them in no other way. -/
theorem Steps.undisturbed (h : Steps a ⟨[.asking name], l⟩ m) (ht : a.tree.IsScripts)
    (hl : l.registry.Valid) : m.Undisturbed l := by
  induction h with
  | refl =>
    exact ⟨Nat.le_refl _, by simp, by simp, fun _ _ _ => rfl, fun _ _ _ _ => .inl rfl⟩
  | tail hsteps hstep ih =>
    refine hstep.undisturbed ht hl (Steps.valid hsteps hl) (Steps.orderly hsteps trivial) ?_ ih
    exact fun unit id hid => (Steps.find?_of_not_running hsteps hid (List.not_mem_nil)).1

/-! ## Units that are registered later -/

/-- A unit is a builtin, a namespace, or its program ran to its end since another loader. -/
def Moment.IsWhole (l : Loader) (m : Moment) (unit : String) (id : UnitId) : Prop :=
  (∃ bindings, l.builtins.get? unit = some bindings) ∨
    (m.loader.registry.unit id).IsNamespace ∨
    ∃ es, m.loader.history = es ++ l.history ∧ .ended unit id ∈ es

/-- A step does not change the builtins. -/
lemma Step.builtins_eq (h : Step a k m m') : m'.loader.builtins = m.loader.builtins := by
  cases h <;> rfl

/-- A step leaves a unit whole. -/
lemma Step.isWhole (h : Step a k m m') (ht : a.tree.IsScripts) {unit : String}
    (hid : id < m.loader.registry.nextId) (hw : m.IsWhole l unit id) : m'.IsWhole l unit id := by
  refine hw.imp_right (.imp (fun hn => hn.of_bare_eq (h.bare_eq ht hid)) ?_)
  rintro ⟨es, hes, hmem⟩
  obtain ⟨new, -, hnew, -⟩ := h.history
  exact ⟨new ++ es, by rw [hnew, hes, List.append_assoc], List.mem_append_right new hmem⟩

/-- All that was registered since another loader is whole, unless its program is running. -/
def Moment.IsWholeSince (l : Loader) (m : Moment) : Prop :=
  ∀ unit id, l.registry.find? unit = none → m.loader.registry.find? unit = some id →
    (∃ p, .running unit id p ∈ m.frames) ∨ m.IsWhole l unit id

/-- A step of scripts registers a builtin, a namespace, or a unit whose program begins to run. -/
lemma Step.registers_script (h : Step a k m m') (ht : a.tree.IsScripts) {unit : String}
    (hid : m'.loader.registry.find? unit = some id) :
    m.loader.registry.find? unit = some id ∨ (∃ p, .running unit id p ∈ m'.frames) ∨
      (∃ bindings, m.loader.builtins.get? unit = some bindings) ∨
      (m'.loader.registry.unit id).IsNamespace := by
  cases h with
  | builtin _ hget =>
    rcases Registry.find?_insertNew_cases hid with ⟨rfl, -⟩ | hr
    · exact .inr (.inr (.inl ⟨_, hget⟩))
    · exact .inl hr
  | portions _ _ =>
    rcases Registry.find?_insertNew_cases hid with ⟨rfl, rfl⟩ | hr
    · refine .inr (.inr (.inr ?_))
      simp [Registry.unit_modify, LoadedUnit.IsNamespace, LoadedUnit.bindMetadata]
    · exact .inl hr
  | begin _ _ _ =>
    rcases Registry.find?_insertNew_cases hid with ⟨rfl, rfl⟩ | hr
    · exact .inr (.inl ⟨_, List.mem_cons_self ..⟩)
    · exact .inl hr
  | fail => exact .inl (Registry.find?_evict_eq_some.1 hid).2
  | register hl _ | set hl _ | bind _ hl => exact absurd hl (Artifact.link_ne_ok ht _ _)
  | _ => exact .inl hid

/-- A program runs on until it ends or fails. -/
lemma Step.running_or_done (h : Step a k m m') {unit : String} {p : Program}
    (hp : .running unit id p ∈ m.frames) :
    .running unit id p ∈ m'.frames ∨ m'.loader.history = .ended unit id :: m.loader.history ∨
      m'.loader.history = .failed unit id :: m.loader.history ∧
        m'.loader.registry.find? unit = none := by
  cases h with
  | finish =>
    rcases List.mem_cons.1 hp with he | hp
    · cases he
      exact .inr (.inl rfl)
    · exact .inl hp
  | fail =>
    rcases List.mem_cons.1 hp with he | hp
    · cases he
      refine .inr (.inr ⟨rfl, ?_⟩)
      rw [Loader.registry_note, Loader.registry_evict, Registry.find?_evict, if_pos rfl]
    · exact .inl hp
  | ask _ | bring _ _ _ | begin _ _ _ => exact .inl (List.mem_cons_of_mem _ hp)
  | give _ | deny | settle _ _ | adopt _ _ _ | abandon _ => exact .inl (by simpa using hp)
  | _ => exact .inl hp

/-- The program of a unit that stays registered runs on until it ends. -/
lemma Step.running_or_ended (h : Step a k m m') {unit : String} {p : Program}
    (hid : m'.loader.registry.find? unit = some id) (hp : .running unit id p ∈ m.frames) :
    .running unit id p ∈ m'.frames ∨
      m'.loader.history = .ended unit id :: m.loader.history := by
  rcases h.running_or_done hp with hp | hended | ⟨-, hnone⟩
  · exact .inl hp
  · exact .inr hended
  · rw [hnone] at hid
    cases hid

/-- A step leaves whole what it registers, or its program begins to run. -/
lemma Step.isWholeSince (h : Step a k m m') (ht : a.tree.IsScripts)
    (hv : m.loader.registry.Valid) (hb : m.loader.builtins = l.builtins)
    (hh : ∃ es, m.loader.history = es ++ l.history) (hm : m.IsWholeSince l) :
    m'.IsWholeSince l := by
  intro unit id hfree hid
  rcases h.registers_script ht hid with hr | hrunning | hbuiltin | hnamespace
  · rcases hm unit id hfree hr with ⟨p, hp⟩ | hw
    · rcases h.running_or_ended hid hp with hp | hended
      · exact .inl ⟨p, hp⟩
      · obtain ⟨es, hes⟩ := hh
        exact .inr (.inr (.inr ⟨_ :: es, hended.trans (congrArg _ hes), List.mem_cons_self ..⟩))
    · exact .inr (h.isWhole ht (hv unit id hr).1 hw)
  · exact .inl hrunning
  · exact .inr (.inl (hb ▸ hbuiltin))
  · exact .inr (.inr (.inl hnamespace))

/-- What loads leave registered is whole, unless its program is running. -/
theorem Steps.isWholeSince (h : Steps a ⟨[.asking name], l⟩ m) (ht : a.tree.IsScripts)
    (hl : l.registry.Valid) : m.loader.builtins = l.builtins ∧ m.IsWholeSince l := by
  induction h with
  | refl => exact ⟨rfl, fun unit id hfree hid => by simp [hid] at hfree⟩
  | tail hsteps hstep ih =>
    obtain ⟨es, hes, -⟩ := Steps.history hsteps
    exact ⟨hstep.builtins_eq.trans ih.1,
      hstep.isWholeSince ht (Steps.valid hsteps hl) ih.1 ⟨es, hes⟩ ih.2⟩

/-! ## Imports -/

/-- A unit that is registered is given as it is. -/
lemma exec_import?_of_registered (a : Ambient) (hi : UnitName.isImportable name)
    (hr : l.registry.find? name = some id) : exec (import? a name) l = (.ok id, l) := by
  rw [exec_import?_eq]
  exact LoadM.exec_importOnce_of_registered hi hr

/-- A name that cannot be imported is refused before anything happens. -/
lemma exec_import?_of_not_isImportable (a : Ambient) (l : Loader)
    (hi : ¬ UnitName.isImportable name) :
    exec (import? a name) l = (.error (.badPath (.unitName name)), l) := by
  rw [exec_import?_eq, importOnce, if_neg hi, LoadM.exec_throw]

/-- A name that was imported is importable. -/
lemma isImportable_of_import? {l' : Loader} (h : exec (import? a name) l = (.ok id, l')) :
    UnitName.isImportable name := by
  by_contra hi
  rw [exec_import?_of_not_isImportable a l hi] at h
  cases h

/-- However an import of scripts ends, what was registered before it is still registered, with
nothing changed but attributes that are now children brought in; what it registers is a builtin, a
namespace, or a unit whose program ran to its end; and a unit that it gives is registered, so that
another import gives the same unit and changes nothing.

**Proof sketch.** The import is a sequence of steps. A step evicts only the unit of a program that
fails, and the programs of units that were registered before do not run; it changes those units only
to tell them of children; and what it registers is whole or still running. At the end nothing is. -/
theorem import?_preserves (a : Ambient) (l : Loader) (name : String) (ht : a.tree.IsScripts)
    (hv : l.registry.Valid) :
    let l' := l.after a name
    (∀ unit id, l.registry.find? unit = some id →
      l'.registry.find? unit = some id ∧
      (l'.registry.unit id).bare = (l.registry.unit id).bare ∧
      ∀ key, (l'.registry.unit id).attribute? key = (l.registry.unit id).attribute? key ∨
        (l'.registry.unit id).attribute? key = some (.unit (UnitName.child unit key)) ∧
        l.registry.find? (UnitName.child unit key) = none ∧
        ∃ child, l'.registry.find? (UnitName.child unit key) = some child) ∧
    (∀ unit id, l.registry.find? unit = none → l'.registry.find? unit = some id →
      (∃ bindings, l.builtins.get? unit = some bindings) ∨
      (l'.registry.unit id).IsNamespace ∨
      ∃ es, l'.history = es ++ l.history ∧ .ended unit id ∈ es) ∧
    ∀ id, (exec (import? a name) l).1 = .ok id →
      l'.registry.find? name = some id ∧ ∀ b, exec (import? b name) l' = (.ok id, l') := by
  intro l'
  have hsteps := steps_import? a l name
  refine ⟨fun unit id hid => ⟨?_, ?_, fun key => ?_⟩, fun unit id hfree hid => ?_, fun id hid => ?_⟩
  · exact (Steps.find?_of_not_running hsteps hid List.not_mem_nil).1
  · exact (Steps.undisturbed hsteps ht hv).bare unit id hid
  · refine ((Steps.undisturbed hsteps ht hv).attributes unit id hid key).imp_right ?_
    rintro ⟨htold, hfree, child, hchild, -⟩
    exact ⟨htold, hfree, child, hchild⟩
  · refine ((Steps.isWholeSince hsteps ht hv).2 unit id hfree hid).resolve_left ?_
    rintro ⟨p, hp⟩
    simp at hp
  · have hok : exec (import? a name) l = (.ok id, l') := Prod.ext hid rfl
    have hr := (registered_of_import? hok).1
    exact ⟨hr, fun b => exec_import?_of_registered b (isImportable_of_import? hok) hr⟩

/-- A package that was imported before is told of a child that is imported now. -/
theorem import?_preserves_package :
    let a : Ambient := ⟨.package "" "x = 1", Tree.root⟩
    let l := Loader.rooted.after a "p"
    let l' := l.after a "p.c"
    l.registry.find? "p" = some 0 ∧ (l.registry.unit 0).attribute? "c" = none ∧
      l'.registry.find? "p" = some 0 ∧ (l'.registry.unit 0).bare = (l.registry.unit 0).bare ∧
      (l'.registry.unit 0).attribute? "c" = some (.unit "p.c") := by
  intro a
  have hr : (Loader.rooted.after a "p").registry.find? "p" = some 0 := by decide +kernel
  have hnone : (((Loader.rooted.after a "p").registry.unit 0).attribute? "c").isSome = false := by
    decide +kernel
  have hsome :
      ((((Loader.rooted.after a "p").after a "p.c").registry.unit 0).attribute? "c").isSome =
        true := by
    decide +kernel
  have hv := Loader.valid_rooted.after a "p"
  have ht : a.tree.IsScripts := Tree.isScripts_package _ _
  clear_value a
  generalize Loader.rooted.after a "p" = l at *
  obtain ⟨hkeep, hbare, hattr⟩ := (import?_preserves a l "p.c" ht hv).1 "p" 0 hr
  have hold : (l.registry.unit 0).attribute? "c" = none := by simpa using hnone
  refine ⟨hr, hold, hkeep, hbare, ?_⟩
  rcases hattr "c" with he | ⟨he, -⟩
  · rw [he, hold] at hsome
    cases hsome
  · exact he

end UnitLoader
