import UnitLoader.Proofs.Loader.Binding
import UnitLoader.Proofs.Loader.Reasons
import UnitLoader.Proofs.Native.Calls

/-!
# Builtins among other units

A builtin is looked up after the units around it were imported, as every unit is, and before any
finder is asked. So nothing in a tree comes before a builtin without a unit around it; a builtin
inside of another unit is to be had if that unit is, and is a container. In both cases the unit is
as its initializer populates it, and nothing but native code that registers its name itself can make
it another.

All of this is for initializers that set attributes, which are all that `UnitLoader.Bindings` tells
of. In particular the unit of a builtin is no container, so that no unit is brought in inside of it.

## Main definitions

* `UnitLoader.LoadedUnit.ofBuiltin` — the unit that the initializer of a builtin populates.
* `UnitLoader.Loader.IsIntact` — the units of builtins are as their initializers populate them.
* `UnitLoader.Loader.Becomes` — a loader that is intact and comes from another.
* `UnitLoader.Loader.IsOpen` — a unit may be changed in an intact loader.

## Main results

* `UnitLoader.becomes_run` — a program leaves a loader intact.
* `UnitLoader.becomes_import?` — so does an import.
* `UnitLoader.import?_builtin` — what importing a builtin does.
-/

set_option relaxedAutoImplicit false
set_option autoImplicit false

namespace UnitLoader

open LoadM (exec)
open UnitName (parent? isImportable)

variable {α β : Type} {a : Ambient} {l l' l'' : Loader} {name : String} {id : UnitId}
  {bindings : Bindings} {i : Importer} {f : LoadedUnit → LoadedUnit}

/-! ## Units of builtins -/

/-- The unit that the initializer of a builtin populates. -/
def LoadedUnit.ofBuiltin (name : String) (bindings : Bindings) : LoadedUnit :=
  (ofName name).becomeBuiltin bindings

/-- The unit of a builtin is no container. -/
lemma LoadedUnit.isContainer_ofBuiltin (name : String) (bindings : Bindings) :
    (ofBuiltin name bindings).isContainer = false := by
  have hset (u : LoadedUnit) (h : u.isContainer = false) :
      (bindings.foldl (fun u b => u.setAttribute b.1 b.2) u).isContainer = false := by
    induction bindings generalizing u with
    | nil => exact h
    | cons b bindings ih => exact ih _ h
  exact hset _ rfl

namespace Loader

/-- Native code registered a name, be it that of its own unit or another. -/
def IsNative (l : Loader) (name : String) : Prop :=
  ∃ caller, .registered name caller ∈ l.history

/-- Every unit that is registered under the name of a builtin is as its initializer populates it,
unless native code registered that name. -/
structure IsIntact (l : Loader) : Prop where
  valid : l.registry.Valid
  unit : ∀ name bindings id, l.builtins.get? name = some bindings →
    l.registry.find? name = some id →
    l.registry.unit id = .ofBuiltin name bindings ∨ l.IsNative name

/-- A loader that is intact and comes from another: units keep their names, containers stay what
they are, and no event is forgotten. -/
structure Becomes (l l' : Loader) : Prop where
  isIntact : l'.IsIntact
  builtins_eq : l'.builtins = l.builtins
  history_subset : l.history ⊆ l'.history
  nextId_le : l.registry.nextId ≤ l'.registry.nextId
  name_eq : ∀ id < l.registry.nextId, (l'.registry.unit id).name = (l.registry.unit id).name
  isContainer : ∀ id < l.registry.nextId, (l.registry.unit id).isContainer = true →
    (l'.registry.unit id).isContainer = true

/-- A unit may be changed in an intact loader: its name is not that of a builtin, it is a container,
which no builtin's unit is, or native code registered its name. -/
structure IsOpen (l : Loader) (id : UnitId) : Prop where
  lt : id < l.registry.nextId
  cause : l.builtins.get? (l.registry.unit id).name = none ∨
    (l.registry.unit id).isContainer = true ∨ l.IsNative (l.registry.unit id).name

/-- A name that native code registered has been registered by it later on. -/
lemma IsNative.mono (h : l.IsNative name) (hh : l.history ⊆ l'.history) : l'.IsNative name :=
  h.imp fun _ hmem => hh hmem

/-- Only units with numbers are containers. -/
lemma lt_of_isContainer (h : (l.registry.unit id).isContainer = true) :
    id < l.registry.nextId := by
  by_contra hge
  rw [Registry.unit, List.getElem?_eq_none (Nat.le_of_not_lt hge)] at h
  cases h

/-- A container may be changed: it is not the unit of a builtin. -/
lemma isOpen_of_isContainer (h : (l.registry.unit id).isContainer = true) : l.IsOpen id :=
  ⟨lt_of_isContainer h, .inr (.inl h)⟩

/-! ## Single changes -/

namespace Becomes

/-- What happens to a loader apart from its units and its builtins makes no difference. -/
lemma of_registry_eq (hl : l.IsIntact) (hr : l'.registry = l.registry)
    (hb : l'.builtins = l.builtins) (hh : l.history ⊆ l'.history) : l.Becomes l' where
  isIntact := by
    refine ⟨hr ▸ hl.valid, fun name bindings id hget hid => ?_⟩
    rw [hr] at hid ⊢
    exact (hl.unit name bindings id (hb ▸ hget) hid).imp_right (·.mono hh)
  builtins_eq := hb
  history_subset := hh
  nextId_le := by rw [hr]
  name_eq := fun id _ => by rw [hr]
  isContainer := fun id _ h => by rwa [hr]

/-- An intact loader comes from itself. -/
lemma refl (hl : l.IsIntact) : l.Becomes l :=
  of_registry_eq hl rfl rfl (List.Subset.refl _)

/-- What comes from a loader that comes from another comes from that one. -/
lemma trans (h : l.Becomes l') (h' : l'.Becomes l'') : l.Becomes l'' where
  isIntact := h'.isIntact
  builtins_eq := h'.builtins_eq.trans h.builtins_eq
  history_subset := List.Subset.trans h.history_subset h'.history_subset
  nextId_le := h.nextId_le.trans h'.nextId_le
  name_eq id hid := (h'.name_eq id (hid.trans_le h.nextId_le)).trans (h.name_eq id hid)
  isContainer id hid hc := h'.isContainer id (hid.trans_le h.nextId_le) (h.isContainer id hid hc)

/-- A unit that may be changed may be changed later. -/
lemma isOpen (h : l.Becomes l') (ho : l.IsOpen id) : l'.IsOpen id := by
  refine ⟨ho.lt.trans_le h.nextId_le, ?_⟩
  rw [h.name_eq id ho.lt, h.builtins_eq]
  exact ho.cause.imp_right (.imp (h.isContainer id ho.lt) (·.mono h.history_subset))

/-- Noting an event leaves a loader intact. -/
lemma note (hl : l.IsIntact) (e : Event) : l.Becomes (l.note e) :=
  of_registry_eq hl rfl rfl (List.subset_cons_self ..)

/-- An eviction leaves a loader intact. -/
lemma evict (hl : l.IsIntact) (name : String) : l.Becomes (l.evict name) where
  isIntact := ⟨hl.valid.evict name, fun other bindings id hget hid =>
    hl.unit other bindings id hget (Registry.find?_evict_eq_some.1 hid).2⟩
  builtins_eq := rfl
  history_subset := List.Subset.refl _
  nextId_le := Nat.le_refl _
  name_eq _ _ := rfl
  isContainer _ _ h := h

/-- Changing a unit that may be changed. -/
lemma modifyUnit (hl : l.IsIntact) (ho : l.IsOpen id) (hname : ∀ u, (f u).name = u.name)
    (hcontainer : ∀ u : LoadedUnit, u.isContainer = true → (f u).isContainer = true) :
    l.Becomes (l.modifyUnit id f) where
  isIntact := by
    refine ⟨hl.valid.modify id hname, fun name bindings other hget hid => ?_⟩
    have hunit := hl.unit name bindings other hget hid
    by_cases he : id = other
    · subst he
      have hn : (l.registry.unit id).name = name := (hl.valid name id hid).2
      rcases ho.cause with hnone | hc | hnative
      · rw [hn] at hnone
        exact absurd hget (by simp [hnone])
      · refine .inr (hunit.resolve_left fun hbuiltin => ?_)
        rw [hbuiltin, LoadedUnit.isContainer_ofBuiltin] at hc
        cases hc
      · exact .inr (hn ▸ hnative)
    · rw [registry_modifyUnit, Registry.unit_modify_of_ne he]
      exact hunit
  builtins_eq := rfl
  history_subset := List.Subset.refl _
  nextId_le := by simp
  name_eq other _ := by
    rw [registry_modifyUnit, Registry.unit_modify]
    split
    · exact hname _
    · rfl
  isContainer other _ h := by
    rw [registry_modifyUnit, Registry.unit_modify]
    split
    · exact hcontainer _ h
    · exact h

/-- Setting an attribute of a unit that may be changed leaves a loader intact. -/
lemma setAttribute (hl : l.IsIntact) (ho : l.IsOpen id) (key : String) (v : Value) :
    l.Becomes (l.modifyUnit id (·.setAttribute key v)) :=
  modifyUnit hl ho (fun _ => rfl) fun _ h => h

/-- Binding metadata to a unit that may be changed leaves a loader intact. -/
lemma bindMetadata (hl : l.IsIntact) (ho : l.IsOpen id) (origin : Option String)
    (kind : Option ArtifactKind) (locations : Option (List String)) :
    l.Becomes (l.modifyUnit id (·.bindMetadata origin kind locations)) :=
  modifyUnit hl ho (fun u => u.name_bindMetadata ..) fun u h => by
    cases locations with
    | none => exact h
    | some found => rfl

/-- Describing a new unit. Under the name of a builtin it is what the initializer populates, unless
native code registered the name. -/
lemma describe (hl : l.IsIntact) (hname : ∀ u, (f u).name = u.name)
    (hf : ∀ bindings, l.builtins.get? name = some bindings →
      f (.ofName name) = .ofBuiltin name bindings ∨ l.IsNative name) :
    l.Becomes ((l.create name).modifyUnit l.registry.nextId f) where
  isIntact := by
    refine ⟨(hl.valid.insertNew name).modify _ hname, fun other bindings id hget hid => ?_⟩
    rcases Registry.find?_insertNew_cases hid with ⟨rfl, rfl⟩ | hr
    · have hunit : ((l.create name).modifyUnit l.registry.nextId f).registry.unit
          l.registry.nextId = f (.ofName name) := by
        rw [registry_modifyUnit, registry_create, Registry.unit_modify, if_pos (by simp),
          Registry.unit_insertNew, if_pos rfl]
      rw [hunit]
      exact hf bindings hget
    · have hlt := (hl.valid other id hr).1
      rw [registry_modifyUnit, registry_create, Registry.unit_modify_insertNew hlt]
      exact hl.unit other bindings id hget hr
  builtins_eq := rfl
  history_subset := List.Subset.refl _
  nextId_le := by simp
  name_eq id hid := by
    rw [registry_modifyUnit, registry_create, Registry.unit_modify_insertNew hid]
  isContainer id hid h := by
    rwa [registry_modifyUnit, registry_create, Registry.unit_modify_insertNew hid]

/-- Creating a unit under a name that native code registers. -/
lemma create (hl : l.IsIntact) (hn : l.IsNative name) : l.Becomes (l.create name) := by
  have hsame : (l.create name).modifyUnit l.registry.nextId id = l.create name := by
    rw [Loader.modifyUnit, Registry.modify, List.modify_id]
  exact hsame ▸ describe hl (fun _ => rfl) fun _ _ => .inr hn

/-- The unit of an artifact begins to run. It may be changed, as its name is not that of a
builtin. -/
lemma begin {x : Artifact} (hl : l.IsIntact) (hb : l.builtins.get? x.name = none)
    (kind : ArtifactKind) :
    l.Becomes (l.begin x kind) ∧ (l.begin x kind).IsOpen l.registry.nextId := by
  have hnew : l.Becomes ((l.create x.name).modifyUnit l.registry.nextId
      (·.bindMetadata (some x.origin) (some kind) x.locations)) :=
    describe hl (fun u => u.name_bindMetadata ..) (by simp [hb])
  refine ⟨hnew.trans (.note hnew.isIntact _), ?_, .inl ?_⟩
  · simp
  · have hname : ((l.begin x kind).registry.unit l.registry.nextId).name = x.name := by
      rw [registry_begin, Registry.unit_modify, if_pos (by simp), LoadedUnit.name_bindMetadata,
        Registry.unit_insertNew, if_pos rfl]
      rfl
    rw [hname]
    exact hb

end Becomes

end Loader

open Loader (Becomes)

/-! ## Calls of native code -/

namespace HostCall

variable {before calls : List HostCall} {call : HostCall} {depth : Nat} {code : Int}
  {codes : List Int} {r r' : Registry}

/-- The event of a call is that of the name that it registers. -/
lemma registrations_singleton (context : NativeContext) (call : HostCall) :
    registrations context [call] =
      (call.registers? context.name).toList.map (.registered · context.name) := by
  cases call with
  | register requested => cases requested <;> rfl
  | _ => rfl

/-- A call changes no unit that is registered but the one that it or a call before it registers. -/
lemma Does.becomes (h : Does name depth before call l.registry r code) (hl : l.IsIntact)
    (hbefore : ∀ other ∈ registered name before, l.IsNative other) :
    l.Becomes { l with
      registry := r
      history := registrations { name, gate := some 0 } [call] ++ l.history } := by
  rw [registrations_singleton]
  cases h with
  | @create _ _ other hn hfree =>
    rw [hn]
    have hnoted := Becomes.note hl (.registered other name)
    exact hnoted.trans (.create hnoted.isIntact ⟨name, List.mem_cons_self ..⟩)
  | @keep _ _ other id hn hr =>
    rw [hn]
    exact .note hl (.registered other name)
  | reject | depth => exact .refl hl
  | @set call _ key v other id hs hlast hr =>
    have hnone : call.registers? name = none := by
      cases call <;> simp [sets?, registers?] at hs ⊢
    rw [hnone]
    obtain ⟨hlt, hname⟩ := hl.valid other id hr
    exact .setAttribute hl ⟨hlt, .inr (.inr (hname ▸ hbefore other
      (List.mem_of_getLast? hlast)))⟩ key v
  | refuse hcall _ =>
    have hnone : call.registers? name = none := by
      cases call <;> simp [isSet, registers?] at hcall ⊢
    rw [hnone]
    exact .refl hl

/-- Calls change no unit that is registered but those that they register. -/
lemma Run.becomes (h : Run name depth before calls r r' codes) (hl : l.IsIntact)
    (hr : l.registry = r) (hbefore : ∀ other ∈ registered name before, l.IsNative other) :
    l.Becomes { l with
      registry := r'
      history := registrations { name, gate := some 0 } calls ++ l.history } := by
  induction h generalizing l with
  | nil => exact .of_registry_eq hl hr.symm rfl (List.Subset.refl _)
  | @cons before calls call r r' r'' code codes h hs ih =>
    subst hr
    have hcall := h.becomes hl hbefore
    rw [registrations_cons, List.append_assoc]
    refine hcall.trans (ih hcall.isIntact rfl fun other hother => ?_)
    rw [registered_concat, List.mem_append] at hother
    rcases hother with hold | hnew
    · exact (hbefore other hold).mono hcall.history_subset
    · refine ⟨name, List.mem_append_left _ ?_⟩
      rw [registrations_singleton]
      exact List.mem_map_of_mem hnew

end HostCall

/-- Calling the entry point of a library leaves a loader intact. -/
lemma becomes_callEntryPoint (hl : l.IsIntact) (library : NativeLibrary) (name : String) :
    l.Becomes { ({ l with gate := l.gate.suspend, libraries := l.libraries + 1 } :
      Loader).callEntryPoint library name with gate := l.gate } := by
  have hrun := HostCall.run_performAll (HostCall.isContext_nil name l.registry)
    l.gate.suspend.depth library.calls
  have hcalls := hrun.becomes hl rfl (by simp [HostCall.registered])
  exact hcalls.trans (.of_registry_eq hcalls.isIntact rfl rfl (List.Subset.refl _))

/-- Loading a library leaves a loader intact, if its unit is not that of a builtin. -/
lemma becomes_loadNative {x : Artifact} (t : Tree) (hl : l.IsIntact)
    (hb : l.builtins.get? x.name = none) : l.Becomes (exec (x.loadNative t) l).2 := by
  rw [LoadM.exec_loadNative]
  cases x.link t with
  | error e => exact .refl hl
  | ok library =>
    have hcalled := becomes_callEntryPoint hl library x.name
    dsimp only
    split
    · split
      · exact hcalled
      · next id hr =>
        obtain ⟨hlt, hname⟩ := hcalled.isIntact.valid _ id hr
        refine hcalled.trans (.bindMetadata hcalled.isIntact ⟨hlt, .inl ?_⟩ _ _ _)
        rw [hname, hcalled.builtins_eq]
        exact hb
    · exact .refl hl

/-! ## Programs -/

namespace LoadM

/-- A computation leaves loaders intact in which a unit may be changed. -/
def Minds (id : UnitId) (x : LoadM α) : Prop :=
  ∀ l : Loader, l.IsIntact → l.IsOpen id → l.Becomes (exec x l).2

namespace Minds

variable {x : LoadM α}

/-- A computation that changes nothing. -/
lemma of_exec (h : ∀ l, (exec x l).2 = l) : Minds id x := fun l hl _ => by
  rw [h l]
  exact .refl hl

/-- A computation that only gives a value leaves loaders intact. -/
lemma pure (v : α) : Minds id (pure v) := of_exec fun _ => rfl

/-- A computation that only fails leaves loaders intact. -/
lemma throw (e : LoadError) : Minds id (throw e : LoadM α) := of_exec fun _ => rfl

/-- Two computations one after the other leave loaders intact if both do. -/
lemma bind {f : α → LoadM β} (h : Minds id x) (hf : ∀ v, Minds id (f v)) :
    Minds id (x >>= f) := by
  intro l hl ho
  have hx := h l hl ho
  rw [exec_bind]
  generalize exec x l = r at hx
  obtain ⟨e | v, l'⟩ := r
  · exact hx
  · exact hx.trans (hf v l' hx.isIntact (hx.isOpen ho))

/-- A computation with something to be done for its errors leaves loaders intact if both do. -/
lemma tryCatch {handle : LoadError → LoadM α} (h : Minds id x) (hh : ∀ e, Minds id (handle e)) :
    Minds id (tryCatch x handle) := by
  intro l hl ho
  have hx := h l hl ho
  rw [exec_tryCatch]
  generalize exec x l = r at hx
  obtain ⟨e | v, l'⟩ := r
  · exact hx.trans (hh e l' hx.isIntact (hx.isOpen ho))
  · exact hx

/-- A computation whose value is not used leaves loaders intact as before. -/
lemma discard (h : Minds id x) : Minds id (discard x) := fun l hl ho => by
  rw [exec_discard]
  exact h.bind (fun _ => pure ()) l hl ho

/-- A loop leaves loaders intact if each round does. -/
lemma forM {f : β → LoadM PUnit} {zs : List β} (h : ∀ z, Minds id (f z)) :
    Minds id (zs.forM f) := by
  induction zs with
  | nil => exact pure _
  | cons z zs ih => exact (h z).bind fun _ => ih

/-- Noting an event leaves loaders intact. -/
lemma note (e : Event) : Minds id (note e) := fun _ hl _ => .note hl e

/-- Assigning to the unit that may be changed leaves loaders intact. -/
lemma assign (key : String) (v : Value) : Minds id (assign id key v) :=
  fun _ hl ho => .setAttribute hl ho key v

/-- The failure of a unit leaves loaders intact. -/
lemma fail (unit : UnitId) (failure : Failure) : Minds id (fail unit failure : LoadM α) :=
  of_exec fun _ => rfl

/-- Looking an attribute up leaves loaders intact, if what is done without it does. -/
lemma attribute_or (unit : UnitId) (key : String) {missing : LoadM Value} (h : Minds id missing) :
    Minds id (LoadM.attribute unit key missing) := by
  intro l hl ho
  rw [exec_attribute]
  split
  · exact .refl hl
  · exact h l hl ho

end Minds

end LoadM

open LoadM (Minds)

section Programs

variable (hi : ∀ name, Minds id (i name))

include hi

/-- An importer that is recorded leaves loaders intact. -/
lemma minds_recorded (name : String) : Minds id (i.recorded name) :=
  (Minds.note _).bind fun _ => (hi name).bind fun given =>
    (Minds.note _).bind fun _ => .pure given

/-- Following the segments of a reference leaves loaders intact. -/
lemma minds_follow {missing : LoadM Value} (h : Minds id missing) (v : Value)
    (segments : List (List Char)) : Minds id (v.follow i missing segments) := by
  induction segments generalizing v with
  | nil =>
    rw [Value.follow.eq_def]
    exact .pure v
  | cons segment segments ih =>
    cases v with
    | unit target =>
      rw [Value.follow]
      exact (hi target).bind fun unit => (Minds.attribute_or unit _ h).bind fun v => ih v
    | _ => exact h

/-- Evaluating an expression leaves loaders intact. -/
lemma minds_evaluate (unit : UnitId) (e : Expr) : Minds id (e.evaluate i unit) := by
  cases e with
  | literal v => exact .pure v
  | name n =>
    rw [Expr.evaluate]
    cases UnitName.segments n with
    | nil => exact .fail unit _
    | cons first rest =>
      exact (Minds.attribute_or unit _ (.fail unit _)).bind fun v =>
        minds_follow hi (.fail unit _) v rest

/-- Looking up what is imported from a unit leaves loaders intact. -/
lemma minds_importedValue (unit source : UnitId) (module key : String) :
    Minds id (importedValue i unit source module key) := by
  refine .attribute_or source key (.tryCatch ?_ fun e => ?_)
  · exact (hi _).discard.bind fun _ => .pure _
  · split
    · exact .fail unit _
    · exact .throw e

/-- A statement changes the unit in which it runs. -/
lemma minds_statement (st : Statement) : Minds id (st.run i id) := by
  cases st with
  | assign target e => exact (minds_evaluate hi id e).bind fun v => .assign target v
  | importUnit module newName =>
    refine (hi module).discard.bind fun _ => ?_
    cases newName <;> exact .assign _ _
  | fromImport module names =>
    refine (hi module).bind fun source => .forM fun key => ?_
    exact (minds_importedValue hi id source module key).bind fun v => .assign key v
  | raise message => exact .fail id _

/-- A program leaves a loader intact in which its unit may be changed. -/
theorem becomes_run (p : Program) : Minds id (p.run i id) :=
  .forM fun st => minds_statement (minds_recorded hi) st

end Programs

/-! ## Imports -/

/-- Imports leave loaders intact. -/
def Importer.Minds (i : Importer) : Prop :=
  ∀ name (l : Loader), l.IsIntact → l.Becomes (exec (i name) l).2

section Imports

variable {x : Artifact} {strategy : Strategy} (hi : i.Minds)

include hi

/-- Installing a program leaves a loader intact, if the name was free and is not that of a
builtin. -/
lemma becomes_install (hl : l.IsIntact) (hfree : l.registry.find? x.name = none)
    (hb : l.builtins.get? x.name = none) (kind : ArtifactKind) (p : Program) :
    l.Becomes (exec (x.install i kind p) l).2 := by
  obtain ⟨hbegin, hopen⟩ := Becomes.begin hl hb kind
  have hrun := hbegin.trans
    (becomes_run (fun name l hl _ => hi name l hl) p _ hbegin.isIntact hopen)
  rw [LoadM.exec_install hfree]
  generalize exec (p.run i l.registry.nextId) (l.begin x kind) = r at hrun
  obtain ⟨e | _, l'⟩ := r
  · have hevict := Becomes.evict hrun.isIntact x.name
    exact (hrun.trans hevict).trans (.note hevict.isIntact _)
  · exact hrun.trans (.note hrun.isIntact _)

/-- Loading an artifact leaves a loader intact, if the name was free and is not that of a
builtin. -/
lemma becomes_load (t : Tree) (hl : l.IsIntact) (hfree : l.registry.find? x.name = none)
    (hb : l.builtins.get? x.name = none) : l.Becomes (exec (x.load t i strategy) l).2 := by
  by_cases hs : strategy = .nativeLibrary
  · subst hs
    have hload : exec (x.load t i .nativeLibrary) l = exec (x.loadNative t) l := by
      rw [Artifact.load.eq_def, LoadM.exec_bind, LoadM.exec_registered?, hfree]
    rw [hload]
    exact becomes_loadNative t hl hb
  · rw [LoadM.exec_load t hfree hs]
    cases x.read t strategy with
    | ok program => exact becomes_install hi hl hfree hb program.1 program.2
    | error e => exact .refl hl

/-- Bringing in a unit leaves a loader intact: a builtin is populated, and nothing else is brought
in under its name. -/
lemma becomes_bring (hl : l.IsIntact) (hfree : l.registry.find? name = none)
    (searchPath : Option (List String)) : l.Becomes (exec (bring a i name searchPath) l).2 := by
  rw [LoadM.exec_bring]
  -- Only here is a unit made under the name of a builtin, and then it is the builtin.
  cases hb : l.builtins.get? name with
  | some bindings =>
    dsimp only
    rw [LoadM.exec_describe hfree]
    refine .describe hl (fun u => u.name_becomeBuiltin _) fun other hother => .inl ?_
    rw [Option.some.inj (hb.symm.trans hother)]
    rfl
  | none =>
    dsimp only
    rw [LoadM.exec_bringFound]
    cases hfound : l.find a name searchPath with
    | error e => exact .refl hl
    | ok found =>
      match found, hfound with
      | none, _ => exact .refl hl
      | some (.artifact x strategy), hfound =>
        obtain rfl := name_of_find hfound
        have hload : l.Becomes (exec (x.load a.tree i strategy) l).2 :=
          becomes_load hi a.tree hl hfree hb
        dsimp only
        rw [LoadM.exec_onError]
        generalize exec (x.load a.tree i strategy) l = r at hload
        obtain ⟨e | id, l'⟩ := r
        · exact hload.trans (.evict hload.isIntact _)
        · exact hload
      | some (.portions m locations), hfound =>
        obtain rfl : m = name := name_of_find hfound
        dsimp only
        rw [LoadM.exec_describe hfree]
        exact .describe hl (fun u => u.name_bindMetadata ..) (by simp [hb])

/-- Bringing a unit into the one around it leaves a loader intact. -/
lemma becomes_bringInside (hl : l.IsIntact) (name parent : String) (parentId : UnitId) :
    l.Becomes (exec (bringInside a i name parent parentId) l).2 := by
  cases hr : l.registry.find? name with
  | some id =>
    rw [LoadM.exec_bringInside_of_registered hr]
    exact .refl hl
  | none =>
    rw [LoadM.exec_bringInside hr]
    split
    · next hc =>
      have hbring := becomes_bring (a := a) hi hl hr (some (l.registry.unit parentId).locations)
      generalize exec (bring a i name _) l = r at hbring
      obtain ⟨e | id, l'⟩ := r
      · exact hbring
      · exact hbring.trans (.setAttribute hbring.isIntact
          (hbring.isOpen (Loader.isOpen_of_isContainer hc)) _ _)
    · exact .refl hl

/-- Importing a unit after those around it leaves a loader intact. -/
lemma becomes_importLineage (hl : l.IsIntact) (name : String) (around : List String) :
    l.Becomes (exec (importLineage a i name around) l).2 := by
  induction around generalizing name with
  | nil =>
    cases hr : l.registry.find? name with
    | some id =>
      rw [LoadM.exec_importLineage_of_registered hr]
      exact .refl hl
    | none =>
      rw [LoadM.exec_importLineage_of_outermost hr]
      exact becomes_bring hi hl hr none
  | cons parent around ih =>
    cases hr : l.registry.find? name with
    | some id =>
      rw [LoadM.exec_importLineage_of_registered hr]
      exact .refl hl
    | none =>
      have hparent := ih parent
      rw [LoadM.exec_importLineage hr, LoadM.exec_bind]
      generalize exec (importLineage a i parent around) l = r at hparent
      obtain ⟨e | parentId, l'⟩ := r
      · exact hparent
      · exact hparent.trans (becomes_bringInside hi hparent.isIntact name parent parentId)

end Imports

/-- Imports leave loaders intact, however deep they may nest. -/
lemma minds_importWithin (a : Ambient) (n : Nat) : (importWithin a n).Minds := by
  induction n with
  | zero => exact fun _ _ hl => .refl hl
  | succ n ih =>
    intro name l hl
    rw [importWithin, importOnce]
    split
    · exact becomes_importLineage ih hl name _
    · exact .refl hl

/-- An import leaves a loader intact. -/
theorem becomes_import? (a : Ambient) (hl : l.IsIntact) (name : String) :
    l.Becomes (l.after a name) := by
  rw [Loader.after, import?, LoadM.exec_bind]
  exact minds_importWithin a _ name l hl

/-- A loader in use is intact. -/
lemma Loader.Reached.isIntact (h : l.Reached) : l.IsIntact := by
  have hevict (l : Loader) (name : String) (hl : l.IsIntact) : (l.evict name).IsIntact :=
    (Becomes.evict hl name).isIntact
  induction h with
  | fresh chain builtins => exact ⟨(Reached.fresh chain builtins).valid, nofun⟩
  | imported _ a name ih => exact (becomes_import? a ih name).isIntact
  | evicted _ name ih => exact hevict _ name ih
  | reclaimed _ hr ih => exact Loader.of_reclaim? hevict ih hr

/-! ## Importing a builtin -/

/-- In the loader that is prepared a builtin is brought in at once. -/
lemma LoadM.exec_bring_builtin (hfree : l.registry.find? name = none)
    (hb : l.builtins.get? name = some bindings) (searchPath : Option (List String)) :
    exec (bring a i name searchPath) l = (.ok l.registry.nextId,
      (l.create name).modifyUnit l.registry.nextId (·.becomeBuiltin bindings)) := by
  rw [exec_bring, hb]
  exact exec_describe hfree _

/-- Importing a builtin inside of a unit imports that unit, and brings the builtin in if that one is
a container. -/
lemma exec_import?_builtin_within {parent : String} {parentId : UnitId}
    (hi : isImportable name) (hfree : l.registry.find? name = none)
    (hp : parent? name = some parent) (hparent : exec (import? a parent) l = (.ok parentId, l'))
    (hfree' : l'.registry.find? name = none) (hb : l'.builtins.get? name = some bindings) :
    exec (import? a name) l = if (l'.registry.unit parentId).isContainer then
        (.ok l'.registry.nextId,
          ((l'.create name).modifyUnit l'.registry.nextId (·.becomeBuiltin bindings)).modifyUnit
            parentId (·.setAttribute (UnitName.short name) (.unit name)))
      else (.error (.missingArtifact (.inNoContainer name parent)), l') := by
  rw [exec_import?_within hi hfree hp, hparent]
  dsimp only
  rw [LoadM.exec_bringInside hfree', LoadM.exec_bring_builtin hfree' hb]

/-- **Importing a builtin**, whose initializer sets attributes and does nothing else. Without a unit
around it, its unit is created and populated, whatever is in the tree and whichever finders there
are. Inside of a unit, that one is imported first, and
if this fails, so does the import of the builtin. If it registered the builtin itself, that unit is
given. Otherwise the builtin is created, populated and bound in the unit around it if that one is a
container, and is missing if not; again no finder is asked. And a unit that is given is registered
and is as the initializer populates it, unless native code registered its name.

**Proof sketch.** Only the import of the unit around it does more than to create the unit. What it
may leave under the name of the builtin is told by an invariant that imports keep: nothing is
brought in under the name of a builtin but what its initializer populates, and nobody else changes
a unit but its own program, the import of a child into a container, which it is not, and native
code that registers it. -/
theorem import?_builtin (a : Ambient) (hl : l.Reached) (hi : isImportable name)
    (hb : l.builtins.get? name = some bindings) (hfree : l.registry.find? name = none) :
    (parent? name = none → exec (import? a name) l = (.ok l.registry.nextId,
      (l.create name).modifyUnit l.registry.nextId (·.becomeBuiltin bindings))) ∧
    (∀ parent, parent? name = some parent →
      let l₁ := l.after a parent
      (∀ e, (exec (import? a parent) l).1 = .error e →
        exec (import? a name) l = (.error e, l₁)) ∧
      ∀ parentId, (exec (import? a parent) l).1 = .ok parentId →
        (∀ id, l₁.registry.find? name = some id → exec (import? a name) l = (.ok id, l₁)) ∧
        (l₁.registry.find? name = none →
          exec (import? a name) l = if (l₁.registry.unit parentId).isContainer then
              (.ok l₁.registry.nextId, ((l₁.create name).modifyUnit l₁.registry.nextId
                (·.becomeBuiltin bindings)).modifyUnit parentId
                  (·.setAttribute (UnitName.short name) (.unit name)))
            else (.error (.missingArtifact (.inNoContainer name parent)), l₁))) ∧
    ∀ id, (exec (import? a name) l).1 = .ok id →
      (l.after a name).registry.find? name = some id ∧
      ((l.after a name).registry.unit id = .ofBuiltin name bindings ∨
        ∃ caller, .registered name caller ∈ (l.after a name).history) := by
  refine ⟨fun hp => ?_, fun parent hp => ⟨fun e he => ?_, fun parentId hid => ⟨?_, ?_⟩⟩,
    fun id hid => ?_⟩
  · rw [exec_import?_outermost hi hfree hp, LoadM.exec_bring_builtin hfree hb]
  · have hparent : exec (import? a parent) l = (.error e, l.after a parent) := Prod.ext he rfl
    rw [exec_import?_within hi hfree hp, hparent]
  · intro id hr
    have hparent : exec (import? a parent) l = (.ok parentId, l.after a parent) :=
      Prod.ext hid rfl
    rw [exec_import?_within hi hfree hp, hparent]
    exact LoadM.exec_bringInside_of_registered hr parent parentId
  · intro hfree₁
    have hbuiltins := (becomes_import? a hl.isIntact parent).builtins_eq
    exact exec_import?_builtin_within hi hfree hp (Prod.ext hid rfl) hfree₁ (by rw [hbuiltins, hb])
  · have hgiven := becomes_import? a hl.isIntact name
    have hr := (registered_of_import? (a := a) (l := l) (Prod.ext hid rfl)).1
    exact ⟨hr, hgiven.isIntact.unit name bindings id (by rw [hgiven.builtins_eq, hb]) hr⟩

/-- A builtin inside of a package is populated although the package has a file of its name. -/
theorem import?_builtin_package :
    let a : Ambient := ⟨.package "" "x = 1", Tree.root⟩
    let bindings : Bindings := [("ready", .bool true)]
    let l : Loader := { Loader.rooted with builtins := Table.empty.insert "p.c" bindings }
    l.Reached ∧ l.builtins.get? "p.c" = some bindings ∧ ∃ id,
      (exec (import? a "p.c") l).1 = .ok id ∧
      (l.after a "p.c").registry.unit id = .ofBuiltin "p.c" bindings := by
  intro a bindings l
  have hl : l.Reached := .fresh _ _
  have hb : l.builtins.get? "p.c" = some bindings := rfl
  have hparent : (exec (import? a "p") l).1 = .ok 0 := by decide +kernel
  have hfree : (l.after a "p").registry.find? "p.c" = none := by decide +kernel
  have hcontainer : ((l.after a "p").registry.unit 0).isContainer = true := by decide +kernel
  have hhistory : (l.after a "p.c").history = [.ended "p" 0, .began "p" 0] := by decide +kernel
  obtain ⟨-, hwithin, hunit⟩ := import?_builtin a hl (by decide) hb rfl
  clear_value l
  have himport := ((hwithin "p" (by decide)).2 0 hparent).2 hfree
  rw [if_pos hcontainer] at himport
  obtain ⟨-, hpopulated⟩ := hunit _ (congrArg Prod.fst himport)
  refine ⟨hl, hb, _, congrArg Prod.fst himport, hpopulated.resolve_right ?_⟩
  simp [hhistory]

/-- A builtin inside of a unit that is not to be had is not to be had. Neither is one inside of
another builtin whose initializer only sets attributes, since that one is no container. -/
theorem import?_builtin_not_given :
    let a : Ambient := ⟨.package "" "", Tree.root⟩
    let hooks : Builtins := Table.empty.insert "host.hooks" [("ready", .bool true)]
    isImportable "host.hooks" = true ∧
      (exec (import? a "host.hooks") { builtins := hooks }).1 =
        .error (.missingArtifact (.unit "host")) ∧
      (exec (import? a "host.hooks") { builtins := hooks.insert "host" [] }).1 =
        .error (.missingArtifact (.inNoContainer "host.hooks" "host")) := by
  decide +kernel

end UnitLoader
