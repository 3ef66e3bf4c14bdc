import Mathlib.Data.List.Forall2
import UnitLoader.Proofs.Agreement
import UnitLoader.Proofs.Loader.Nesting

/-!
# Computations on loaders that cannot be told apart

Programs see of a unit its name, its attributes and where its children are. Two loaders whose units
differ in nothing of this, and which find artifacts that are loaded alike, do the same: they give
the same results and stay alike.

## Main definitions

* `UnitLoader.LoadedUnit.IsCongruence` — relations between units that programs cannot tell apart.
* `UnitLoader.Loader.Related` — loaders with related units and other chains, and all else the same.
* `UnitLoader.LoadM.Sim` — computations that do the same on related loaders.
* `UnitLoader.FindsAlike` — chains in which artifacts are found that are loaded alike.

## Main results

* `UnitLoader.sim_run` — a program does the same if what it imports is the same.
* `UnitLoader.sim_import?` — imports do the same if what is found is loaded alike.
-/

set_option relaxedAutoImplicit false
set_option autoImplicit false

namespace UnitLoader

open LoadM (exec)

/-! ## Units -/

/-- A relation between units that programs cannot tell apart, and that everything which is done to
units keeps. -/
structure LoadedUnit.IsCongruence (E : LoadedUnit → LoadedUnit → Prop) : Prop where
  refl (v : LoadedUnit) : E v v
  name {v w : LoadedUnit} (h : E v w) : w.name = v.name
  attributes {v w : LoadedUnit} (h : E v w) : w.attributes = v.attributes
  isContainer {v w : LoadedUnit} (h : E v w) : w.isContainer = v.isContainer
  locations {v w : LoadedUnit} (h : E v w) : w.locations = v.locations
  setAttribute {v w : LoadedUnit} (h : E v w) (key : String) (value : Value) :
    E (v.setAttribute key value) (w.setAttribute key value)
  bindMetadata {v w : LoadedUnit} (h : E v w) (origin : Option String)
    (kind : Option ArtifactKind) (locations : Option (List String)) :
    E (v.bindMetadata origin kind locations) (w.bindMetadata origin kind locations)

variable {α β γ : Type} {E : LoadedUnit → LoadedUnit → Prop} {c d : List Finder} {i j : Importer}
  {l k : Loader} {r s : Registry} {f g : LoadedUnit → LoadedUnit}

namespace LoadedUnit.IsCongruence

variable {v w : LoadedUnit}

/-- Related units have the same attributes. -/
lemma attribute? (hE : IsCongruence E) (h : E v w) (key : String) :
    w.attribute? key = v.attribute? key := by
  rw [LoadedUnit.attribute?, LoadedUnit.attribute?, hE.attributes h]

/-- Related units that become the same builtin stay related. -/
lemma becomeBuiltin (hE : IsCongruence E) (h : E v w) (bindings : Bindings) :
    E (v.becomeBuiltin bindings) (w.becomeBuiltin bindings) := by
  have hfold : ∀ v w, E v w →
      E (bindings.foldl (fun u b => u.setAttribute b.1 b.2) v)
        (bindings.foldl (fun u b => u.setAttribute b.1 b.2) w) := by
    induction bindings with
    | nil => exact fun _ _ h => h
    | cons b bindings ih => exact fun v w h => ih _ _ (hE.setAttribute h b.1 b.2)
  exact hfold _ _ (hE.bindMetadata h none none none)

/-- Equal units cannot be told apart. -/
lemma eq : IsCongruence Eq where
  refl _ := rfl
  name h := h ▸ rfl
  attributes h := h ▸ rfl
  isContainer h := h ▸ rfl
  locations h := h ▸ rfl
  setAttribute h _ _ := h ▸ rfl
  bindMetadata h _ _ _ := h ▸ rfl

end LoadedUnit.IsCongruence

open LoadedUnit (IsCongruence)

/-! ## Registries -/

/-- Registries with the same names, of related units. -/
structure Registry.Related (E : LoadedUnit → LoadedUnit → Prop) (r s : Registry) : Prop where
  names : s.names = r.names
  units : List.Forall₂ E r.units s.units

namespace Registry.Related

/-- A registry is related to itself. -/
lemma refl (hE : IsCongruence E) (r : Registry) : r.Related E r :=
  ⟨rfl, List.forall₂_same.2 fun v _ => hE.refl v⟩

/-- The same names are registered in related registries. -/
lemma find? (h : r.Related E s) (name : String) : s.find? name = r.find? name := by
  rw [Registry.find?, Registry.find?, h.names]

/-- Related registries have given out the same identities. -/
lemma nextId (h : r.Related E s) : s.nextId = r.nextId :=
  h.units.length_eq.symm

/-- The units of an identity are related in related registries. -/
lemma unit (hE : IsCongruence E) (h : r.Related E s) (id : UnitId) : E (r.unit id) (s.unit id) := by
  rw [Registry.unit, Registry.unit]
  by_cases hlt : id < r.units.length
  · have hlt' : id < s.units.length := h.units.length_eq ▸ hlt
    rw [List.getElem?_eq_getElem hlt, List.getElem?_eq_getElem hlt']
    exact h.units.get hlt hlt'
  · have hle := Nat.le_of_not_lt hlt
    rw [List.getElem?_eq_none hle, List.getElem?_eq_none (h.units.length_eq ▸ hle)]
    exact hE.refl _

/-- Registries with a new unit of the same name stay related. -/
lemma insertNew (hE : IsCongruence E) (h : r.Related E s) (name : String) :
    (r.insertNew name).Related E (s.insertNew name) := by
  refine ⟨?_, List.rel_append h.units (.cons (hE.refl _) .nil)⟩
  rw [Registry.insertNew, Registry.insertNew, h.names, h.nextId]

/-- Registries stay related when related changes are made to the units of an identity. -/
lemma modify (h : r.Related E s) (id : UnitId) (hfg : ∀ v w, E v w → E (f v) (g w)) :
    (r.modify id f).Related E (s.modify id g) := by
  refine ⟨h.names, ?_⟩
  have hunits := h.units
  rw [Registry.modify, Registry.modify]
  dsimp only
  generalize r.units = us at hunits ⊢
  generalize s.units = vs at hunits ⊢
  induction hunits generalizing id with
  | nil => simp
  | cons hv hvs ih =>
    cases id with
    | zero => exact .cons (hfg _ _ hv) hvs
    | succ id => exact .cons hv (ih id)

/-- An eviction leaves registries related. -/
lemma evict (h : r.Related E s) (name : String) : (r.evict name).Related E (s.evict name) :=
  ⟨by rw [Registry.evict, Registry.evict, h.names], h.units⟩

/-- Related registries give the same unit for a name, and stay related if it is new. -/
lemma getOrCreate (hE : IsCongruence E) (h : r.Related E s) (name : String) :
    (r.getOrCreate name).1.Related E (s.getOrCreate name).1 ∧
      (s.getOrCreate name).2 = (r.getOrCreate name).2 := by
  rw [Registry.getOrCreate, Registry.getOrCreate, h.find?, h.nextId]
  cases r.find? name with
  | some id => exact ⟨h, rfl⟩
  | none => exact ⟨h.insertNew hE name, rfl⟩

/-! ### Calls of native code -/

/-- Native code that sets an attribute gets the same answer from related registries, and leaves them
related. -/
lemma setAttribute (hE : IsCongruence E) (h : r.Related E s) (context : Option NativeContext)
    (key : NativeText) (value : Option Value) :
    let x := HostCall.setAttribute context r key value
    let y := HostCall.setAttribute context s key value
    x.registry.Related E y.registry ∧ y.context = x.context ∧ y.code = x.code := by
  unfold HostCall.setAttribute
  split
  · exact ⟨h.modify _ fun v w hvw => hE.setAttribute hvw _ _, rfl, rfl⟩
  · exact ⟨h, rfl, rfl⟩

/-- A call of native code gets the same answer from related registries, and leaves them related. -/
lemma perform (hE : IsCongruence E) (h : r.Related E s) (context : Option NativeContext)
    (depth : Option Nat) (call : HostCall) :
    let x := call.perform context r depth
    let y := call.perform context s depth
    x.registry.Related E y.registry ∧ y.context = x.context ∧ y.code = x.code := by
  cases call with
  | register name =>
    cases context with
    | none => exact ⟨h, rfl, rfl⟩
    | some context =>
      cases name with
      | none => exact ⟨h, rfl, rfl⟩
      | some name =>
        obtain ⟨hregistry, hid⟩ := h.getOrCreate hE (context.qualify name)
        have hcontext := congrArg
          (fun p : UnitId × Bool => some { context with registered := some p.1 }) hid
        exact ⟨hregistry, hcontext, rfl⟩
  | setText key value => exact h.setAttribute hE context key _
  | setInt key value => exact h.setAttribute hE context key _
  | depth =>
    rw [HostCall.perform.eq_def, HostCall.perform.eq_def]
    dsimp only
    split <;> exact ⟨h, rfl, rfl⟩

/-- Calls of native code get the same answers from related registries, and leave them related. -/
lemma performAll (hE : IsCongruence E) (h : r.Related E s) (context : Option NativeContext)
    (depth : Option Nat) (calls : List HostCall) :
    let x := HostCall.performAll context r depth calls
    let y := HostCall.performAll context s depth calls
    x.2.1.Related E y.2.1 ∧ y.2.2 = x.2.2 := by
  induction calls generalizing context r s with
  | nil => exact ⟨h, rfl⟩
  | cons call calls ih =>
    obtain ⟨hregistry, hcontext, hcode⟩ := h.perform hE context depth call
    obtain ⟨hlast, hcodes⟩ := ih hregistry (call.perform context r depth).context
    rw [HostCall.performAll, HostCall.performAll, hcontext, hcode]
    exact ⟨hlast, congrArg (_ :: ·) hcodes⟩

end Registry.Related

/-! ## Loaders -/

/-- Loaders with related units and with certain chains, and all else the same. -/
def Loader.Related (E : LoadedUnit → LoadedUnit → Prop) (c d : List Finder) (l k : Loader) : Prop :=
  l.chain = c ∧ ∃ r, l.registry.Related E r ∧ k = { l with chain := d, registry := r }

namespace LoadM

/-- Computations that give the same on related loaders, and leave them related. -/
def Sim (E : LoadedUnit → LoadedUnit → Prop) (c d : List Finder) (x y : LoadM α) : Prop :=
  ∀ l k, l.Related E c d k →
    (exec y k).1 = (exec x l).1 ∧ (exec x l).2.Related E c d (exec y k).2

namespace Sim

variable {x y : LoadM α}

/-- Computations one after the other do the same on related loaders if each of them does. -/
lemma bind {f g : α → LoadM β} (h : Sim E c d x y) (hf : ∀ v, Sim E c d (f v) (g v)) :
    Sim E c d (x >>= f) (y >>= g) := by
  intro l k hlk
  obtain ⟨he, hleft⟩ := h l k hlk
  rw [exec_bind, exec_bind]
  generalize exec x l = p at he hleft
  generalize exec y k = q at he hleft
  obtain ⟨result, l'⟩ := p
  obtain ⟨result', k'⟩ := q
  obtain rfl : result' = result := he
  cases result' with
  | error e => exact ⟨rfl, hleft⟩
  | ok v => exact hf v l' k' hleft

/-- Computations do the same with the errors of others if both do. -/
lemma tryCatch {f g : LoadError → LoadM α} (h : Sim E c d x y) (hf : ∀ e, Sim E c d (f e) (g e)) :
    Sim E c d (tryCatch x f) (tryCatch y g) := by
  intro l k hlk
  obtain ⟨he, hleft⟩ := h l k hlk
  rw [exec_tryCatch, exec_tryCatch]
  generalize exec x l = p at he hleft
  generalize exec y k = q at he hleft
  obtain ⟨result, l'⟩ := p
  obtain ⟨result', k'⟩ := q
  obtain rfl : result' = result := he
  cases result' with
  | error e => exact hf e l' k' hleft
  | ok v => exact ⟨rfl, hleft⟩

/-- A value is given in both loaders. -/
lemma pure (v : α) : Sim E c d (pure v) (Pure.pure v) := fun _ _ h => ⟨rfl, h⟩

/-- An error is given in both loaders. -/
lemma throw (e : LoadError) : Sim E c d (throw e : LoadM α) (MonadExcept.throw e) :=
  fun _ _ h => ⟨rfl, h⟩

/-- A result that is known beforehand is given in both loaders. -/
lemma ofOutcome (r : Outcome α) : Sim E c d (ofOutcome r) (LoadM.ofOutcome r) := by
  cases r with
  | ok v => exact pure v
  | error e => exact throw e

/-- Changes that leave loaders related do the same. -/
lemma modify {change change' : Loader → Loader}
    (h : ∀ l k, l.Related E c d k → (change l).Related E c d (change' k)) :
    Sim E c d (modify change) (modify change') := fun l k hlk => ⟨rfl, h l k hlk⟩

/-- The registries of related loaders are asked for a name alike. -/
lemma registered? (name : String) : Sim E c d (registered? name) (LoadM.registered? name) := by
  rintro l _ ⟨hc, r, hr, rfl⟩
  rw [exec_registered?, exec_registered?, hr.find? name]
  exact ⟨rfl, hc, r, hr, rfl⟩

/-- What goes on from a unit goes on alike, if it does from units that cannot be told apart. -/
lemma unit_bind (hE : IsCongruence E) (id : UnitId) {f g : LoadedUnit → LoadM β}
    (hf : ∀ v w, E v w → Sim E c d (f v) (g w)) :
    Sim E c d (LoadM.unit id >>= f) (LoadM.unit id >>= g) := by
  rintro l _ ⟨hc, r, hr, rfl⟩
  rw [exec_bind, exec_bind]
  exact hf _ _ (hr.unit hE id) l _ ⟨hc, r, hr, rfl⟩

/-- Units of an identity are changed alike. -/
lemma modifyUnit (id : UnitId) (hfg : ∀ v w, E v w → E (f v) (g w)) :
    Sim E c d (modifyUnit id f) (LoadM.modifyUnit id g) :=
  modify fun l _ ⟨hc, r, hr, hk⟩ => ⟨hc, r.modify id g, hr.modify id hfg, by rw [hk]; rfl⟩

/-- An attribute is assigned alike. -/
lemma assign (hE : IsCongruence E) (id : UnitId) (key : String) (value : Value) :
    Sim E c d (assign id key value) (LoadM.assign id key value) :=
  modifyUnit id fun _ _ h => hE.setAttribute h key value

/-- An event is noted alike. -/
lemma note (e : Event) : Sim E c d (note e) (LoadM.note e) :=
  modify fun l _ ⟨hc, r, hr, hk⟩ => ⟨hc, r, hr, by rw [hk]; rfl⟩

/-- A unit is found or created alike. -/
lemma getOrCreate (hE : IsCongruence E) (name : String) :
    Sim E c d (getOrCreate name) (LoadM.getOrCreate name) := by
  rintro l _ ⟨hc, r, hr, rfl⟩
  rw [LoadM.getOrCreate, exec_modifyGet, exec_modifyGet]
  dsimp only
  rw [hr.find? name, hr.nextId]
  cases l.registry.find? name with
  | some id => exact ⟨rfl, hc, r, hr, rfl⟩
  | none => exact ⟨rfl, hc, r.insertNew name, hr.insertNew hE name, rfl⟩

/-- Registering a unit and describing it. -/
lemma describe (hE : IsCongruence E) (name : String) (hfg : ∀ v w, E v w → E (f v) (g w)) :
    Sim E c d
      (LoadM.getOrCreate name >>= fun new => LoadM.modifyUnit new.1 f >>= fun _ => Pure.pure new.1)
      (LoadM.getOrCreate name >>= fun new => LoadM.modifyUnit new.1 g >>= fun _ => Pure.pure new.1) :=
  (getOrCreate hE name).bind fun new => (modifyUnit new.1 hfg).bind fun _ => pure new.1

/-- A change for the case of an error is made alike. -/
lemma onError (h : Sim E c d x y) {change : Loader → Loader}
    (hchange : ∀ l k, l.Related E c d k → (change l).Related E c d (change k)) :
    Sim E c d (x.onError change) (y.onError change) :=
  h.tryCatch fun e => (modify hchange).bind fun _ => throw e

/-- A change that is always made is made alike. -/
lemma always (h : Sim E c d x y) {change : Loader → Loader}
    (hchange : ∀ l k, l.Related E c d k → (change l).Related E c d (change k)) :
    Sim E c d (x.always change) (y.always change) :=
  (h.onError hchange).bind fun v => (modify hchange).bind fun _ => pure v

/-- Values that are not used do not matter. -/
lemma discard (h : Sim E c d x y) : Sim E c d (discard x) (Functor.discard y) := by
  intro l k hlk
  rw [exec_discard, exec_discard]
  exact h.bind (fun _ => pure ()) l k hlk

/-- Loops do the same if their rounds do. -/
lemma forM {f g : γ → LoadM PUnit} {zs : List γ} (h : ∀ z ∈ zs, Sim E c d (f z) (g z)) :
    Sim E c d (zs.forM f) (zs.forM g) := by
  induction zs with
  | nil => exact pure _
  | cons z zs ih =>
    exact (h z (List.mem_cons_self ..)).bind fun _ =>
      ih fun z' hz' => h z' (List.mem_cons_of_mem _ hz')

end Sim

end LoadM

open LoadM (Sim)

/-! ## Programs -/

/-- Importers whose imports do the same. -/
def Importer.Sim (E : LoadedUnit → LoadedUnit → Prop) (c d : List Finder) (i j : Importer) : Prop :=
  ∀ name, LoadM.Sim E c d (i name) (j name)

/-- Importers that do the same do so when they are recorded. -/
lemma Importer.Sim.recorded (hi : i.Sim E c d j) : i.recorded.Sim E c d j.recorded := fun name =>
  (LoadM.Sim.note _).bind fun _ => (hi name).bind fun id =>
    (LoadM.Sim.note _).bind fun _ => .pure id

section Programs

variable (hE : IsCongruence E)

include hE

/-- A unit fails with the same error in related loaders. -/
lemma sim_fail (id : UnitId) (failure : Failure) :
    Sim E c d (LoadM.fail id failure : LoadM α) (LoadM.fail id failure) := by
  refine LoadM.Sim.unit_bind hE id fun v w h => ?_
  rw [hE.name h]
  exact .throw _

/-- An attribute is looked up alike. -/
lemma sim_attribute (id : UnitId) (key : String) {x y : LoadM Value} (h : Sim E c d x y) :
    Sim E c d (LoadM.attribute id key x) (LoadM.attribute id key y) := by
  refine LoadM.Sim.unit_bind hE id fun v w hvw => ?_
  rw [hE.attribute? hvw]
  cases v.attribute? key with
  | some value => exact .pure value
  | none => exact h

variable (hi : i.Sim E c d j)

include hi

/-- The segments of a reference are followed alike. -/
lemma sim_follow {x y : LoadM Value} (h : Sim E c d x y) (v : Value)
    (segments : List (List Char)) : Sim E c d (v.follow i x segments) (v.follow j y segments) := by
  induction segments generalizing v with
  | nil =>
    rw [Value.follow.eq_def, Value.follow.eq_def]
    exact .pure v
  | cons segment segments ih =>
    cases v with
    | unit target =>
      rw [Value.follow, Value.follow]
      exact (hi target).bind fun id => (sim_attribute hE id _ h).bind fun v => ih v
    | _ => exact h

/-- An expression is evaluated alike. -/
lemma sim_evaluate (id : UnitId) (e : Expr) :
    Sim E c d (e.evaluate i id) (e.evaluate j id) := by
  cases e with
  | literal v => exact .pure v
  | name n =>
    rw [Expr.evaluate, Expr.evaluate]
    cases UnitName.segments n with
    | nil => exact sim_fail hE id _
    | cons first rest =>
      exact (sim_attribute hE id _ (sim_fail hE id _)).bind fun v =>
        sim_follow hE hi (sim_fail hE id _) v rest

/-- What is imported from a unit is looked up alike. -/
lemma sim_importedValue (id source : UnitId) (module name : String) :
    Sim E c d (importedValue i id source module name) (importedValue j id source module name) := by
  refine sim_attribute hE source name (.tryCatch ?_ fun e => ?_)
  · exact (hi _).discard.bind fun _ => .pure _
  · split
    · exact sim_fail hE id _
    · exact .throw e

/-- Statements do the same if what they import is the same. -/
lemma sim_statement (id : UnitId) (st : Statement) : Sim E c d (st.run i id) (st.run j id) := by
  cases st with
  | assign target e => exact (sim_evaluate hE hi id e).bind fun v => .assign hE id target v
  | importUnit module newName =>
    refine (hi module).discard.bind fun _ => ?_
    cases newName <;> exact .assign hE id _ _
  | fromImport module names =>
    refine (hi module).bind fun source => .forM fun name _ => ?_
    exact (sim_importedValue hE hi id source module name).bind fun v => .assign hE id name v
  | raise message => exact sim_fail hE id _

/-- A program does the same if what it imports is the same. -/
theorem sim_run (id : UnitId) (p : Program) : Sim E c d (p.run i id) (p.run j id) :=
  .forM fun st _ => sim_statement hE hi.recorded id st

end Programs

/-! ## Artifacts -/

namespace Loader.Related

/-- A loader is related to itself. -/
lemma refl (hE : IsCongruence E) (l : Loader) : l.Related E l.chain l.chain l :=
  ⟨rfl, l.registry, .refl hE _, rfl⟩

/-- An eviction leaves loaders related. -/
lemma evict (h : l.Related E c d k) (name : String) :
    (l.evict name).Related E c d (k.evict name) := by
  obtain ⟨hc, r, hr, rfl⟩ := h
  exact ⟨hc, r.evict name, hr.evict name, rfl⟩

/-- Noting an event leaves loaders related. -/
lemma note (h : l.Related E c d k) (e : Event) : (l.note e).Related E c d (k.note e) := by
  obtain ⟨hc, r, hr, rfl⟩ := h
  exact ⟨hc, r, hr, rfl⟩

/-- A change of the gate leaves loaders related. -/
lemma gate (h : l.Related E c d k) (f : Gate → Gate) :
    { l with gate := f l.gate }.Related E c d { k with gate := f k.gate } := by
  obtain ⟨hc, r, hr, rfl⟩ := h
  exact ⟨hc, r, hr, rfl⟩

/-- Another linked library leaves loaders related. -/
lemma linked (h : l.Related E c d k) :
    { l with libraries := l.libraries + 1 }.Related E c d
      { k with libraries := k.libraries + 1 } := by
  obtain ⟨hc, r, hr, rfl⟩ := h
  exact ⟨hc, r, hr, rfl⟩

/-- Calling an entry point leaves loaders related. -/
lemma callEntryPoint (hE : IsCongruence E) (h : l.Related E c d k) (library : NativeLibrary)
    (name : String) :
    (l.callEntryPoint library name).Related E c d (k.callEntryPoint library name) := by
  obtain ⟨hc, r, hr, rfl⟩ := h
  obtain ⟨hregistry, hcodes⟩ := hr.performAll hE
    (NativeScope.enter l.context { name, gate := some 0 }).1 (some l.gate.depth) library.calls
  refine ⟨hc, _, hregistry, ?_⟩
  rw [Loader.callEntryPoint, Loader.callEntryPoint]
  dsimp only
  rw [hcodes]

end Loader.Related

section Artifacts

variable {t u : Tree} {x y : Artifact} (hE : IsCongruence E)

include hE

/-- Units of the same name and with the same program are installed alike, if what they are told to
be is related. -/
lemma sim_install (hi : i.Sim E c d j) (hname : y.name = x.name) {kind kind' : ArtifactKind}
    (hbind : ∀ v w, E v w → E (v.bindMetadata (some x.origin) (some kind) x.locations)
      (w.bindMetadata (some y.origin) (some kind') y.locations)) (p : Program) :
    Sim E c d (x.install i kind p) (y.install j kind' p) := by
  rw [Artifact.install, Artifact.install, hname]
  refine (LoadM.Sim.getOrCreate hE x.name).bind fun new => ?_
  obtain ⟨id, isNew⟩ := new
  cases isNew with
  | false => exact .pure id
  | true =>
    refine (LoadM.Sim.modifyUnit id hbind).bind fun _ => (LoadM.Sim.note _).bind fun _ => ?_
    refine LoadM.Sim.bind ((sim_run hE hi id p).onError fun l k h => ?_) fun _ => ?_
    · exact (h.evict x.name).note _
    · exact (LoadM.Sim.note _).bind fun _ => .pure id

/-- Libraries that are linked alike are loaded alike. -/
lemma sim_loadNative (hname : y.name = x.name) (horigin : y.origin = x.origin)
    (hlocations : y.locations = x.locations) (hlink : y.link u = x.link t) :
    Sim E c d (x.loadNative t) (y.loadNative u) := by
  rw [Artifact.loadNative, Artifact.loadNative, hlink, hname, horigin, hlocations]
  refine LoadM.Sim.bind (.modify fun l k h => h.gate _) fun _ => ?_
  extract_lets symbol loading
  refine LoadM.Sim.always ?_ fun l k h => h.gate _
  refine (LoadM.Sim.ofOutcome _).bind fun library => ?_
  extract_lets call
  have hcall : ∀ r, Sim E c d (call r) (call r) := by
    intro r
    refine LoadM.Sim.bind (.modify fun l k h => h.linked) fun _ => ?_
    refine LoadM.Sim.bind (.modify fun l k h => h.callEntryPoint hE library x.name) fun _ => ?_
    refine (LoadM.Sim.registered? x.name).bind fun found => ?_
    cases found with
    | none => exact .throw _
    | some id =>
      refine LoadM.Sim.bind (.modifyUnit id fun v w h => ?_) fun _ => .pure id
      exact hE.bindMetadata h _ _ _
  split
  · exact (LoadM.Sim.throw _).bind hcall
  · exact hcall ()

end Artifacts

/-! ## Imports -/

/-- Resolutions to artifacts that are loaded alike, or to the same directories. -/
inductive Resolution.LoadsAlike (E : LoadedUnit → LoadedUnit → Prop) (c d : List Finder)
    (t u : Tree) : Resolution → Resolution → Prop
  | artifact {x y : Artifact} {strategy strategy' : Strategy}
      (h : ∀ i j, i.Sim E c d j → Sim E c d (x.load t i strategy) (y.load u j strategy')) :
      LoadsAlike E c d t u (.artifact x strategy) (.artifact y strategy')
  | portions (name : String) (locations : List String) :
      LoadsAlike E c d t u (.portions name locations) (.portions name locations)

/-- Chains in which artifacts are found that are loaded alike. -/
def FindsAlike (E : LoadedUnit → LoadedUnit → Prop) (a b : Ambient) (c d : List Finder) : Prop :=
  ∀ name searchPath, Alike (Option.Rel (Resolution.LoadsAlike E c d a.tree b.tree))
    (findInChain a name searchPath c) (findInChain b name searchPath d)

section Imports

variable {a b : Ambient} (hE : IsCongruence E) (hf : FindsAlike E a b c d)

include hE hf

/-- A unit is brought in alike. -/
lemma sim_bring (hi : i.Sim E c d j) (name : String) (searchPath : Option (List String)) :
    Sim E c d (bring a i name searchPath) (bring b j name searchPath) := by
  intro l k hlk
  have hx := LoadM.exec_bring a i name searchPath l
  have hy := LoadM.exec_bring b j name searchPath k
  have hbuiltins : k.builtins = l.builtins := by
    obtain ⟨-, r, -, rfl⟩ := hlk
    rfl
  rw [hbuiltins] at hy
  cases hb : l.builtins.get? name with
  | some bindings =>
    rw [hb] at hx hy
    rw [hx, hy]
    exact LoadM.Sim.describe hE name (fun v w h => hE.becomeBuiltin h bindings) l k hlk
  | none =>
    rw [hb, LoadM.exec_bringFound] at hx hy
    have hchain : l.chain = c ∧ k.chain = d := by
      obtain ⟨hc, r, -, rfl⟩ := hlk
      exact ⟨hc, rfl⟩
    -- The finders may differ; all that matters is that what they find is loaded alike.
    have hfound := hf name searchPath
    rw [Loader.find, hchain.1] at hx
    rw [Loader.find, hchain.2] at hy
    rw [hx, hy]
    dsimp only
    generalize findInChain a name searchPath c = r at hfound
    generalize findInChain b name searchPath d = r' at hfound
    cases hfound with
    | error e => exact ⟨rfl, hlk⟩
    | ok hr =>
      cases hr with
      | none => exact ⟨rfl, hlk⟩
      | some hr =>
        cases hr with
        | artifact hload =>
          exact (hload i j hi).onError (fun l k h => h.evict name) l k hlk
        | portions name locations =>
          exact LoadM.Sim.describe hE name (fun v w h => hE.bindMetadata h _ _ _) l k hlk

/-- A unit is brought into the one around it alike. -/
lemma sim_bringInside (hi : i.Sim E c d j) (name parent : String) (parentId : UnitId) :
    Sim E c d (bringInside a i name parent parentId) (bringInside b j name parent parentId) := by
  refine (LoadM.Sim.registered? name).bind fun found => ?_
  cases found with
  | some id => exact .pure id
  | none =>
    refine LoadM.Sim.unit_bind hE parentId fun v w hvw => ?_
    rw [hE.isContainer hvw, hE.locations hvw]
    have hrest : ∀ r : PUnit, Sim E c d
        (do
          let id ← bring a i name (some v.locations)
          LoadM.assign parentId (UnitName.short name) (.unit name)
          return id)
        (do
          let id ← bring b j name (some v.locations)
          LoadM.assign parentId (UnitName.short name) (.unit name)
          return id) :=
      fun _ => (sim_bring hE hf hi name _).bind fun id =>
        (LoadM.Sim.assign hE parentId _ _).bind fun _ => .pure id
    split
    · exact (LoadM.Sim.throw _).bind hrest
    · exact hrest ()

/-- A unit is imported alike after those around it. -/
lemma sim_importLineage (hi : i.Sim E c d j) (name : String) (around : List String) :
    Sim E c d (importLineage a i name around) (importLineage b j name around) := by
  induction around generalizing name with
  | nil =>
    rw [importLineage, importLineage]
    refine (LoadM.Sim.registered? name).bind fun found => ?_
    cases found with
    | some id => exact .pure id
    | none => exact sim_bring hE hf hi name none
  | cons parent around ih =>
    rw [importLineage, importLineage]
    refine (LoadM.Sim.registered? name).bind fun found => ?_
    cases found with
    | some id => exact .pure id
    | none =>
      exact (ih parent).bind fun parentId => sim_bringInside hE hf hi name parent parentId

/-- Nested imports do the same if what is found is loaded alike.

**Proof sketch.** By induction on the bound: what is imported inside is the same within the smaller
bound. -/
lemma sim_importWithin (n : Nat) : (importWithin a n).Sim E c d (importWithin b n) := by
  induction n with
  | zero => exact fun name => .throw .tooDeep
  | succ n ih =>
    intro name
    rw [importWithin, importWithin, importOnce, importOnce]
    split
    · exact sim_importLineage hE hf ih name _
    · exact .throw _

/-- Imports do the same if what is found is loaded alike. The bounds of their nesting, which depend
on the whole trees, are not reached. -/
theorem sim_import? (name : String) : Sim E c d (import? a name) (import? b name) := by
  intro l k hlk
  obtain ⟨n, hn⟩ : ∃ n, (l.universe a.tree [name]).toFinset.card < n := ⟨_, Nat.lt_succ_self _⟩
  obtain ⟨m, hm⟩ : ∃ m, (k.universe b.tree [name]).toFinset.card < m := ⟨_, Nat.lt_succ_self _⟩
  rw [exec_import?_eq_importWithin (Nat.lt_add_right m hn),
    exec_import?_eq_importWithin (Nat.lt_add_left n hm)]
  exact sim_importWithin hE hf (n + m) name l k hlk

end Imports

end UnitLoader
