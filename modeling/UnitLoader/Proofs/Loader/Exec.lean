import Mathlib.Tactic.Lemma
import UnitLoader.Loader.Import

/-!
# Executing computations on a loader

A computation takes a loader to a result and a changed loader. What the ways of putting computations
together mean is said here once, so that later proofs never look into the monad.

## Main definitions

* `UnitLoader.LoadM.exec` — the result of a computation and the loader that it leaves.

## Main results

* `UnitLoader.LoadM.exec_bind` — a computation goes on with what it gave, or stops at its error.
* `UnitLoader.LoadM.exec_tryCatch` — an error is handled by a loader with the changes before it.
-/

set_option relaxedAutoImplicit false
set_option autoImplicit false

namespace UnitLoader.LoadM

variable {α β : Type} (l : Loader)

/-- The result of a computation and the loader that it leaves. -/
def exec (x : LoadM α) (l : Loader) : Outcome α × Loader :=
  x.run.run l

/-! ## Putting computations together -/

/-- A computation that only gives a value leaves the loader as it is. -/
@[simp]
lemma exec_pure (v : α) : exec (pure v) l = (.ok v, l) := rfl

/-- A computation that only fails leaves the loader as it is. -/
@[simp]
lemma exec_throw (e : LoadError) : exec (throw e : LoadM α) l = (.error e, l) := rfl

/-- A computation goes on with what it gave, or stops at its error. -/
lemma exec_bind (x : LoadM α) (f : α → LoadM β) :
    exec (x >>= f) l = match exec x l with
      | (.ok v, l') => exec (f v) l'
      | (.error e, l') => (.error e, l') := by
  unfold exec ExceptT.run StateT.run
  simp only [bind, ExceptT.bind, ExceptT.mk, StateT.bind, ExceptT.bindCont]
  rcases x l with ⟨_ | v, l'⟩ <;> rfl

/-- An error is handled by a loader with the changes before it. -/
lemma exec_tryCatch (x : LoadM α) (handle : LoadError → LoadM α) :
    exec (tryCatch x handle) l = match exec x l with
      | (.ok v, l') => (.ok v, l')
      | (.error e, l') => exec (handle e) l' := by
  unfold exec ExceptT.run StateT.run
  simp only [tryCatch, tryCatchThe, MonadExceptOf.tryCatch, ExceptT.tryCatch, ExceptT.mk, bind,
    StateT.bind]
  rcases x l with ⟨_ | v, l'⟩ <;> rfl

/-- A change for the case of an error is made in that case. -/
lemma exec_onError (x : LoadM α) (change : Loader → Loader) :
    exec (x.onError change) l = match exec x l with
      | (.ok v, l') => (.ok v, l')
      | (.error e, l') => (.error e, change l') := by
  rw [onError, exec_tryCatch]
  rcases exec x l with ⟨_ | v, l'⟩ <;> rfl

/-- A value that is not used is dropped. -/
lemma exec_discard (x : LoadM α) : exec (discard x) l = exec (x >>= fun _ => pure ()) l := by
  rw [exec_bind]
  unfold exec ExceptT.run StateT.run
  simp only [discard, Functor.mapConst, Function.comp, ExceptT.map, ExceptT.mk, bind, StateT.bind]
  rcases x l with ⟨_ | v, l'⟩ <;> rfl

/-! ## Single operations -/

/-- A result that is known beforehand leaves the loader as it is. -/
@[simp]
lemma exec_ofOutcome (r : Outcome α) : exec (ofOutcome r) l = (r, l) := by
  cases r <;> rfl

/-- The loader itself can be looked at. -/
@[simp]
lemma exec_get : exec get l = (.ok l, l) := rfl

/-- A change of the loader is made. -/
@[simp]
lemma exec_modify (change : Loader → Loader) : exec (modify change) l = (.ok (), change l) := rfl

/-- An event is noted. -/
@[simp]
lemma exec_note (e : Event) : exec (note e) l = (.ok (), l.note e) := rfl

/-- The registry is asked for a name. -/
@[simp]
lemma exec_registered? (name : String) :
    exec (registered? name) l = (.ok (l.registry.find? name), l) := rfl

/-- A unit is looked at. -/
@[simp]
lemma exec_unit (id : UnitId) : exec (unit id) l = (.ok (l.registry.unit id), l) := rfl

/-- A unit is changed. -/
@[simp]
lemma exec_modifyUnit (id : UnitId) (f : LoadedUnit → LoadedUnit) :
    exec (modifyUnit id f) l = (.ok (), l.modifyUnit id f) := rfl

/-- An attribute of a unit is set. -/
@[simp]
lemma exec_assign (id : UnitId) (key : String) (v : Value) :
    exec (assign id key v) l = (.ok (), l.modifyUnit id (·.setAttribute key v)) := rfl

/-- The failure of a unit names the unit. -/
@[simp]
lemma exec_fail (id : UnitId) (failure : Failure) :
    exec (fail id failure : LoadM α) l =
      (.error (.executionFailed (l.registry.unit id).name failure), l) := rfl

/-- An attribute of a unit is given, or what is done without it. -/
lemma exec_attribute (id : UnitId) (key : String) (missing : LoadM Value) :
    exec (LoadM.attribute id key missing) l = match (l.registry.unit id).attribute? key with
      | some v => (.ok v, l)
      | none => exec missing l := by
  rw [LoadM.attribute, exec_bind, exec_unit]
  dsimp only
  cases (l.registry.unit id).attribute? key <;> rfl

/-- A change of the loader that gives a value is made. -/
lemma exec_modifyGet (f : Loader → α × Loader) :
    exec (modifyGet f) l = (.ok (f l).1, (f l).2) := rfl

/-- For a name that is free a unit is created. -/
lemma exec_getOrCreate_of_none {name : String} (h : l.registry.find? name = none) :
    exec (getOrCreate name) l = (.ok (l.registry.nextId, true), l.create name) := by
  rw [getOrCreate, exec_modifyGet, h]

end UnitLoader.LoadM
