import Mathlib.Logic.Function.Iterate
import UnitLoader.Proofs.Loader.Artifacts
import UnitLoader.Proofs.UnitName

/-!
# Imports as sequences of steps

An import brings in the units around a unit before the unit itself. With imports inside of imports,
it is a sequence of steps, which depends on the bound on the nesting only if the bound is reached.

## Main definitions

* `UnitLoader.Loader.Surrounds` — the units around those that were brought in are registered.
* `UnitLoader.Importer.registered` — an importer that gives the units that are registered.

## Main results

* `UnitLoader.importLineage_follows` — an import of one unit is a sequence of steps.
* `UnitLoader.importWithin_follows` — nested imports are sequences of steps.
-/

set_option relaxedAutoImplicit false
set_option autoImplicit false

namespace UnitLoader

open LoadM (exec)
open UnitName (lineage ancestors parent?)

variable {a : Ambient} {n : Nat} {s : List Frame} {name : String} {l : Loader} {i j : Importer}

/-- From a unit that is not registered up to the first that is, the units around are registered in
another loader. -/
def Loader.Surrounds (l : Loader) (name : String) (l' : Loader) : Prop :=
  ∀ q ∈ lineage name, (∀ r ∈ lineage name, q ∈ lineage r → l.registry.find? r = none) →
    (∃ id, l'.registry.find? q = some id) ∧
      ∀ p, parent? q = some p → ∃ id, l'.registry.find? p = some id

namespace Loader.Surrounds

variable {l' : Loader} {id : UnitId}

/-- A registered unit needs no units around it. -/
lemma of_registered (hr : l.registry.find? name = some id) : l.Surrounds name l' := by
  intro q hq hall
  simp [hall name (UnitName.self_mem_lineage name) hq] at hr

/-- A registered unit with no unit around it is surrounded. -/
lemma of_outermost (hp : parent? name = none) (hr : l'.registry.find? name = some id) :
    l.Surrounds name l' := by
  intro q hq _
  rw [UnitName.lineage_of_outermost hp, List.mem_singleton] at hq
  subst hq
  exact ⟨⟨id, hr⟩, fun p hqp => by simp [hp] at hqp⟩

/-- Inside of a unit the units around are the same, with that unit. -/
lemma inside {parent : String} {parentId : UnitId} (hs : l.Surrounds parent l')
    (hp : parent? name = some parent) (hr : l'.registry.find? name = some id)
    (hpr : l'.registry.find? parent = some parentId) : l.Surrounds name l' := by
  intro q hq hall
  rw [UnitName.lineage_of_parent? hp, List.mem_cons] at hq
  rcases hq with rfl | hq
  · refine ⟨⟨id, hr⟩, fun p hqp => ?_⟩
    obtain rfl := Option.some.inj (hp.symm.trans hqp)
    exact ⟨parentId, hpr⟩
  · refine hs q hq fun r hrm hqr => hall r ?_ hqr
    exact UnitName.lineage_subset (UnitName.parent?_mem_lineage hp) hrm

/-- Units that stay registered stay surrounded. -/
lemma imp {l₁ : Loader} (hs : l.Surrounds name l₁)
    (hkept : ∀ q id, l₁.registry.find? q = some id → l'.registry.find? q = some id) :
    l.Surrounds name l' := by
  intro q hq hall
  obtain ⟨⟨qid, hqid⟩, hparents⟩ := hs q hq hall
  refine ⟨⟨qid, hkept _ _ hqid⟩, fun p hqp => ?_⟩
  obtain ⟨pid, hpid⟩ := hparents p hqp
  exact ⟨pid, hkept _ _ hpid⟩

end Loader.Surrounds

/-! ## What importing does -/

namespace LoadM

/-- A registered unit is given at once. -/
lemma exec_importLineage_of_registered {id : UnitId} (hr : l.registry.find? name = some id)
    (around : List String) : exec (importLineage a i name around) l = (.ok id, l) := by
  cases around <;> rw [importLineage, exec_bind, exec_registered?, hr] <;> rfl

/-- A unit with no unit around it is brought in without a search path. -/
lemma exec_importLineage_of_outermost (hfree : l.registry.find? name = none) :
    exec (importLineage a i name []) l = exec (bring a i name none) l := by
  rw [importLineage, exec_bind, exec_registered?, hfree]

/-- A unit that is not registered is brought into the next unit around it after that was
imported. -/
lemma exec_importLineage (hfree : l.registry.find? name = none) (parent : String)
    (around : List String) :
    exec (importLineage a i name (parent :: around)) l =
      exec (importLineage a i parent around >>= bringInside a i name parent) l := by
  rw [importLineage, exec_bind, exec_registered?, hfree]

/-- A unit that is registered by the time the unit around it was imported is given at once. -/
lemma exec_bringInside_of_registered {id : UnitId} (hr : l.registry.find? name = some id)
    (parent : String) (parentId : UnitId) :
    exec (bringInside a i name parent parentId) l = (.ok id, l) := by
  rw [bringInside, exec_bind, exec_registered?, hr]
  rfl

/-- A unit is brought into the one around it by the locations of that one, if it is a container, and
becomes an attribute of it. -/
lemma exec_bringInside (hfree : l.registry.find? name = none) (parent : String)
    (parentId : UnitId) :
    exec (bringInside a i name parent parentId) l =
      if (l.registry.unit parentId).isContainer then
        match exec (bring a i name (some (l.registry.unit parentId).locations)) l with
        | (.ok id, l') =>
          (.ok id, l'.modifyUnit parentId (·.setAttribute (UnitName.short name) (.unit name)))
        | (.error e, l') => (.error e, l')
      else (.error (.missingArtifact (.inNoContainer name parent)), l) := by
  rw [bringInside, exec_bind, exec_registered?, hfree]
  dsimp only
  rw [exec_bind, exec_unit]
  dsimp only
  cases hc : (l.registry.unit parentId).isContainer
  · rfl
  · simp only [Bool.not_true, Bool.false_eq_true, if_false, if_true, exec_bind]
    rcases exec (bring a i name _) l with ⟨_ | _, l'⟩ <;> rfl

end LoadM

/-! ## Imports of one unit -/

/-- The importers give the units that the program of any unit brought in inside of the frames asks
for. -/
def SuppliesWithin (a : Ambient) (n : Nat) (s : List Frame) (i j : Importer) : Prop :=
  ∀ name id p searchPath,
    Supplies a n (.running name id p :: .bringing name searchPath :: s) i j

/-- Bringing a unit into the one around it goes step by step, and leaves it registered. -/
lemma bringInside_follows {asked parent : String} {parentId : UnitId}
    (hi : SuppliesWithin a n (.asking asked :: s) i j)
    (ho : Orderly l (.asking asked :: s)) (hasked : UnitName.isImportable asked)
    (hn : asked ∉ Frame.runningNames s) (hm : name ∈ lineage asked)
    (hp : parent? name = some parent) (hr : l.registry.find? parent = some parentId) :
    Follows a n (.asking asked :: s) l (bringInside a i name parent parentId)
      (bringInside a j name parent parentId)
      (Gives fun id l' => l'.registry.find? name = some id) := by
  cases hname : l.registry.find? name with
  | some id =>
    exact .congr (.pure (gives_ok.2 hname)) (LoadM.exec_bringInside_of_registered hname _ _)
      (LoadM.exec_bringInside_of_registered hname _ _)
  | none =>
    have hx := LoadM.exec_bringInside (a := a) (i := i) hname parent parentId
    have hy := LoadM.exec_bringInside (a := a) (i := j) hname parent parentId
    cases hc : (l.registry.unit parentId).isContainer with
    | false =>
      rw [hc] at hx hy
      exact .congr (.throw gives_error) hx hy
    | true =>
      rw [hc, if_pos rfl] at hx hy
      have hstep := Step.bring (a := a) (k := failures l.history) (s := s) hm hname
        (.within hp hr hc) hasked hn
      refine .nest (.single hstep) rfl (bring_follows hname (hstep.orderly ho)
        fun id p => hi name id p _) ?_ ?_ ?_ (g := fun r => r)
        (k := fun r l' => match r with
          | .ok _ =>
            l'.modifyUnit parentId (·.setAttribute (UnitName.short name) (.unit name))
          | .error _ => l')
      · intro r l' hs hq
        cases r with
        | ok id =>
          have hr' := (hstep.orderly ho).find?_kept hs hr
          exact ⟨.adopt hq hp hr', gives_ok.2 hq, fun _ _ => ⟨⟨_, rfl⟩, rfl⟩⟩
        | error e => exact ⟨.abandon hq, gives_error, by simp⟩
      · rw [hx]
        split <;> simp_all
      · rw [hy]
        split <;> simp_all

/-- Bringing in a unit with no unit around it goes step by step, and leaves it registered. -/
lemma outermost_follows {asked : String} (hi : SuppliesWithin a n (.asking asked :: s) i j)
    (ho : Orderly l (.asking asked :: s)) (hasked : UnitName.isImportable asked)
    (hn : asked ∉ Frame.runningNames s) (hm : name ∈ lineage asked)
    (hname : l.registry.find? name = none) (hp : parent? name = none) :
    Follows a n (.asking asked :: s) l (importLineage a i name []) (importLineage a j name [])
      (Gives fun id l' => l'.registry.find? name = some id) := by
  have hstep := Step.bring (a := a) (k := failures l.history) (s := s) hm hname (.anywhere hp)
    hasked hn
  refine .nest (.single hstep) rfl (bring_follows hname (hstep.orderly ho)
    fun id p => hi name id p _) ?_ (LoadM.exec_importLineage_of_outermost hname)
    (LoadM.exec_importLineage_of_outermost hname) (g := fun r => r) (k := fun _ l' => l')
  intro r l' _ hq
  cases r with
  | ok id => exact ⟨.settle hq hp, gives_ok.2 hq, fun _ _ => ⟨⟨_, rfl⟩, rfl⟩⟩
  | error e => exact ⟨.abandon hq, gives_error, by simp⟩

/-- An import of one unit is a sequence of steps.

**Proof sketch.** By induction on the lineage, from the unit around. Importing that unit takes
steps after which it is registered, and it stays registered while the unit itself is brought in. -/
theorem importLineage_follows {asked : String}
    (hi : SuppliesWithin a n (.asking asked :: s) i j)
    (ho : Orderly l (.asking asked :: s)) (hasked : UnitName.isImportable asked)
    (hn : asked ∉ Frame.runningNames s) (hm : name ∈ lineage asked) :
    Follows a n (.asking asked :: s) l (importLineage a i name (ancestors name))
      (importLineage a j name (ancestors name))
      (Gives fun id l' => l'.registry.find? name = some id ∧ l.Surrounds name l') := by
  generalize haround : ancestors name = around
  induction around generalizing name with
  | nil =>
    have hp := UnitName.parent?_of_ancestors_nil haround
    cases hname : l.registry.find? name with
    | some id =>
      exact .congr (.pure (gives_ok.2 ⟨hname, .of_registered hname⟩))
        (LoadM.exec_importLineage_of_registered hname _)
        (LoadM.exec_importLineage_of_registered hname _)
    | none =>
      exact (outermost_follows hi ho hasked hn hm hname hp).imp fun r l' hq id hid =>
        ⟨hq id hid, .of_outermost hp (hq id hid)⟩
  | cons parent around ih =>
    obtain ⟨hp, haround'⟩ := UnitName.parent?_of_ancestors_cons haround
    cases hname : l.registry.find? name with
    | some id =>
      exact .congr (.pure (gives_ok.2 ⟨hname, .of_registered hname⟩))
        (LoadM.exec_importLineage_of_registered hname _)
        (LoadM.exec_importLineage_of_registered hname _)
    | none =>
      have hx := ih (UnitName.lineage_subset hm (UnitName.parent?_mem_lineage hp)) haround'
      refine .congr (.bind hx (fun parentId l' hs hq => ?_) fun _ _ _ => gives_error)
        (LoadM.exec_importLineage hname parent around)
        (LoadM.exec_importLineage hname parent around)
      obtain ⟨hr, hsur⟩ := gives_ok.1 hq
      have ho' := hs.orderly ho
      have hb := bringInside_follows hi ho' hasked hn hm hp hr
      -- What is registered when the unit around was imported stays so: no program of it is running.
      have hkept : ∀ q id, l'.registry.find? q = some id →
          (exec (bringInside a i name parent parentId) l').2.registry.find? q = some id :=
        fun q id hid => ho'.find?_kept hb.steps hid
      refine ⟨hb.steps, fun id hid => ⟨hb.post id hid, ?_⟩, hb.calm, hb.agrees⟩
      exact (hsur.imp hkept).inside hp (hb.post id hid) (hkept _ _ hr)

/-! ## Nested imports -/

/-- The import of a registered unit gives that unit. -/
lemma LoadM.exec_importOnce_of_registered {id : UnitId} (hi : UnitName.isImportable name)
    (hr : l.registry.find? name = some id) : exec (importOnce a i name) l = (.ok id, l) := by
  rw [importOnce, if_pos hi]
  exact exec_importLineage_of_registered hr _

/-- An import is a sequence of steps. If the program of its unit is running, the unit is given. -/
lemma importOnce_follows (hi : SuppliesWithin a n (.asking name :: s) i j)
    (ho : Orderly l (.asking name :: s)) :
    Follows a n (.asking name :: s) l (importOnce a i name) (importOnce a j name)
      fun r l' => Answered s name r l' ∧ Gives (fun _ l' => l.Surrounds name l') r l' := by
  by_cases himp : UnitName.isImportable name
  · by_cases hn : name ∈ Frame.runningNames s
    · obtain ⟨id, hid⟩ := Orderly.exists_find? hn
      have hr := hid l ho
      exact .congr (.pure ⟨hr, gives_ok.2 (.of_registered hr)⟩)
        (LoadM.exec_importOnce_of_registered himp hr) (LoadM.exec_importOnce_of_registered himp hr)
    · have hlineage := importLineage_follows hi ho himp hn (UnitName.self_mem_lineage name)
      simp only [importOnce, if_pos himp]
      refine hlineage.imp fun r l' hq => ?_
      cases r with
      | ok id => exact ⟨(gives_ok.1 hq).1, gives_ok.2 (gives_ok.1 hq).2⟩
      | error e => exact ⟨fun _ => hn, gives_error⟩
  · simp only [importOnce, if_neg himp]
    exact .throw ⟨fun hname => absurd hname himp, gives_error⟩

/-- An importer that gives the units that are registered, and brings in none. -/
def Importer.registered : Importer := fun name => do
  match ← LoadM.registered? name with
  | some id => return id
  | none => throw .tooDeep

/-- The importer that loads nothing gives registered units only. -/
lemma Importer.exec_registered (l : Loader) (name : String) :
    exec (Importer.registered name) l = match l.registry.find? name with
      | some id => (.ok id, l)
      | none => (.error .tooDeep, l) := by
  rw [registered, LoadM.exec_bind, LoadM.exec_registered?]
  cases l.registry.find? name <;> rfl

/-- The importer that loads nothing goes step by step. -/
lemma Importer.registered_follows (ho : Orderly l (.asking name :: s)) :
    Follows a n (.asking name :: s) l (Importer.registered name) (Importer.registered name)
      (Answered s name) := by
  have he := Importer.exec_registered l name
  cases hr : l.registry.find? name with
  | some id =>
    rw [hr] at he
    exact .of_exec he hr
  | none =>
    rw [hr] at he
    exact .of_exec he fun _ => Orderly.not_mem_of_find?_none ho hr

/-- Nested imports are sequences of steps, and what is asked at the bound makes no difference unless
programs nest as deep.

**Proof sketch.** By induction on the bound. An import inside is made by the running program of one
more unit, so that the bound inside is smaller by one and one more program is running. -/
theorem importWithin_follows {d : Nat} (hn : n ≤ d + (Frame.runningNames s).length)
    (j : Importer) :
    Supplies a n s ((importOnce a)^[d] .registered) ((importOnce a)^[d] j) := by
  induction d generalizing s with
  | zero =>
    intro l name ho
    obtain ⟨hsteps, hpost, hcalm, -⟩ := Importer.registered_follows (n := n) ho
    refine ⟨hsteps, hpost, hcalm, .inr ⟨_, .refl, ?_⟩⟩
    simpa [Frame.runningNames] using hn
  | succ d ih =>
    intro l name ho
    rw [Function.iterate_succ_apply', Function.iterate_succ_apply']
    have hinner : SuppliesWithin a n (.asking name :: s) ((importOnce a)^[d] .registered)
        ((importOnce a)^[d] j) := by
      intro m id p searchPath
      refine ih ?_
      simp only [Frame.runningNames, List.length_cons]
      omega
    exact (importOnce_follows hinner ho).imp fun r l' hq => hq.1

/-- A bound is reached in two parts. -/
lemma importWithin_add (d e : Nat) :
    importWithin a (d + e) = (importOnce a)^[d] (importWithin a e) := by
  induction d with
  | zero => simp
  | succ d ih =>
    rw [Function.iterate_succ_apply', ← ih, Nat.add_right_comm]
    rfl

end UnitLoader
