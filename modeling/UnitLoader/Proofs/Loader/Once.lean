import UnitLoader.Proofs.Loader.Binding

/-!
# Programs run once

During an import no unit's program begins twice. A unit is registered while its program runs, and a
program that asks for it meanwhile is given that same unit at once. When a program fails, no further
program begins, and the whole import fails.

## Main definitions

* `UnitLoader.begun` — the units whose programs have begun, told by events.

## Main results

* `UnitLoader.Steps.nodup_begun` — no unit's program begins twice.
* `UnitLoader.Steps.answered` — who asks for a unit whose program is running is given it at once.
* `UnitLoader.import?_runs_once` — what runs during an import.
-/

set_option relaxedAutoImplicit false
set_option autoImplicit false

namespace UnitLoader

open LoadM (exec)
open UnitLoader.Frame (runningNames runningUnits)

variable {a : Ambient} {l : Loader} {name unit : String} {m m' : Moment} {k : Nat} {id : UnitId}
  {es new : List Event}

/-- The names of the units whose programs have begun. -/
def begun (es : List Event) : List String :=
  es.filterMap fun
    | .began unit _ => some unit
    | _ => none

/-- Events among which nothing begins do not matter for what has begun. -/
lemma begun_append_of_not_mem (h : ∀ unit id, .began unit id ∉ new) :
    begun (new ++ es) = begun es := by
  have hnil : begun new = [] := by
    refine List.filterMap_eq_nil_iff.2 fun e he => ?_
    cases e with
    | began unit id => exact absurd he (h unit id)
    | _ => rfl
  rw [begun, List.filterMap_append, ← begun, ← begun, hnil, List.nil_append]

/-- The failures of two histories add up. -/
lemma failures_append : failures (new ++ es) = failures new + failures es :=
  List.countP_append ..

/-- The events of a load are those of a last step and those before. -/
lemma Steps.history_of_step (h : Steps a ⟨[.asking name], l⟩ m)
    (hnew : m'.loader.history = new ++ m.loader.history)
    (hes : m'.loader.history = es ++ l.history) :
    ∃ before, m.loader.history = before ++ l.history ∧ es = new ++ before := by
  obtain ⟨before, hbefore, -⟩ := h.history
  refine ⟨before, hbefore, ?_⟩
  have he : es ++ l.history = (new ++ before) ++ l.history := by
    rw [← hes, hnew, hbefore, List.append_assoc]
  exact List.append_cancel_right he

/-! ## Beginnings -/

/-- A step begins the program of a unit that is not registered, while none has failed, or it begins
none. -/
lemma Step.begins (h : Step a k m m') :
    (∃ unit id p, m'.loader.history = .began unit id :: m.loader.history ∧
      m.loader.registry.find? unit = none ∧ m'.loader.registry.find? unit = some id ∧
      .running unit id p ∈ m'.frames ∧ failures m.loader.history = k) ∨
    ∃ new, m'.loader.history = new ++ m.loader.history ∧ ∀ unit id, .began unit id ∉ new := by
  cases h with
  | @begin searchPath artifact _ _ p _ l hfree _ _ hc =>
    refine .inl ⟨artifact.name, l.registry.nextId, p, rfl, hfree, ?_, List.mem_cons_self .., hc⟩
    simp [Registry.find?_insertNew]
  | ask _ | give _ | finish | fail | register _ _ | reregister _ => exact .inr ⟨[_], rfl, by simp⟩
  | _ => exact .inr ⟨[], rfl, by simp⟩

/-- No unit's program begins twice. As long as none fails, those that have begun are registered. -/
lemma Steps.nodup_begun (h : Steps a ⟨[.asking name], l⟩ m)
    (hes : m.loader.history = es ++ l.history) :
    (begun es).Nodup ∧
      (failures es = 0 → ∀ unit ∈ begun es, (m.loader.registry.find? unit).isSome) := by
  induction h generalizing es with
  | refl =>
    obtain rfl : es = [] := by simpa using hes
    exact ⟨List.nodup_nil, by simp [begun]⟩
  | @tail m m' hsteps hstep ih =>
    have hkept : ∀ unit, failures m'.loader.history = failures m.loader.history →
        (m.loader.registry.find? unit).isSome → (m'.loader.registry.find? unit).isSome := by
      intro unit hc hr
      obtain ⟨id, hid⟩ := Option.isSome_iff_exists.1 hr
      rw [hstep.find?_of_calm hc hid]
      rfl
    -- A program begins only if its unit is not registered, and only before the first failure; until
    -- then all units are registered whose programs have begun.
    rcases hstep.begins with ⟨unit, id, p, hnew, hfree, hid, -, hc⟩ | ⟨new, hnew, hnone⟩
    · have hnew' : m'.loader.history = [.began unit id] ++ m.loader.history := hnew
      obtain ⟨before, hbefore, rfl⟩ := Steps.history_of_step hsteps hnew' hes
      obtain ⟨hnodup, hregistered⟩ := ih hbefore
      have hcalm : failures before = 0 := by
        rw [hbefore, failures_append] at hc
        exact Nat.add_eq_right.1 hc
      refine ⟨List.nodup_cons.2 ⟨fun hmem => ?_, hnodup⟩, fun _ other hother => ?_⟩
      · have hr := hregistered hcalm unit hmem
        rw [hfree] at hr
        cases hr
      · rcases List.mem_cons.1 hother with rfl | hother
        · rw [hid]
          rfl
        · exact hkept other (by rw [hnew]; rfl) (hregistered hcalm other hother)
    · obtain ⟨before, hbefore, rfl⟩ := Steps.history_of_step hsteps hnew hes
      obtain ⟨hnodup, hregistered⟩ := ih hbefore
      rw [begun_append_of_not_mem hnone]
      refine ⟨hnodup, fun hc other hother => ?_⟩
      rw [failures_append, Nat.add_eq_zero_iff] at hc
      refine hkept other ?_ (hregistered hc.2 other hother)
      rw [hnew, failures_append, hc.1, Nat.zero_add]

/-- A program that has begun is running, has ended or has failed. -/
lemma Steps.running_or_done (h : Steps a ⟨[.asking name], l⟩ m)
    (hes : m.loader.history = es ++ l.history) (hb : .began unit id ∈ es) :
    (∃ p, .running unit id p ∈ m.frames) ∨ .ended unit id ∈ es ∨ .failed unit id ∈ es := by
  induction h generalizing es with
  | refl =>
    obtain rfl : es = [] := by simpa using hes
    cases hb
  | @tail m m' hsteps hstep ih =>
    obtain ⟨new, -, hnew, -⟩ := hstep.history
    obtain ⟨before, hbefore, rfl⟩ := Steps.history_of_step hsteps hnew hes
    rcases List.mem_append.1 hb with hb | hb
    · rcases hstep.begins with ⟨other, id', p, hnew', -, -, hrunning, -⟩ | ⟨new', hnew', hnone⟩
      · obtain rfl : new = [.began other id'] := List.append_cancel_right (hnew.symm.trans hnew')
        obtain ⟨rfl, rfl⟩ : unit = other ∧ id = id' := by simpa using hb
        exact .inl ⟨p, hrunning⟩
      · obtain rfl : new = new' := List.append_cancel_right (hnew.symm.trans hnew')
        exact absurd hb (hnone unit id)
    · rcases ih hbefore hb with ⟨p, hp⟩ | hdone
      · rcases hstep.running_or_done hp with hp | hended | ⟨hfailed, -⟩
        · exact .inl ⟨p, hp⟩
        · obtain rfl : new = [.ended unit id] := List.append_cancel_right (hnew.symm.trans hended)
          exact .inr (.inl (List.mem_cons_self ..))
        · obtain rfl : new = [.failed unit id] := List.append_cancel_right (hnew.symm.trans hfailed)
          exact .inr (.inr (List.mem_cons_self ..))
      · exact .inr (hdone.imp (List.mem_append_right new) (List.mem_append_right new))

/-! ## Questions -/

/-- The units whose programs are running are registered. -/
lemma Orderly.find?_of_mem {s : List Frame} (h : Orderly l s) (hm : (unit, id) ∈ runningUnits s) :
    l.registry.find? unit = some id := by
  induction s with
  | nil => simp [runningUnits] at hm
  | cons f s ih =>
    cases f with
    | asking _ => exact ih h hm
    | bringing _ _ => exact ih h.2 hm
    | running other id' p =>
      rcases List.mem_cons.1 hm with he | hm
      · obtain ⟨rfl, rfl⟩ := Prod.mk.inj he
        exact h.2.1
      · exact ih h.2.2 hm

/-- The name of a unit whose program is running is among the running names. -/
lemma Frame.mem_runningNames {s : List Frame} (h : (unit, id) ∈ runningUnits s) :
    unit ∈ runningNames s := by
  rw [← map_fst_runningUnits]
  exact List.mem_map_of_mem h

/-- A name that is looked for or whose program is running is importable. -/
def Frame.IsImportable : Frame → Prop
  | .asking _ => True
  | .bringing name _ | .running name _ _ => UnitName.isImportable name

/-- A step looks for importable names only. -/
lemma Step.isImportable (h : Step a k m m') (hm : ∀ f ∈ m.frames, f.IsImportable) :
    ∀ f ∈ m'.frames, f.IsImportable := by
  cases h with
  | ask _ => exact List.forall_mem_cons.2 ⟨trivial, hm⟩
  | bring hlineage _ _ hi _ =>
    exact List.forall_mem_cons.2 ⟨UnitName.isImportable_of_mem_lineage hlineage hi, hm⟩
  | begin _ _ _ => exact List.forall_mem_cons.2 ⟨(List.forall_mem_cons.1 hm).1, hm⟩
  | give _ | deny | finish | fail | settle _ _ | adopt _ _ _ | abandon _ =>
    exact (List.forall_mem_cons.1 hm).2
  | _ => exact hm

/-- What is looked for during a load, and what is running, is importable. -/
lemma Steps.isImportable (h : Steps a ⟨[.asking name], l⟩ m) : ∀ f ∈ m.frames, f.IsImportable := by
  induction h with
  | refl => simp [Frame.IsImportable]
  | tail _ hstep ih => exact hstep.isImportable ih

/-- The programs that are running are those of importable units. -/
lemma Frame.isImportable_of_mem {s : List Frame} (h : ∀ f ∈ s, f.IsImportable)
    (hm : (unit, id) ∈ runningUnits s) : UnitName.isImportable unit := by
  induction s with
  | nil => simp [runningUnits] at hm
  | cons f s ih =>
    obtain ⟨hf, hs⟩ := List.forall_mem_cons.1 h
    cases f with
    | running other id' p =>
      rcases List.mem_cons.1 hm with he | hm
      · obtain ⟨rfl, rfl⟩ := Prod.mk.inj he
        exact hf
      · exact ih hs hm
    | _ => exact ih hs hm

/-- A unit whose program is running is given in the step after it was asked for. -/
lemma Step.of_asking {s : List Frame} (h : Step a k ⟨.asking unit :: s, l⟩ m') (ho : Orderly l s)
    (hi : UnitName.isImportable unit) (hm : (unit, id) ∈ runningUnits s) :
    m'.loader.history = .given unit id :: l.history := by
  have hrunning : unit ∈ runningNames s := Frame.mem_runningNames hm
  cases h with
  | give hr =>
    obtain rfl := Option.some.inj (hr.symm.trans (ho.find?_of_mem hm))
    rfl
  | deny hn => exact absurd hrunning (hn hi)
  | bring _ _ _ _ hn => exact absurd hrunning hn

/-- A step asks for a unit if none is being asked for, or it asks for none. -/
lemma Step.asks (h : Step a k m m') :
    (∃ unit s, m'.frames = .asking unit :: s ∧
      m'.loader.history = .asked unit :: m.loader.history ∧
      ∀ other s', m.frames ≠ .asking other :: s') ∨
    ∃ new, m'.loader.history = new ++ m.loader.history ∧ ∀ unit, .asked unit ∉ new := by
  cases h with
  | ask _ => exact .inl ⟨_, _, rfl, rfl, by simp⟩
  | give _ | begin _ _ _ | finish | fail | register _ _ | reregister _ =>
    exact .inr ⟨[_], rfl, by simp⟩
  | _ => exact .inr ⟨[], rfl, by simp⟩

/-- Events that do not ask for a unit come after those that do. -/
lemma suffix_of_not_mem {e : Event} {before : List Event} (h : e :: before <:+ new ++ es)
    (hn : e ∉ new) : e :: before <:+ es := by
  induction new with
  | nil => exact h
  | cons e' new ih =>
    rw [List.mem_cons, not_or] at hn
    rcases List.suffix_cons_iff.1 h with he | h
    · exact absurd (List.cons.inj he).1 hn.1
    · exact ih h hn.2

/-- Who asks for a unit whose program is running is given that unit at once, or is still asking.

**Proof sketch.** By induction on the steps. Only the innermost frame takes a step; when it asks for
a unit whose program is running, then the unit is registered, and the step gives it. -/
lemma Steps.answered (h : Steps a ⟨[.asking name], l⟩ m)
    (hes : m.loader.history = es ++ l.history) {before : List Event}
    (hb : .asked unit :: before <:+ es) (hm : (unit, id) ∈ unitsInProgress before) :
    (es = .asked unit :: before ∧ ∃ s, m.frames = .asking unit :: s) ∨
      .given unit id :: .asked unit :: before <:+ es := by
  induction h generalizing es with
  | refl =>
    obtain rfl : es = [] := by simpa using hes
    simp at hb
  | @tail m m' hsteps hstep ih =>
    -- Either this step asks for a unit, or the question was there before it.
    rcases hstep.asks with ⟨other, s, hframes, hnew, hno⟩ | ⟨new, hnew, hno⟩
    · have hnew' : m'.loader.history = [.asked other] ++ m.loader.history := hnew
      obtain ⟨older, holder, rfl⟩ := Steps.history_of_step hsteps hnew' hes
      rcases List.suffix_cons_iff.1 hb with he | hb
      · obtain ⟨he, rfl⟩ := List.cons.inj he
        cases he
        exact .inl ⟨rfl, s, hframes⟩
      · rcases ih holder hb with ⟨-, s', hs'⟩ | hgiven
        · exact absurd hs' (hno unit s')
        · exact .inr (hgiven.trans (List.suffix_cons ..))
    · obtain ⟨older, holder, rfl⟩ := Steps.history_of_step hsteps hnew hes
      rcases ih holder (suffix_of_not_mem hb (hno unit)) with ⟨rfl, s, hs⟩ | hgiven
      · obtain ⟨older', holder', hrunning, -⟩ := Steps.history hsteps
        obtain rfl : older' = .asked unit :: before :=
          List.append_cancel_right (holder'.symm.trans holder)
        rcases m with ⟨frames, l'⟩
        subst hs
        -- The events tell which programs are running around the one who asks.
        have hbefore : unitsInProgress before = runningUnits s := by
          simpa [unitsInProgress, runningUnits] using hrunning
        rw [hbefore] at hm
        have ho : Orderly l' s := Steps.orderly hsteps trivial
        have hgiven := hstep.of_asking ho
          (Frame.isImportable_of_mem (List.forall_mem_cons.1 (Steps.isImportable hsteps)).2 hm) hm
        obtain rfl : new = [.given unit id] := List.append_cancel_right (hnew.symm.trans hgiven)
        exact .inr List.suffix_rfl
      · exact .inr (hgiven.trans (List.suffix_append new older))

/-! ## Imports -/

/-- Where nothing failed no unit did. -/
lemma not_mem_of_failures (h : failures es = 0) : .failed unit id ∉ es := fun hmem => by
  simpa using List.countP_eq_zero.1 h _ hmem

/-- An import that gives a unit has had no failure. -/
lemma failures_of_import? (h : (exec (import? a name) l).1 = .ok id)
    (hes : (l.after a name).history = es ++ l.history) : failures es = 0 := by
  have horderly : Orderly l [.asking name] := trivial
  have hcalm := (import?_follows a horderly).calm id h
  rw [Loader.after] at hes
  rw [hes, failures_append] at hcalm
  exact Nat.add_eq_right.1 hcalm

/-- During an import every unit's program begins at most once. While it runs, the unit is registered
under its name, an import of it gives it and changes nothing, and a program that asks for it is
given it with nothing happening in between. If the import gives a unit, then all programs that
began ran to their ends and none failed.

**Proof sketch.** A program begins only for a name that is not registered, and only while none has
failed. As long as none fails, nothing is evicted, so that a name whose program began stays
registered. -/
theorem import?_runs_once (a : Ambient) (l : Loader) (name : String) :
    ∃ es, (l.after a name).history = es ++ l.history ∧ (begun es).Nodup ∧
      (∀ before unit id, .asked unit :: before <:+ es → (unit, id) ∈ unitsInProgress before →
        .given unit id :: .asked unit :: before <:+ es) ∧
      (∀ id, (exec (import? a name) l).1 = .ok id → ∀ unit uid,
        (.began unit uid ∈ es → .ended unit uid ∈ es) ∧ .failed unit uid ∉ es) ∧
      Steps a ⟨[.asking name], l⟩ ⟨[.asking name], l.after a name⟩ ∧
      ∀ m, Steps a ⟨[.asking name], l⟩ m → ∃ es, m.loader.history = es ++ l.history ∧
        ∀ unit uid, (unit, uid) ∈ unitsInProgress es →
          m.loader.registry.find? unit = some uid ∧
          exec (import? a unit) m.loader = (.ok uid, m.loader) := by
  have hsteps := steps_import? a l name
  obtain ⟨es, hes, hrunning, -⟩ := hsteps.history
  refine ⟨es, hes, (hsteps.nodup_begun hes).1, fun before unit id hb hm => ?_,
    fun id hid unit uid => ?_, hsteps, fun m hm => ?_⟩
  · rcases hsteps.answered hes hb hm with ⟨rfl, -⟩ | hgiven
    · have hnone : unitsInProgress before = [] := by
        simpa [unitsInProgress, runningUnits] using hrunning
      rw [hnone] at hm
      cases hm
    · exact hgiven
  · have hcalm : failures es = 0 := failures_of_import? hid hes
    refine ⟨fun hb => ?_, not_mem_of_failures hcalm⟩
    rcases hsteps.running_or_done hes hb with ⟨p, hp⟩ | hended | hfailed
    · simp at hp
    · exact hended
    · exact absurd hfailed (not_mem_of_failures hcalm)
  · obtain ⟨es, hes, hrunning, -⟩ := hm.history
    refine ⟨es, hes, fun unit uid hunit => ?_⟩
    rw [hrunning] at hunit
    have hr := (hm.orderly trivial).find?_of_mem hunit
    exact ⟨hr, exec_import?_of_registered a
      (Frame.isImportable_of_mem (Steps.isImportable hm) hunit) hr⟩

end UnitLoader
