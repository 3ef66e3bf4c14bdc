import UnitLoader.Proofs.Loader.Registered

/-!
# Programs that are running

A unit is registered while its program runs, and no unit that is registered is brought in. So no
unit's program is started while it is running already.

## Main definitions

* `UnitLoader.Orderly` — the units of running programs are registered, and each runs once.

## Main results

* `UnitLoader.Steps.orderly` — loads keep moments orderly.
* `UnitLoader.Orderly.find?_kept` — what is registered when a frame is innermost is registered when
  it is innermost again.
-/

set_option relaxedAutoImplicit false
set_option autoImplicit false

namespace UnitLoader

open UnitLoader.Frame (runningNames)

/-- The units whose programs are running are registered, no program is running twice, and none that
is running is brought in. -/
def Orderly (l : Loader) : List Frame → Prop
  | [] => True
  | .asking _ :: s => Orderly l s
  | .bringing name _ :: s => name ∉ runningNames s ∧ Orderly l s
  | .running name id _ :: s =>
    name ∉ runningNames s ∧ l.registry.find? name = some id ∧ Orderly l s

namespace Orderly

variable {s : List Frame} {l l' : Loader} {name : String}

/-- A loader in which the running units stay registered is orderly. -/
lemma imp (h : Orderly l s)
    (hkeep : ∀ name ∈ runningNames s, ∀ id, l.registry.find? name = some id →
      l'.registry.find? name = some id) : Orderly l' s := by
  induction s with
  | nil => trivial
  | cons f s ih =>
    cases f with
    | asking _ => exact ih h hkeep
    | bringing _ _ => exact ⟨h.1, ih h.2 hkeep⟩
    | running name id _ =>
      obtain ⟨hn, hr, hs⟩ := h
      exact ⟨hn, hkeep name (List.mem_cons_self ..) id hr,
        ih hs fun other ho => hkeep other (List.mem_cons_of_mem _ ho)⟩

/-- The frames tell as what a unit whose program is running is registered. -/
lemma exists_find? (hn : name ∈ runningNames s) :
    ∃ id, ∀ l, Orderly l s → l.registry.find? name = some id := by
  induction s with
  | nil => simp [runningNames] at hn
  | cons f s ih =>
    cases f with
    | asking _ => exact ih hn
    | bringing _ _ =>
      obtain ⟨id, hid⟩ := ih hn
      exact ⟨id, fun l h => hid l h.2⟩
    | running other id _ =>
      rcases List.mem_cons.1 hn with rfl | hn
      · exact ⟨id, fun l h => h.2.1⟩
      · obtain ⟨id, hid⟩ := ih hn
        exact ⟨id, fun l h => hid l h.2.2⟩

/-- A name that is free is not running. -/
lemma not_mem_of_find?_none (h : Orderly l s) (hfree : l.registry.find? name = none) :
    name ∉ runningNames s := by
  intro hn
  obtain ⟨id, hid⟩ := exists_find? hn
  simp [hid l h] at hfree

/-- No program is running twice. -/
lemma nodup (h : Orderly l s) : (runningNames s).Nodup := by
  induction s with
  | nil => exact List.nodup_nil
  | cons f s ih =>
    cases f with
    | asking _ => exact ih h
    | bringing _ _ => exact ih h.2
    | running name _ _ => exact List.nodup_cons.2 ⟨h.1, ih h.2.2⟩

/-- A frame that was innermost is orderly without the frames around it. -/
lemma tail {f : Frame} (h : Orderly l (f :: s)) : Orderly l s := by
  cases f with
  | asking _ => exact h
  | bringing _ _ => exact h.2
  | running _ _ _ => exact h.2.2

/-- It does not matter what happens to a loader apart from what is registered. -/
lemma congr (h : Orderly l s)
    (he : ∀ name, l'.registry.find? name = l.registry.find? name) : Orderly l' s :=
  h.imp fun name _ _ hr => (he name).trans hr

/-- Registering another unit leaves a loader orderly. -/
lemma create {other : String} (h : Orderly l s) (hfree : l.registry.find? other = none)
    (hl : ∀ name, l'.registry.find? name = (l.create other).registry.find? name) :
    Orderly l' s :=
  h.imp fun name _ _ hr => (hl name).trans (Registry.find?_insertNew_of_some hfree hr)

end Orderly

variable {a : Ambient} {m m' : Moment} {k : Nat}

/-- A step keeps a moment orderly. -/
lemma Step.orderly (h : Step a k m m') (ho : Orderly m.loader m.frames) :
    Orderly m'.loader m'.frames := by
  cases h with
  | bring hm hfree hs => exact ⟨ho.not_mem_of_find?_none hfree, ho⟩
  | builtin hfree _ | portions hfree _ | register _ hfree => exact ho.create hfree fun _ => rfl
  | begin hfree _ _ =>
    refine ⟨ho.not_mem_of_find?_none hfree, ?_, ho.create hfree fun _ => rfl⟩
    simp [Registry.find?_insertNew]
  | fail =>
    obtain ⟨hn, -, hs⟩ := ho
    refine hs.imp fun name hname id hr => ?_
    rw [Loader.registry_note, Loader.registry_evict, Registry.find?_evict, if_neg, hr]
    rintro rfl
    exact hn hname
  | ask _ | assign _ | reregister _ | set _ _ | count | bind _ _ => exact ho.congr fun _ => rfl
  | give _ | deny | finish | settle _ _ | adopt _ _ _ | abandon _ =>
    exact ho.tail.congr fun _ => rfl

/-- Loads keep moments orderly. -/
lemma Steps.orderly (h : Steps a m m') (ho : Orderly m.loader m.frames) :
    Orderly m'.loader m'.frames := by
  induction h with
  | refl => exact ho
  | tail _ hstep ih => exact hstep.orderly ih

/-- What is registered when a frame is innermost is registered when it is innermost again. -/
lemma Orderly.find?_kept {s : List Frame} {l l' : Loader} {name : String} {id : UnitId}
    (ho : Orderly l s) (h : Steps a ⟨s, l⟩ ⟨s, l'⟩) (hr : l.registry.find? name = some id) :
    l'.registry.find? name = some id := by
  by_cases hn : name ∈ runningNames s
  · obtain ⟨id', hid'⟩ := Orderly.exists_find? hn
    rw [hid' l ho] at hr
    rw [hid' l' (h.orderly ho), hr]
  · exact (h.find?_of_not_running hr hn).1

/-- A frame that comes in is that of a unit asked for, of a free name or of a new unit. -/
lemma Step.mem_frames (h : Step a k m m') {f : Frame} (hf : f ∈ m'.frames) :
    f ∈ m.frames ∨ (∃ name, f = .asking name) ∨
      (∃ name searchPath, f = .bringing name searchPath ∧ m.loader.registry.find? name = none) ∨
      ∃ name p, f = .running name m.loader.registry.nextId p := by
  cases h with
  | ask _ =>
    rcases List.mem_cons.1 hf with rfl | hf
    · exact .inr (.inl ⟨_, rfl⟩)
    · exact .inl hf
  | bring _ hfree _ =>
    rcases List.mem_cons.1 hf with rfl | hf
    · exact .inr (.inr (.inl ⟨_, _, rfl, hfree⟩))
    · exact .inl hf
  | begin _ _ _ =>
    rcases List.mem_cons.1 hf with rfl | hf
    · exact .inr (.inr (.inr ⟨_, _, rfl⟩))
    · exact .inl hf
  | give _ | deny | finish | fail | settle _ _ | adopt _ _ _ | abandon _ =>
    exact .inl (List.mem_cons_of_mem _ hf)
  | _ => exact .inl hf

/-! ## Failures -/

/-- Failures are not forgotten. -/
lemma Step.failures_le (h : Step a k m m') :
    failures m.loader.history ≤ failures m'.loader.history := by
  cases h <;> simp [failures]

end UnitLoader
