import UnitLoader.Proofs.Loader.Exec
import UnitLoader.Proofs.Loader.Running

/-!
# Computations as sequences of steps

A computation that loads units takes steps from the moment at which it begins to one with the same
frames. Two computations that differ in the bound on the nesting take the same steps, unless
programs nest as deep as the smaller bound.

## Main definitions

* `UnitLoader.Nests` — programs nest to a depth in some of the moments that come.
* `UnitLoader.Follows` — a computation follows steps, and gives what is stated.
* `UnitLoader.Gives` — what is stated of a value that is given, if there is one.
* `UnitLoader.Settles` — a unit is registered if it was brought in, and only then.

## Main results

* `UnitLoader.Follows.bind` — computations one after the other.
* `UnitLoader.Follows.nest` — a computation inside of another frame.
-/

set_option relaxedAutoImplicit false
set_option autoImplicit false

namespace UnitLoader

open LoadM (exec)

variable {α β γ : Type} {a : Ambient} {n : Nat} {s t : List Frame} {l : Loader}

/-- Programs nest to a depth in some of the moments that come. -/
def Nests (a : Ambient) (n : Nat) (m : Moment) : Prop :=
  ∃ m', Steps a m m' ∧ n ≤ (Frame.runningNames m'.frames).length

/-- Programs that nest to a depth after steps without a failure do so before them. -/
lemma Nests.of_steps {m m' : Moment} (h : Steps a m m')
    (hc : failures m'.loader.history = failures m.loader.history) (hn : Nests a n m') :
    Nests a n m := by
  obtain ⟨m'', hsteps, hle⟩ := hn
  exact ⟨m'', h.andThen hc hsteps, hle⟩

/-- The first computation takes steps to a moment with the same frames, with no failure if it gives
a value, and what is stated holds of its result and the loader then. The second computation does
the same, unless programs nest to the depth. -/
structure Follows (a : Ambient) (n : Nat) (s : List Frame) (l : Loader) (x y : LoadM α)
    (Q : Outcome α → Loader → Prop) : Prop where
  steps : Steps a ⟨s, l⟩ ⟨s, (exec x l).2⟩
  post : Q (exec x l).1 (exec x l).2
  calm : ∀ v, (exec x l).1 = .ok v → failures (exec x l).2.history = failures l.history
  agrees : exec x l = exec y l ∨ Nests a n ⟨s, l⟩

/-- Something is stated of a value that is given, if there is one. -/
def Gives (P : α → Loader → Prop) (r : Outcome α) (l : Loader) : Prop :=
  ∀ v, r = .ok v → P v l

/-- Of a value that is given it is stated what is stated. -/
@[simp]
lemma gives_ok {P : α → Loader → Prop} {v : α} : Gives P (.ok v) l ↔ P v l := by
  simp [Gives]

/-- Of an error nothing is stated. -/
@[simp]
lemma gives_error {P : α → Loader → Prop} {e : LoadError} : Gives P (.error e) l := by
  simp [Gives]

/-- The unit that was brought in is registered, and none is if that failed. -/
def Settles (name : String) : Outcome UnitId → Loader → Prop
  | .ok id, l => l.registry.find? name = some id
  | .error _, l => l.registry.find? name = none

namespace Follows

variable {x y : LoadM α} {Q : Outcome α → Loader → Prop}

/-- A computation that asks for no unit is followed by its own steps. -/
lemma same {r : Outcome α} {l' : Loader} (he : exec x l = (r, l')) (hs : Steps a ⟨s, l⟩ ⟨s, l'⟩)
    (hq : Q r l') (hc : ∀ v, r = .ok v → failures l'.history = failures l.history) :
    Follows a n s l x x Q :=
  ⟨he ▸ hs, he ▸ hq, he ▸ hc, .inl rfl⟩

/-- A computation that changes nothing. -/
lemma of_exec {r : Outcome α} (he : exec x l = (r, l)) (hq : Q r l) : Follows a n s l x x Q :=
  same he .refl hq fun _ _ => rfl

/-- To give a value is to take no step. -/
lemma pure {v : α} (hq : Q (.ok v) l) : Follows a n s l (pure v) (pure v) Q :=
  of_exec rfl hq

/-- To fail with an error that comes from before is to take no step. -/
lemma throw {e : LoadError} (hq : Q (.error e) l) : Follows a n s l (throw e) (throw e) Q :=
  of_exec rfl hq

/-- Less can be stated of the result. -/
lemma imp {R : Outcome α → Loader → Prop} (h : Follows a n s l x y Q)
    (hi : ∀ r l', Q r l' → R r l') : Follows a n s l x y R :=
  ⟨h.steps, hi _ _ h.post, h.calm, h.agrees⟩

/-- It does not matter in which way a computation is written. -/
lemma congr {x' y' : LoadM α} (h : Follows a n s l x y Q) (hx : exec x' l = exec x l)
    (hy : exec y' l = exec y l) : Follows a n s l x' y' Q :=
  ⟨hx ▸ h.steps, hx ▸ h.post, hx ▸ h.calm, hx ▸ hy ▸ h.agrees⟩

/-- Computations one after the other. -/
lemma bind {f g : α → LoadM β} {R : Outcome β → Loader → Prop} (h : Follows a n s l x y Q)
    (hf : ∀ v l', Steps a ⟨s, l⟩ ⟨s, l'⟩ → Q (.ok v) l' → Follows a n s l' (f v) (g v) R)
    (he : ∀ e l', Q (.error e) l' → R (.error e) l') :
    Follows a n s l (x >>= f) (y >>= g) R := by
  obtain ⟨hs, hq, hc, ha⟩ := h
  have hx := LoadM.exec_bind l x f
  rcases hr : exec x l with ⟨_ | v, l'⟩ <;> rw [hr] at hx hs hq hc ha
  case error e =>
    refine ⟨hx ▸ hs, hx ▸ he e l' hq, fun v hv => ?_, ha.imp_left fun ha => ?_⟩
    · simp [hx] at hv
    · rw [LoadM.exec_bind l y g, ← ha, hx]
  case ok =>
    obtain ⟨hs', hq', hc', ha'⟩ := hf v l' hs hq
    refine ⟨hx ▸ hs.andThen (hc v rfl) hs', hx ▸ hq', fun w hw => ?_, ?_⟩
    · rw [hx] at hw ⊢
      exact (hc' w hw).trans (hc v rfl)
    · rcases ha with ha | ha
      · refine ha'.imp (fun ha' => ?_) (.of_steps hs (hc v rfl))
        rw [LoadM.exec_bind l y g, ← ha, hx]
        exact ha'
      · exact .inr ha

/-- An error is not swallowed, whatever becomes of it. -/
lemma tryCatch {f : LoadError → LoadM α} {R : Outcome α → Loader → Prop}
    (h : Follows a n s l x y Q) (hok : ∀ v l', Q (.ok v) l' → R (.ok v) l')
    (hf : ∀ e l', Q (.error e) l' → ∃ e', exec (f e) l' = (.error e', l') ∧ R (.error e') l') :
    Follows a n s l (tryCatch x f) (tryCatch y f) R := by
  obtain ⟨hs, hq, hc, ha⟩ := h
  have hx := LoadM.exec_tryCatch l x f
  rcases hr : exec x l with ⟨e | v, l'⟩ <;> rw [hr] at hx hs hq hc ha
  case ok =>
    refine ⟨hx ▸ hs, hx ▸ hok v l' hq, fun _ _ => hx ▸ hc v rfl, ha.imp_left fun ha => ?_⟩
    rw [LoadM.exec_tryCatch l y f, ← ha, hx]
  case error =>
    obtain ⟨e', he, hR⟩ := hf e l' hq
    have hx' : exec (MonadExcept.tryCatch x f) l = (.error e', l') := hx.trans he
    refine ⟨hx' ▸ hs, hx' ▸ hR, fun v hv => ?_, ha.imp_left fun ha => ?_⟩
    · simp [hx'] at hv
    · rw [LoadM.exec_tryCatch l y f, ← ha, hx]

/-- A computation inside of another frame. -/
lemma nest {l₁ : Loader} {c d : LoadM β} {R : Outcome β → Loader → Prop}
    {g : Outcome α → Outcome β} {k : Outcome α → Loader → Loader}
    (enter : Steps a ⟨s, l⟩ ⟨t, l₁⟩) (hl : failures l₁.history = failures l.history)
    (h : Follows a n t l₁ x y Q)
    (leave : ∀ r l', Steps a ⟨t, l₁⟩ ⟨t, l'⟩ → Q r l' →
      Step a (failures l.history) ⟨t, l'⟩ ⟨s, k r l'⟩ ∧ R (g r) (k r l') ∧
        ∀ v, g r = .ok v → (∃ w, r = .ok w) ∧
          failures (k r l').history = failures l'.history)
    (hc : exec c l = (g (exec x l₁).1, k (exec x l₁).1 (exec x l₁).2))
    (hd : exec d l = (g (exec y l₁).1, k (exec y l₁).1 (exec y l₁).2)) :
    Follows a n s l c d R := by
  obtain ⟨hs, hq, hcalm, ha⟩ := h
  obtain ⟨hs', hR, hcalm'⟩ := leave _ _ hs hq
  refine ⟨hc ▸ (enter.andThen hl hs).tail hs', hc ▸ hR, fun v hv => ?_, ?_⟩
  · rw [hc] at hv ⊢
    obtain ⟨⟨w, hw⟩, hsame⟩ := hcalm' v hv
    exact hsame.trans ((hcalm w hw).trans hl)
  · refine ha.imp (fun ha => ?_) (.of_steps enter hl)
    rw [hc, hd, ha]

/-- A computation for each of some values in turn. -/
lemma forM {f g : γ → LoadM PUnit} {zs : List γ} (ho : Orderly l s)
    (h : ∀ z ∈ zs, ∀ l, Orderly l s → Follows a n s l (f z) (g z) fun _ _ => True) :
    Follows a n s l (zs.forM f) (zs.forM g) fun _ _ => True := by
  induction zs generalizing l with
  | nil => exact pure trivial
  | cons z zs ih =>
    refine bind (h z (List.mem_cons_self ..) l ho) (fun _ l' hs _ => ?_) fun _ _ _ => trivial
    exact ih (hs.orderly ho) fun z' hz' => h z' (List.mem_cons_of_mem _ hz')

end Follows

end UnitLoader
