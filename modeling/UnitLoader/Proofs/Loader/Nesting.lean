import Mathlib.Data.Finset.Card
import UnitLoader.Proofs.Loader.Universe

/-!
# How deep imports nest

The programs that are running at once are those of different units, and all of these units were
mentioned from the start. So imports nest no deeper than there are units that are mentioned, and the
recursion comes to an end, whatever the programs ask for.

## Main definitions

* `UnitLoader.unitsInProgress` — the units whose programs are in progress after events.

## Main results

* `UnitLoader.Steps.length_runningNames_le` — no more programs run at once than units are mentioned.
* `UnitLoader.exec_import?_eq` — an import asks for further units by imports.
* `UnitLoader.import?_terminates` — imports nest no deeper than units are mentioned.
-/

set_option relaxedAutoImplicit false
set_option autoImplicit false

namespace UnitLoader

open LoadM (exec)
open UnitLoader.Frame (runningNames runningUnits)

variable {a : Ambient} {l : Loader} {name : String} {m m' : Moment} {k : Nat}

/-! ## Programs that run at once -/

/-- Programs that are running are those of units that are mentioned. -/
lemma Frame.runningNames_subset {U : List String} {s : List Frame}
    (h : ∀ f ∈ s, Frame.MentionsIn U f) : runningNames s ⊆ U := by
  induction s with
  | nil => exact List.nil_subset U
  | cons f s ih =>
    obtain ⟨hf, hs⟩ := List.forall_mem_cons.1 h
    cases f with
    | running _ _ _ => exact List.cons_subset.2 ⟨hf.1, ih hs⟩
    | _ => exact ih hs

/-- The programs that run at once are those of different units, which are mentioned. -/
lemma Steps.runningNames_nodup (h : Steps a ⟨[.asking name], l⟩ m) :
    (runningNames m.frames).Nodup ∧ runningNames m.frames ⊆ l.universe a.tree [name] := by
  obtain ⟨hm, ht, hU⟩ := l.mentionsIn_universe a.tree name
  exact ⟨(h.orderly trivial).nodup, Frame.runningNames_subset (h.mentionsIn hU ht hm).frames⟩

/-- A list without repetition is no longer than the units that its items are among. -/
lemma card_le_of_nodup {xs U : List String} (hn : xs.Nodup) (hs : xs ⊆ U) :
    xs.length ≤ U.toFinset.card := by
  rw [← List.toFinset_card_of_nodup hn]
  exact Finset.card_le_card fun x hx => by simpa using hs (by simpa using hx)

/-- No more programs run at once than units are mentioned. -/
theorem Steps.length_runningNames_le (h : Steps a ⟨[.asking name], l⟩ m) :
    (runningNames m.frames).length ≤ (l.universe a.tree [name]).toFinset.card :=
  card_le_of_nodup h.runningNames_nodup.1 h.runningNames_nodup.2

/-- Programs cannot nest deeper than there are units that can be asked for. -/
lemma not_nests {n : Nat} (hn : (l.universe a.tree [name]).toFinset.card < n) :
    ¬ Nests a n ⟨[.asking name], l⟩ := by
  rintro ⟨m, hm, hle⟩
  have := hm.length_runningNames_le
  omega

/-! ## The recursion -/

/-- Beyond that depth, no importer at the end is ever asked. -/
lemma exec_iterate_eq {d : Nat} (hd : (l.universe a.tree [name]).toFinset.card < d)
    (j : Importer) :
    exec ((importOnce a)^[d] .registered name) l = exec ((importOnce a)^[d] j name) l :=
  (importWithin_follows (s := []) (Nat.le_refl d) j l name trivial).agrees.resolve_right
    (not_nests hd)

/-- Beyond that depth, a bounded import is the iterated one, whatever importer is at the end. -/
lemma exec_importWithin_eq_iterate {d : Nat}
    (hd : (l.universe a.tree [name]).toFinset.card < d) (j : Importer) :
    exec (importWithin a d name) l = exec ((importOnce a)^[d] j name) l := by
  have hwithin : importWithin a d = (importOnce a)^[d] (importWithin a 0) := importWithin_add d 0
  rw [hwithin, ← exec_iterate_eq hd (importWithin a 0), exec_iterate_eq hd j]

/-- The bound of an import is not reached, and neither is any other that is large enough. -/
lemma exec_import?_eq_importWithin {d : Nat}
    (hd : (l.universe a.tree [name]).toFinset.card < d) :
    exec (import? a name) l = exec (importWithin a d name) l := by
  have he : (l.universe a.tree [name]).toFinset.card < (l.universe a.tree [name]).length + 1 :=
    Nat.lt_succ_of_le (List.toFinset_card_le _)
  have hbound : exec (import? a name) l =
      exec (importWithin a ((l.universe a.tree [name]).length + 1) name) l := by
    rw [import?, importerFor, LoadM.exec_bind, LoadM.exec_bind, LoadM.exec_get]
    dsimp only
    rw [LoadM.exec_pure]
  rw [hbound]
  generalize (l.universe a.tree [name]).length + 1 = e at he ⊢
  calc exec (importWithin a e name) l
      = exec (importWithin a (e + d) name) l := by
        rw [importWithin_add, exec_importWithin_eq_iterate he]
    _ = exec (importWithin a d name) l := by
        rw [Nat.add_comm, importWithin_add, ← exec_importWithin_eq_iterate hd]

/-- An import is the iterated one to every sufficient depth. -/
lemma exec_import?_eq_iterate {d : Nat} (hd : (l.universe a.tree [name]).toFinset.card < d)
    (j : Importer) : exec (import? a name) l = exec ((importOnce a)^[d] j name) l := by
  rw [exec_import?_eq_importWithin hd, exec_importWithin_eq_iterate hd j]

/-- An import asks for further units by imports. -/
theorem exec_import?_eq (a : Ambient) (name : String) (l : Loader) :
    exec (import? a name) l = exec (importOnce a (import? a) name) l := by
  obtain ⟨d, hd⟩ : ∃ d, (l.universe a.tree [name]).toFinset.card = d := ⟨_, rfl⟩
  have hinner : SuppliesWithin a (d + 1) [.asking name] ((importOnce a)^[d] .registered)
      (import? a) := by
    intro unit id p searchPath l' other ho
    have hfollows := importWithin_follows (a := a) (n := d + 1) (Nat.le_refl _)
      (importWithin a ((l'.universe a.tree [other]).toFinset.card + 1)) l' other ho
    refine hfollows.congr rfl ?_
    rw [exec_import?_eq_importWithin (d := d + ((l'.universe a.tree [other]).toFinset.card + 1))
      (by omega), importWithin_add]
  rw [exec_import?_eq_iterate (d := d + 1) (by omega) .registered, Function.iterate_succ_apply']
  exact (importOnce_follows hinner trivial).agrees.resolve_right (not_nests (by omega))

/-- Imports give the units that programs ask for. -/
lemma supplies_import? (a : Ambient) (s : List Frame) :
    Supplies a 0 s (import? a) (import? a) := by
  intro l name ho
  obtain ⟨d, hd⟩ : ∃ d, (l.universe a.tree [name]).toFinset.card < d := ⟨_, Nat.lt_succ_self _⟩
  have hfollows := importWithin_follows (a := a) (d := d) (Nat.zero_le _) .registered l name ho
  exact hfollows.congr (exec_import?_eq_iterate hd _) (exec_import?_eq_iterate hd _)

/-- An import is a sequence of steps. -/
theorem import?_follows (a : Ambient) {s : List Frame} (ho : Orderly l (.asking name :: s)) :
    Follows a 0 (.asking name :: s) l (import? a name) (import? a name)
      fun r l' => Answered s name r l' ∧ Gives (fun _ l' => l.Surrounds name l') r l' :=
  (importOnce_follows (fun _ _ _ _ => supplies_import? a _) ho).congr
    (exec_import?_eq a name l) (exec_import?_eq a name l)

/-- The loader after an import. -/
def Loader.after (l : Loader) (a : Ambient) (name : String) : Loader :=
  (exec (import? a name) l).2

/-- An import from outside is a sequence of steps. -/
lemma steps_import? (a : Ambient) (l : Loader) (name : String) :
    Steps a ⟨[.asking name], l⟩ ⟨[.asking name], l.after a name⟩ :=
  (import?_follows a (s := []) trivial).steps

/-- An import leaves a valid registry. -/
lemma Registry.Valid.after (hv : l.registry.Valid) (a : Ambient) (name : String) :
    (l.after a name).registry.Valid :=
  (steps_import? a l name).valid hv

/-- What an import gives is registered, and so are the units around. -/
lemma registered_of_import? {id : UnitId} {l' : Loader}
    (h : exec (import? a name) l = (.ok id, l')) :
    l'.registry.find? name = some id ∧ l.Surrounds name l' := by
  have horderly : Orderly l [.asking name] := trivial
  have hfollows := import?_follows a horderly
  have hpost := hfollows.post
  rw [h] at hpost
  exact ⟨hpost.1, hpost.2 id rfl⟩

/-! ## What happens meanwhile -/

/-- The units whose programs are in progress, by name and number, the innermost first. The events
come latest first. -/
def unitsInProgress : List Event → List (String × UnitId)
  | [] => []
  | .began name id :: before => (name, id) :: unitsInProgress before
  | .ended .. :: before | .failed .. :: before => (unitsInProgress before).tail
  | _ :: before => unitsInProgress before

/-- The names of the units in progress are the names in progress. -/
lemma map_fst_unitsInProgress (es : List Event) :
    (unitsInProgress es).map Prod.fst = inProgress es := by
  induction es with
  | nil => rfl
  | cons e es ih => cases e <;> simp [unitsInProgress, inProgress, ih, List.map_tail]

/-- The names of the running units are the running names. -/
lemma Frame.map_fst_runningUnits (s : List Frame) :
    (runningUnits s).map Prod.fst = runningNames s := by
  induction s with
  | nil => rfl
  | cons f s ih => cases f <;> simp [runningUnits, runningNames, ih]

/-- A step is told by one event at most, and the events keep telling which programs are running. -/
lemma Step.history (h : Step a k m m') :
    ∃ es, es.length ≤ 1 ∧ m'.loader.history = es ++ m.loader.history ∧
      ∀ before, unitsInProgress before = runningUnits m.frames →
        unitsInProgress (es ++ before) = runningUnits m'.frames := by
  cases h with
  | ask _ | give _ | begin _ _ _ | finish | fail | register _ _ | reregister _ =>
    exact ⟨[_], Nat.le_refl 1, rfl, fun _ hb => by simp [unitsInProgress, runningUnits, hb]⟩
  | _ => exact ⟨[], Nat.zero_le 1, rfl, fun _ hb => hb⟩

/-- The events of a load tell which programs are running, and so they did after every event. -/
lemma Steps.history (h : Steps a ⟨[.asking name], l⟩ m) :
    ∃ es, m.loader.history = es ++ l.history ∧ unitsInProgress es = runningUnits m.frames ∧
      ∀ before, before <:+ es →
        (inProgress before).Nodup ∧ inProgress before ⊆ l.universe a.tree [name] := by
  induction h with
  | refl =>
    refine ⟨[], rfl, rfl, fun before hb => ?_⟩
    obtain rfl := List.suffix_nil.1 hb
    exact ⟨List.nodup_nil, List.nil_subset _⟩
  | @tail m m' hsteps hstep ih =>
    obtain ⟨es, hes, hrunning, hall⟩ := ih
    obtain ⟨new, hlen, hnew, hrunning'⟩ := hstep.history
    refine ⟨new ++ es, by rw [hnew, hes, List.append_assoc], hrunning' es hrunning,
      fun before hb => ?_⟩
    have hlast := Steps.runningNames_nodup (hsteps.tail hstep)
    rw [← Frame.map_fst_runningUnits, ← hrunning' es hrunning, map_fst_unitsInProgress] at hlast
    match new, hlen, hb, hlast with
    | [], _, hb, _ => exact hall before hb
    | [e], _, hb, hlast =>
      rcases List.suffix_cons_iff.1 hb with rfl | hb
      · exact hlast
      · exact hall before hb

/-- Imports nest no deeper than units are mentioned. So the recursion ends, and it does not matter
what would be asked deeper inside. No program begins while it is in progress already, and those in
progress at once are programs of different units that are mentioned, the imported unit among them.

**Proof sketch.** An import is a sequence of steps, and no more programs run at once at any moment
of it than units are mentioned. So the bound of the nesting is never reached. The events tell which
programs are running. -/
theorem import?_terminates (a : Ambient) (l : Loader) (name : String) :
    (∀ d, (l.universe a.tree [name]).toFinset.card < d → ∀ j : Importer,
      exec (import? a name) l = exec ((importOnce a)^[d] j name) l) ∧
    exec (import? a name) l = exec (importOnce a (import? a) name) l ∧
    ∃ es, (exec (import? a name) l).2.history = es ++ l.history ∧
      ∀ before, before <:+ es →
        (inProgress before).Nodup ∧ inProgress before ⊆ l.universe a.tree [name] ∧
        (inProgress before).length ≤ (l.universe a.tree [name]).toFinset.card := by
  refine ⟨fun d hd j => ?_, exec_import?_eq a name l, ?_⟩
  · rw [exec_import?_eq_importWithin hd, exec_importWithin_eq_iterate hd j]
  · obtain ⟨es, hes, -, hall⟩ := (steps_import? a l name).history
    refine ⟨es, hes, fun before hb => ?_⟩
    obtain ⟨hn, hs⟩ := hall before hb
    exact ⟨hn, hs, card_le_of_nodup hn hs⟩

end UnitLoader
