import UnitLoader.Proofs.Loader.Placement
import UnitLoader.Proofs.Setup.Install
import UnitLoader.Setup.Restrict

/-!
# Restricting in stages

Restricting installs roots, enters a mode and takes the units of the setup away. Each stage begins
when the one before it has come to its end, and what is taken away is taken away last. As long as
the roots are not installed, the chain is the old one, and nothing that was registered is missing.

## Main definitions

* `UnitLoader.Host.Keeps` — what a process keeps while it is set up.

## Main results

* `UnitLoader.Loader.evictAll_eq` — what taking units away leaves, and what it tells.
* `UnitLoader.Host.keeps_preload`, `UnitLoader.Host.keeps_install` — imports in advance and
  installing keep what is there.
* `UnitLoader.restrict_in_stages` — how restricting proceeds, and how far.
-/

set_option relaxedAutoImplicit false
set_option autoImplicit false

namespace UnitLoader

open UnitLoader.Frame (runningNames)

variable {a : Ambient} {l : Loader} {name : String} {m m' : Moment} {k : Nat} {h h' h'' : Host}

/-! ## Taking units away -/

namespace Registry

/-- After a name was evicted the other names are there as before. -/
lemma contains_evict (r : Registry) (name other : String) :
    (r.evict name).contains other = (r.contains other && !other == name) := by
  have hcontains : ∀ r : Registry, r.contains other = (r.find? other).isSome := fun _ => rfl
  rw [hcontains, hcontains, find?_evict]
  by_cases he : name = other
  · simp [he]
  · simp [he, Ne.symm he]

/-- After names were evicted one by one, those that were registered are not any more, and the others
are as before. -/
lemma find?_foldl_evict (r : Registry) (names : List String) (name : String) :
    (names.foldl Registry.evict r).find? name =
      if name ∈ (names.filter r.contains).eraseDups then none else r.find? name := by
  have hall : (names.foldl Registry.evict r).find? name =
      if name ∈ names then none else r.find? name := by
    induction names generalizing r with
    | nil => rfl
    | cons other names ih =>
      rw [List.foldl_cons, ih, find?_evict]
      by_cases hmem : name ∈ names
      · simp [hmem]
      · simp [hmem, eq_comm]
  simp only [hall, List.mem_eraseDups, List.mem_filter]
  cases hr : r.find? name with
  | none => simp
  | some id =>
    have hc : r.contains name = true := Option.isSome_of_mem hr
    simp [hc]

end Registry

/-- Taking units away takes them from the registry only. It tells those names that were registered,
each where it stands first. -/
lemma Loader.evictAll_eq (l : Loader) (names : List String) :
    l.evictAll names = ({ l with registry := names.foldl Registry.evict l.registry },
      (names.filter l.registry.contains).eraseDups) := by
  induction names generalizing l with
  | nil => rfl
  | cons name names ih =>
    rw [Loader.evictAll, List.foldl_cons]
    by_cases hc : l.registry.contains name
    · have hrest : names.filter (l.evict name).registry.contains =
          (names.filter l.registry.contains).filter (fun other => !other == name) := by
        rw [List.filter_filter]
        exact List.filter_congr fun other _ =>
          (Registry.contains_evict l.registry name other).trans (Bool.and_comm ..)
      rw [if_pos hc, ih, hrest, List.filter_cons_of_pos hc, List.eraseDups_cons]
      rfl
    · have hnone : l.registry.find? name = none := Option.not_isSome_iff_eq_none.1 hc
      rw [if_neg hc, ih, List.filter_cons_of_neg hc, Registry.evict_of_find?_none hnone]

namespace SetupM

/-- A change of the process that gives a value is made. -/
lemma exec_modifyGet {α : Type} (f : Host → α × Host) (h : Host) :
    exec (modifyGet f) h = (.ok (f h).1, (f h).2) := rfl

/-- Taking units away takes nothing away while it is suspended. Else the names that were registered
are told, and those are not registered any more. -/
lemma exec_evict (names : List String) (h : Host) :
    exec (SetupM.evict names) h =
      if h.loader.gate.isSuspended then (.ok [], h)
      else (.ok (names.filter h.loader.registry.contains).eraseDups, { h with
        loader := { h.loader with
          registry := names.foldl Registry.evict h.loader.registry } }) := by
  rw [SetupM.evict, exec_modifyGet, Loader.reclaim?, Gate.reclaim?]
  by_cases hs : h.loader.gate.isSuspended
  · rw [if_pos hs, if_pos hs]
  · rw [if_neg hs, if_neg hs, Loader.evictAll_eq]

end SetupM

/-! ## Imports in advance -/

/-- A step does not change the gate. -/
lemma Step.gate_eq (h : Step a k m m') : m'.loader.gate = m.loader.gate := by
  cases h <;> rfl

/-- Imports leave the chain and the gate alone. -/
lemma Steps.chain_eq_and_gate_eq (h : Steps a m m') :
    m'.loader.chain = m.loader.chain ∧ m'.loader.gate = m.loader.gate := by
  induction h with
  | refl => exact ⟨rfl, rfl⟩
  | tail _ hstep ih => exact ⟨hstep.chain_eq.trans ih.1, hstep.gate_eq.trans ih.2⟩

/-- What a process keeps while it is set up: every unit that is registered, and the depth of
suspension. No mode is entered meanwhile. -/
structure Host.Keeps (h h' : Host) : Prop where
  gate : h'.loader.gate = h.loader.gate
  entries : h'.entries = h.entries
  registered : ∀ name id, h.loader.registry.find? name = some id →
    h'.loader.registry.find? name = some id

namespace Host.Keeps

/-- A process keeps what it has. -/
lemma refl (h : Host) : h.Keeps h :=
  ⟨rfl, rfl, fun _ _ hr => hr⟩

/-- What is kept and kept again is kept. -/
lemma trans (h₁ : h.Keeps h') (h₂ : h'.Keeps h'') : h.Keeps h'' where
  gate := h₂.gate.trans h₁.gate
  entries := h₂.entries.trans h₁.entries
  registered name id hr := h₂.registered name id (h₁.registered name id hr)

/-- An import keeps what is there. -/
lemma after (h : Host) (a : Ambient) (name : String) :
    h.Keeps { h with loader := h.loader.after a name } := by
  have hsteps := steps_import? a h.loader name
  refine ⟨hsteps.chain_eq_and_gate_eq.2, rfl, fun _ _ hr => ?_⟩
  exact (hsteps.find?_of_not_running hr (by simp [runningNames])).1

end Host.Keeps

/-- What is done with the loader leaves the rest of the process as it is. -/
lemma SetupM.exec_onLoader {α : Type} (wrap : LoadError → SetupError) (x : LoadM α) (h : Host) :
    exec (SetupM.onLoader wrap x) h = ((LoadM.exec x h.loader).1.mapError wrap,
      { h with loader := (LoadM.exec x h.loader).2 }) := rfl

/-- An import in advance is an import; what it gives is of no interest. -/
lemma SetupM.exec_import (a : Ambient) (name : String) (h : Host) :
    exec (SetupM.onLoader (.preload name) (discard (import? a name))) h =
      (((LoadM.exec (import? a name) h.loader).1.map fun _ => ()).mapError (.preload name),
        { h with loader := h.loader.after a name }) := by
  rw [exec_onLoader, LoadM.exec_discard, LoadM.exec_bind, Loader.after]
  rcases LoadM.exec (import? a name) h.loader with ⟨_ | _, l⟩ <;> rfl

/-- Imports in advance keep what is there, and the chain. They end with one of their own errors, if
with any. -/
theorem Host.keeps_preload (a : Ambient) (names : List String) (h : Host) :
    h.Keeps (SetupM.exec (preload a names) h).2 ∧
      (SetupM.exec (preload a names) h).2.loader.chain = h.loader.chain ∧
      ∀ e, (SetupM.exec (preload a names) h).1 = .error e →
        ∃ name ∈ names, ∃ cause, e = .preload name cause := by
  induction names generalizing h with
  | nil => exact ⟨.refl h, rfl, nofun⟩
  | cons name names ih =>
    have hkeeps := Keeps.after h a name
    have hchain := (steps_import? a h.loader name).chain_eq_and_gate_eq.1
    rw [preload, List.forM_eq_forM, List.forM_cons, SetupM.exec_bind, SetupM.exec_import]
    cases (LoadM.exec (import? a name) h.loader).1 with
    | error cause =>
      refine ⟨hkeeps, hchain, fun e he => ⟨name, List.mem_cons_self .., cause, ?_⟩⟩
      exact (Except.error.inj he).symm
    | ok _ =>
      obtain ⟨hrest, hchain', herror⟩ := ih { h with loader := h.loader.after a name }
      refine ⟨hkeeps.trans hrest, hchain'.trans hchain, fun e he => ?_⟩
      obtain ⟨other, hmem, cause, rfl⟩ := herror e he
      exact ⟨other, List.mem_cons_of_mem _ hmem, cause, rfl⟩

/-! ## Installing -/

/-- Roots fail to be opened one at a time. -/
lemma exists_of_openRoots_error {limits : List Rights} {rules : SuffixRules} {roots : List String}
    {e : SetupError} (ho : openRoots a limits rules roots = .error e) :
    ∃ root ∈ roots, ∃ cause, e = .root root cause := by
  rw [openRoots] at ho
  generalize ({} : OpenedRoots) = done at ho
  induction roots generalizing done with
  | nil => cases ho
  | cons root roots ih =>
    rw [List.foldlM_cons] at ho
    cases hadd : done.add a limits rules root with
    | ok done' =>
      rw [hadd] at ho
      obtain ⟨other, hmem, cause, rfl⟩ := ih done' ho
      exact ⟨other, List.mem_cons_of_mem _ hmem, cause, rfl⟩
    | error e' =>
      rw [hadd] at ho
      obtain rfl := Except.error.inj ho
      rw [OpenedRoots.add] at hadd
      split at hadd
      · cases hf : RootFinder.openRoot a root rules limits with
        | ok f =>
          rw [hf] at hadd
          cases hadd
        | error cause =>
          rw [hf] at hadd
          exact ⟨root, List.mem_cons_self .., cause, (Except.error.inj hadd).symm⟩
      · cases hadd

/-- Installing keeps what is there. If it fails, it keeps the chain too, and it fails for a unit
that is imported in advance or for a root. -/
theorem Host.keeps_install (a : Ambient) (roots : List String) (limits : List Rights)
    (names : List String) (rules : SuffixRules) (h : Host) :
    h.Keeps (SetupM.exec (install a roots limits names rules) h).2 ∧
      ∀ e h', SetupM.exec (install a roots limits names rules) h = (.error e, h') →
        h'.loader.chain = h.loader.chain ∧ ∃ cause, (∃ name ∈ names, e = .preload name cause) ∨
          ∃ root ∈ roots, e = .root root cause := by
  obtain ⟨hkeeps, hchain, herror⟩ := keeps_preload a names h
  rw [SetupM.exec_install]
  generalize SetupM.exec (preload a names) h = done at hkeeps hchain herror ⊢
  match done with
  | (.error e', mid) =>
    refine ⟨hkeeps, fun e h' hi => ?_⟩
    cases hi
    obtain ⟨name, hmem, cause, rfl⟩ := herror e' rfl
    exact ⟨hchain, cause, .inl ⟨name, hmem, rfl⟩⟩
  | (.ok _, mid) =>
    cases ho : openRoots a limits rules roots with
    | ok opened =>
      refine ⟨⟨hkeeps.gate, hkeeps.entries, hkeeps.registered⟩, fun _ _ hi => ?_⟩
      cases hi
    | error e' =>
      refine ⟨hkeeps, fun e h' hi => ?_⟩
      cases hi
      obtain ⟨root, hmem, cause, rfl⟩ := exists_of_openRoots_error ho
      exact ⟨hchain, cause, .inr ⟨root, hmem, rfl⟩⟩

/-! ## Restricting -/

namespace SetupM

/-- Trying to enter a mode is counted, whether or not it is refused. -/
lemma exec_enter (mode : Mode) (h : Host) :
    exec mode.enter h = (if mode.refuses then .error (.mode mode.name) else .ok (),
      { h with entries := h.entries + 1 }) := by
  rw [Mode.enter]
  cases mode.refuses <;> rfl

/-- Restricting is installing, entering the mode and taking units away, in this order. -/
lemma exec_restrict {environment : Environment} {s : Settings}
    (hskip : ¬ environment.isSet s.skipVariable) (mode : Mode) (h : Host) :
    exec (restrict a environment s mode) h = match exec (installSettings a s) h with
      | (.error e, h') => (.error e, h')
      | (.ok report, h') =>
        if mode.refuses then (.error (.mode mode.name), { h' with entries := h'.entries + 1 })
        else match exec (SetupM.evict s.evictAfter) { h' with entries := h'.entries + 1 } with
          | (.ok evicted, h') => (.ok { install := some report, evicted }, h')
          | (.error e, h') => (.error e, h') := by
  rw [restrict, if_neg hskip, exec_bind]
  rcases exec (installSettings a s) h with ⟨_ | report, h'⟩
  · rfl
  · dsimp only
    rw [exec_bind, exec_enter]
    cases mode.refuses with
    | true => rfl
    | false =>
      simp only [Bool.false_eq_true, if_false, exec_bind]
      rcases exec (SetupM.evict s.evictAfter) _ with ⟨_ | _, _⟩ <;> rfl

end SetupM

/-- Restricting proceeds in stages. Where the environment asks for that, nothing is done. If a unit
cannot be imported in advance or a root cannot be opened, the mode is not entered, and the chain is
the old one. Else the mode is entered once. If it is refused, nothing is taken away. Else those
units are that are registered then, unless reclamation is suspended. Until then all units stay.

**Proof sketch.** Imports in advance are sequences of steps, and no step takes away a unit whose
program is not running; nor does it change the chain or the gate. So what is there when the mode is
entered is known, and taking units away is said of a whole list at once. -/
theorem restrict_in_stages (a : Ambient) (environment : Environment) (s : Settings) (mode : Mode)
    (h : Host) :
    (environment.isSet s.skipVariable →
      SetupM.exec (restrict a environment s mode) h = (.ok { skipped := true }, h)) ∧
    (¬ environment.isSet s.skipVariable →
      h.Keeps (SetupM.exec (installSettings a s) h).2 ∧
      (∀ e h', SetupM.exec (installSettings a s) h = (.error e, h') →
        SetupM.exec (restrict a environment s mode) h = (.error e, h') ∧
        h'.loader.chain = h.loader.chain ∧
        ∃ cause, (∃ name ∈ s.preload, e = .preload name cause) ∨
          ∃ root ∈ s.roots, e = .root root cause) ∧
      ∀ report h', SetupM.exec (installSettings a s) h = (.ok report, h') →
        (mode.refuses → SetupM.exec (restrict a environment s mode) h =
          (.error (.mode mode.name), { h' with entries := h.entries + 1 })) ∧
        (¬ mode.refuses → ∃ evicted registry,
          SetupM.exec (restrict a environment s mode) h =
            (.ok { skipped := false, install := some report, evicted },
              ⟨{ h'.loader with registry }, h.entries + 1⟩) ∧
          (h.loader.gate.isSuspended → evicted = [] ∧ registry = h'.loader.registry) ∧
          (¬ h.loader.gate.isSuspended →
            evicted = (s.evictAfter.filter h'.loader.registry.contains).eraseDups ∧
            ∀ name, registry.find? name =
              if name ∈ evicted then none else h'.loader.registry.find? name))) := by
  obtain ⟨hkeeps, herror⟩ := Host.keeps_install a s.roots [.ofNames s.granted] s.preload s.rules h
  rw [← installSettings] at hkeeps herror
  refine ⟨fun hskip => ?_, fun hskip => ⟨hkeeps, fun e h' hi => ?_, fun report h' hi => ?_⟩⟩
  · rw [restrict, if_pos hskip]
    rfl
  · rw [SetupM.exec_restrict hskip, hi]
    exact ⟨rfl, herror e h' hi⟩
  · rw [hi] at hkeeps
    have hgate : h'.loader.gate = h.loader.gate := hkeeps.gate
    have hentries : h'.entries = h.entries := hkeeps.entries
    rw [SetupM.exec_restrict hskip, hi]
    dsimp only
    refine ⟨fun hrefuses => ?_, fun hrefuses => ?_⟩
    · rw [if_pos hrefuses, hentries]
    · rw [if_neg hrefuses, SetupM.exec_evict, hentries]
      -- The gate is the one from the beginning, so it is known whether units can be taken away.
      by_cases hs : h.loader.gate.isSuspended
      · rw [if_pos (hgate ▸ hs)]
        exact ⟨[], h'.loader.registry, rfl, fun _ => ⟨rfl, rfl⟩, fun hn => absurd hs hn⟩
      · rw [if_neg (hgate ▸ hs)]
        exact ⟨_, _, rfl, fun hs' => absurd hs' hs,
          fun _ => ⟨rfl, Registry.find?_foldl_evict _ s.evictAfter⟩⟩

/-- Of the units to be evicted one is not registered and one is named twice. While reclamation is
suspended, all of them stay. -/
theorem restrict_in_stages_package :
    let a : Ambient := ⟨.package "" "x = 1", Tree.root⟩
    let s : Settings :=
      { roots := ["/", "/none"], preload := ["p.c", "sys"], evictAfter := ["p", "q", "sys", "p"] }
    let host : Host := ⟨.rooted, 0⟩
    let held : Host := ⟨{ Loader.rooted with gate := ⟨2⟩ }, 0⟩
    let report : InstallReport := ⟨["p.c", "sys"], ["/"], ["/none"]⟩
    let x := SetupM.exec (restrict a ["PATH=/"] s .unrestricted) host
    let y := SetupM.exec (restrict a ["PATH=/"] s .unrestricted) held
    x.1 = .ok { install := some report, evicted := ["p", "sys"] } ∧ x.2.entries = 1 ∧
      x.2.loader.registry.find? "p" = none ∧ x.2.loader.registry.find? "p.c" = some 1 ∧
      y.1 = .ok { install := some report, evicted := [] } ∧ y.2.entries = 1 ∧
      y.2.loader.registry.find? "p" = some 0 := by
  intro a s host held report x y
  have hskip : ¬ Environment.isSet ["PATH=/"] s.skipVariable := by decide +kernel
  have hinstalled : ∀ start : Host, (SetupM.exec (installSettings a s) start).1 = .ok report →
      SetupM.exec (installSettings a s) start =
        (.ok report, (SetupM.exec (installSettings a s) start).2) :=
    fun start hr => by rw [← hr]
  obtain ⟨-, -, hdone⟩ := (restrict_in_stages a ["PATH=/"] s .unrestricted host).2 hskip
  obtain ⟨evicted, registry, hx, -, hgone⟩ :=
    (hdone _ _ (hinstalled host (by decide +kernel))).2 (by decide)
  obtain ⟨hevicted, hfind⟩ := hgone (by decide)
  have hnames : evicted = ["p", "sys"] := hevicted.trans (by decide +kernel)
  obtain ⟨-, -, hheld⟩ := (restrict_in_stages a ["PATH=/"] s .unrestricted held).2 hskip
  obtain ⟨nothing, kept, hy, hsuspended, -⟩ :=
    (hheld _ _ (hinstalled held (by decide +kernel))).2 (by decide)
  obtain ⟨hnothing, hkept⟩ := hsuspended (by decide)
  have hchild : (SetupM.exec (installSettings a s) host).2.loader.registry.find? "p.c" =
      some 1 := by decide +kernel
  have hparent : (SetupM.exec (installSettings a s) held).2.loader.registry.find? "p" =
      some 0 := by decide +kernel
  rw [hnames] at hx hfind
  rw [hnothing, hkept] at hy
  have hp : registry.find? "p" = none := by rw [hfind, if_pos (by simp)]
  have hc : registry.find? "p.c" = some 1 := by rw [hfind, if_neg (by simp), hchild]
  simp only [x, y, hx, hy]
  exact ⟨trivial, rfl, hp, hc, trivial, rfl, hparent⟩

end UnitLoader
