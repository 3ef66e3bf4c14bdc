import UnitLoader.Proofs.Loader.Follows

/-!
# Native libraries as sequences of steps

All that native code does to a loader it does by its calls, one after the other. Loading a library
takes a step for each call that does anything, and a last one in which the unit is told where it
came from.

## Main results

* `UnitLoader.LoadM.exec_loadNative` — what loading a library does.
* `UnitLoader.callEntryPoint_steps` — calling an entry point is a sequence of steps.
* `UnitLoader.loadNative_follows` — loading a library is a sequence of steps.
-/

set_option relaxedAutoImplicit false
set_option autoImplicit false

namespace UnitLoader

open LoadM (exec)

variable {a : Ambient} {n : Nat} {s : List Frame} {name : String}
  {searchPath : Option (List String)} {artifact : Artifact} {strategy : Strategy} {library : NativeLibrary}
  {l : Loader}

/-! ## What loading does -/

namespace LoadM

/-- A change that is always made is made after the computation, whatever that gives. -/
lemma exec_always {α : Type} (x : LoadM α) (change : Loader → Loader) (l : Loader) :
    exec (x.always change) l = ((exec x l).1, change (exec x l).2) := by
  rw [always, exec_bind, exec_onError]
  rcases exec x l with ⟨_ | v, l'⟩ <;> rfl

/-- Loading a library calls its entry point. A loader is not left suspended. -/
lemma exec_loadNative (t : Tree) (artifact : Artifact) (l : Loader) :
    exec (artifact.loadNative t) l = match artifact.link t with
      | .error e => (.error e, l)
      | .ok library =>
        let symbol := entryPointSymbol (UnitName.short artifact.name)
        if library.exports symbol then
          let suspended := { l with gate := l.gate.suspend, libraries := l.libraries + 1 }
          let called := { suspended.callEntryPoint library artifact.name with gate := l.gate }
          match called.registry.find? artifact.name with
          | none => (.error (.dynamicLoadFailure (.unregistered symbol artifact.name)), called)
          | some id => (.ok id, called.modifyUnit id
            (·.bindMetadata (some artifact.origin) (some .nativeLibrary) artifact.locations))
        else (.error (.entryPointNotFound symbol none), l) := by
  rw [Artifact.loadNative, exec_bind, exec_modify]
  dsimp only
  rw [exec_always, exec_bind, exec_ofOutcome]
  rcases artifact.link t with _ | library
  · rfl
  · dsimp only
    cases hx : library.exports (entryPointSymbol (UnitName.short artifact.name))
    · rfl
    · simp only [exec_bind, exec_modify, exec_registered?, Bool.not_true, Bool.false_eq_true,
        if_false, if_true]
      -- The entry point leaves the gate as it finds it, so that resuming takes back the suspension.
      generalize hc : Loader.callEntryPoint _ library artifact.name = called
      have hgate : called.gate.resume = l.gate := by
        rw [← hc]
        exact Gate.resume_suspend l.gate
      cases called.registry.find? artifact.name
      · simp only [exec_throw, hgate]
      · simp only [exec_bind, exec_modifyUnit, exec_pure, Loader.modifyUnit, hgate]

end LoadM

/-! ## Calls -/

namespace HostCall

variable {context c : NativeContext} {call : HostCall} {calls : List HostCall} {depth : Option Nat}

/-- What calls register is noted latest first, so that the first call comes behind the others. -/
lemma registrations_cons :
    registrations context (call :: calls) =
      registrations context calls ++ registrations context [call] := by
  cases call with
  | register requested => cases requested <;> simp [registrations]
  | _ => simp [registrations]

/-- Calls do not make programs fail. -/
lemma failures_registrations (history : List Event) :
    failures (registrations context calls ++ history) = failures history := by
  induction calls generalizing history with
  | nil => rfl
  | cons call calls ih =>
    rw [registrations_cons, List.append_assoc, ih]
    cases call with
    | register requested => cases requested <;> simp [registrations, failures]
    | _ => rfl

/-- A call takes a step if it does anything, and the published context stays that of its unit. -/
lemma steps_perform (s : List Frame) (searchPath : Option (List String)) (l : Loader)
    (depth : Option Nat) (call : HostCall) (hl : artifact.link a.tree = .ok library)
    (hn : context.name = name) (hc : c.name = name) :
    (∃ c', (call.perform (some c) l.registry depth).context = some c' ∧ c'.name = name) ∧
      Steps a ⟨.bringing name searchPath :: s, l⟩ ⟨.bringing name searchPath :: s,
        { l with
          registry := (call.perform (some c) l.registry depth).registry
          history := registrations context [call] ++ l.history }⟩ := by
  -- The step asks that the value mentions no unit, as no text and no integer does.
  have hset : ∀ key value, (∀ v, value = some v → v.mentions = []) →
      (∃ c', (setAttribute (some c) l.registry key value).context = some c' ∧ c'.name = name) ∧
        Steps a ⟨.bringing name searchPath :: s, l⟩ ⟨.bringing name searchPath :: s,
          { l with registry := (setAttribute (some c) l.registry key value).registry }⟩ := by
    intro key value hv
    unfold setAttribute
    split
    · exact ⟨⟨c, rfl, hc⟩, .single (.set hl (hv _ rfl))⟩
    · exact ⟨⟨c, rfl, hc⟩, .refl⟩
  cases call with
  | register requested =>
    cases requested with
    | none => exact ⟨⟨c, rfl, hc⟩, .refl⟩
    | some requested =>
      have hq : c.qualify requested = context.qualify requested := by
        simp only [NativeContext.qualify, hc, hn]
      simp only [perform, registrations, Registry.getOrCreate, hq, hn]
      cases hr : l.registry.find? (context.qualify requested) with
      | none => exact ⟨⟨_, rfl, hc⟩, .single (.register hl hr)⟩
      | some id => exact ⟨⟨_, rfl, hc⟩, .single (.reregister hr)⟩
  | setText key value =>
    refine hset key (value.map .str) fun v hv => ?_
    obtain ⟨_, -, rfl⟩ := Option.map_eq_some_iff.1 hv
    rfl
  | setInt key value =>
    refine hset key (some (.int value)) fun v hv => ?_
    obtain rfl := Option.some.inj hv
    rfl
  | depth =>
    simp only [perform]
    split <;> exact ⟨⟨c, rfl, hc⟩, .refl⟩

/-- Calls are a sequence of steps. -/
lemma steps_performAll (hl : artifact.link a.tree = .ok library) (hn : context.name = name)
    (hc : c.name = name) :
    Steps a ⟨.bringing name searchPath :: s, l⟩ ⟨.bringing name searchPath :: s,
      { l with
        registry := (performAll (some c) l.registry depth calls).2.1
        history := registrations context calls ++ l.history }⟩ := by
  induction calls generalizing l c with
  | nil => exact .refl
  | cons call calls ih =>
    obtain ⟨⟨c', hc', hname⟩, hstep⟩ := steps_perform s searchPath l depth call hl hn hc
    have hrest := ih (c := c') (l := { l with
      registry := (call.perform (some c) l.registry depth).registry
      history := registrations context [call] ++ l.history }) hname
    rw [registrations_cons, performAll, hc', List.append_assoc]
    exact hstep.andThen (failures_registrations l.history) hrest

end HostCall

/-- Calling an entry point is a sequence of steps. -/
lemma callEntryPoint_steps (s : List Frame) (name : String) (searchPath : Option (List String))
    (l : Loader) (suspended : Gate) (hl : artifact.link a.tree = .ok library) :
    Steps a ⟨.bringing name searchPath :: s, l⟩ ⟨.bringing name searchPath :: s,
      { { l with gate := suspended, libraries := l.libraries + 1 }.callEntryPoint library name with
        gate := l.gate }⟩ := by
  have hcount : Steps a ⟨.bringing name searchPath :: s, l⟩ ⟨.bringing name searchPath :: s,
      { l with
        libraries := l.libraries + 1
        codes := l.codes ++ (HostCall.performAll (some { name, gate := some 0 }) l.registry
          (some suspended.depth) library.calls).2.2 }⟩ := .single .count
  exact hcount.andThen rfl (HostCall.steps_performAll hl rfl rfl)

/-! ## Loading -/

/-- Loading a library is a sequence of steps. -/
theorem loadNative_follows (hfree : l.registry.find? artifact.name = none)
    (hf : l.find a artifact.name searchPath = .ok (some (.artifact artifact strategy))) :
    Follows a n (.bringing artifact.name searchPath :: s) l (artifact.loadNative a.tree)
      (artifact.loadNative a.tree) (Settles artifact.name) := by
  have he := LoadM.exec_loadNative a.tree artifact l
  cases hl : artifact.link a.tree with
  | error e =>
    rw [hl] at he
    exact .of_exec he hfree
  | ok library =>
    rw [hl] at he
    dsimp only at he
    have hcall := callEntryPoint_steps s artifact.name searchPath l l.gate.suspend hl
    have hcalm : failures ({ l with gate := l.gate.suspend, libraries := l.libraries + 1
        }.callEntryPoint library artifact.name).history = failures l.history :=
      HostCall.failures_registrations _
    split at he
    · split at he
      · next hr => exact .same he hcall hr fun _ _ => hcalm
      · next id hr => exact .same he (hcall.tail (.bind hr hl hf)) hr fun _ _ => hcalm
    · exact .of_exec he hfree

end UnitLoader
