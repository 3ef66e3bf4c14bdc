import UnitLoader.Proofs.Loader.Reasons
import UnitLoader.Proofs.Lookup.Presence

/-!
# Selective imports

A program that imports names from a unit is given attributes of the unit, or else children of it. It
is told that a name cannot be imported if the error of the child's import says that nothing is
there. So it is told if nothing can be found for the child. But it is told as well if the child was
found and its program failed with such an error, because something is missing that the child itself
asks for.

## Main definitions

* `UnitLoader.Loader.Stumbles` — a program is found for a unit, and it fails.

## Main results

* `UnitLoader.import?_absent_cases` — why the error of an import says that nothing is there.
* `UnitLoader.run_fromImport_error` — what a selective import that fails tells, and why.
* `UnitLoader.run_fromImport_found` — a name that cannot be imported, although it was found.
-/

set_option relaxedAutoImplicit false
set_option autoImplicit false

namespace UnitLoader

open LoadM (exec)
open LoadError (SaysAbsent)

variable {a : Ambient} {l l' : Loader} {name module x : String} {e : LoadError}
  {unit source : UnitId} {artifact : Artifact} {strategy : Strategy} {i : Importer}

/-! ## Errors that say that nothing is there -/

/-- A program is found for a unit, or for one around it, and it fails. -/
def Loader.Stumbles (a : Ambient) (l : Loader) (name : String) (e : LoadError) : Prop :=
  ∃ l₁ l₂ searchPath artifact strategy kind p, l.BringsIn a name artifact.name l₁ ∧
    l₁.Searches artifact.name searchPath ∧ l₁.builtins.get? artifact.name = none ∧
    l₁.find a artifact.name searchPath = .ok (some (.artifact artifact strategy)) ∧
    artifact.read a.tree strategy = .ok (kind, p) ∧
    exec (p.run (import? a) l₁.registry.nextId) (l₁.begin artifact kind) = (.error e, l₂)

/-- A unit that is brought in is not registered by then. -/
lemma Loader.BringsIn.find?_none {other : String} {l₁ : Loader} (h : l.BringsIn a name other l₁) :
    l₁.registry.find? other = none := by
  induction h with
  | here _ hfree => exact hfree
  | around _ _ _ ih => exact ih

/-- Loading an artifact that is a file fails with an error that says that nothing is there only if
its program does. -/
lemma exists_program_of_load (hfree : l.registry.find? artifact.name = none)
    (hx : artifact.directory.isFile a.tree artifact.path = .ok true)
    (h : exec (artifact.load a.tree i strategy) l = (.error e, l')) (he : e.SaysAbsent) :
    ∃ kind p l₂, artifact.read a.tree strategy = .ok (kind, p) ∧
      exec (p.run i l.registry.nextId) (l.begin artifact kind) = (.error e, l₂) := by
  -- A native library has no program, and none of its own errors says that nothing is there.
  by_cases hs : strategy = .nativeLibrary
  · subst hs
    rw [Artifact.load.eq_def, LoadM.exec_bind, LoadM.exec_registered?, hfree] at h
    dsimp only at h
    rw [LoadM.exec_loadNative] at h
    cases hlink : artifact.link a.tree with
    | error e' =>
      rw [hlink] at h
      cases h
      exact absurd he (Artifact.avoids_link hx e hlink)
    | ok library =>
      rw [hlink] at h
      dsimp only at h
      split at h
      · split at h
        · cases h
          cases he
        · cases h
      · cases h
        cases he
  · rw [LoadM.exec_load a.tree hfree hs] at h
    cases hread : artifact.read a.tree strategy with
    | error e' =>
      rw [hread] at h
      cases h
      exact absurd he (Artifact.avoids_read hx strategy e hread)
    | ok program =>
      obtain ⟨kind, p⟩ := program
      rw [hread] at h
      dsimp only at h
      rw [LoadM.exec_install hfree] at h
      rcases hrun : exec (p.run i l.registry.nextId) (l.begin artifact kind) with ⟨_ | _, l₂⟩
      · rw [hrun] at h
        cases h
        exact ⟨kind, p, l₂, rfl, hrun⟩
      · rw [hrun] at h
        cases h

/-- If the error of an import says that nothing is there, nothing can be found for the unit, or a
program that was found failed with this error, or there is no working directory that paths could be
taken from. -/
theorem import?_absent_cases (hfree : l.registry.find? name = none)
    (h : exec (import? a name) l = (.error e, l')) (he : e.SaysAbsent) :
    l.Lacks a name ∨ l.Stumbles a name e ∨ a.tree.placeOf? a.working = none := by
  rcases import?_error_cases hfree h with
    ⟨-, rfl⟩ | ⟨hlacks, -⟩ | ⟨other, l₁, searchPath, -, -, hf⟩ | hbreaks
  · cases he
  · exact .inl hlacks
  · refine .inr (.inr ?_)
    by_contra hw
    exact Loader.avoids_find (Option.ne_none_iff_isSome.1 hw) l₁ other searchPath e hf he
  · obtain ⟨l₁, searchPath, artifact, strategy, hbrings, hs, hb, hf, hload⟩ := hbreaks
    obtain ⟨kind, p, l₂, hread, hrun⟩ :=
      exists_program_of_load hbrings.find?_none (Loader.isFile_of_find hf) hload he
    exact .inr (.inl ⟨l₁, l₂, searchPath, artifact, strategy, kind, p, hbrings, hs, hb, hf, hread,
      hrun⟩)

/-! ## Selective imports -/

namespace LoadM

/-- A loop does its first round, then the others. -/
lemma exec_forM_cons {α : Type} (f : α → LoadM Unit) (v : α) (vs : List α) :
    exec ((v :: vs).forM f) l = exec (f v >>= fun _ => vs.forM f) l := rfl

/-- If one of several computations fails, those before it did not. -/
lemma exec_forM_error {α : Type} {f : α → LoadM Unit} {vs : List α}
    (h : exec (vs.forM f) l = (.error e, l')) :
    ∃ before v after l₁, vs = before ++ v :: after ∧ exec (before.forM f) l = (.ok (), l₁) ∧
      exec (f v) l₁ = (.error e, l') := by
  induction vs generalizing l with
  | nil => cases h
  | cons v vs ih =>
    rw [exec_forM_cons, exec_bind] at h
    rcases hv : exec (f v) l with ⟨_ | _, l₁⟩
    · rw [hv] at h
      cases h
      exact ⟨[], v, vs, l, rfl, rfl, hv⟩
    · rw [hv] at h
      obtain ⟨before, w, after, l₂, rfl, hbefore, hw⟩ := ih h
      refine ⟨v :: before, w, after, l₂, rfl, ?_, hw⟩
      rw [exec_forM_cons, exec_bind, hv]
      exact hbefore

/-- What each of several computations keeps is kept by all of them. -/
lemma exec_forM_keeps {α : Type} {P : Loader → Prop} {f : α → LoadM Unit}
    (hf : ∀ v l, P l → P (exec (f v) l).2) (hl : P l) (vs : List α) : P (exec (vs.forM f) l).2 := by
  induction vs generalizing l with
  | nil => exact hl
  | cons v vs ih =>
    have hv := hf v l hl
    rw [exec_forM_cons, exec_bind]
    rcases hx : exec (f v) l with ⟨_ | _, l₁⟩ <;> rw [hx] at hv
    · exact hv
    · exact ih hv

/-- A selective import of one name fails if the unit has no such attribute and importing the child
fails. -/
lemma exec_importedValue_error
    (h : exec (importedValue i unit source module name) l = (.error e, l')) :
    (l.registry.unit source).attribute? name = none ∧
      ∃ e₀, exec (i (UnitName.child module name)) l = (.error e₀, l') ∧
        e = if e₀.isNotFound then
            .executionFailed (l'.registry.unit unit).name (.cannotImport name module)
          else e₀ := by
  rw [importedValue, exec_attribute] at h
  cases hv : (l.registry.unit source).attribute? name with
  | some v =>
    rw [hv] at h
    cases h
  | none =>
    rw [hv] at h
    dsimp only at h
    rw [exec_tryCatch, exec_bind, exec_discard, exec_bind] at h
    refine ⟨rfl, ?_⟩
    rcases hchild : exec (i (UnitName.child module name)) l with ⟨e₀ | _, l₁⟩
    · rw [hchild] at h
      dsimp only at h
      split at h
      · next habsent =>
        cases h
        exact ⟨e₀, rfl, by rw [if_pos habsent]⟩
      · next habsent =>
        cases h
        exact ⟨_, rfl, by rw [if_neg habsent]⟩
    · rw [hchild] at h
      cases h

end LoadM

/-- A recorded importer notes what it is asked for and what it gives, and nothing more for an
error. -/
lemma Importer.exec_recorded (i : Importer) (name : String) (l : Loader) :
    exec (i.recorded name) l = match exec (i name) (l.note (.asked name)) with
      | (.ok id, l') => (.ok id, l'.note (.given name id))
      | (.error e, l') => (.error e, l') := by
  rw [recorded, LoadM.exec_bind, LoadM.exec_note]
  dsimp only
  rw [LoadM.exec_bind]
  rcases exec (i name) _ with ⟨_ | _, l'⟩ <;> rfl

/-- A recorded importer fails as the importer does. -/
lemma Importer.of_recorded_error (h : exec (i.recorded name) l = (.error e, l')) :
    exec (i name) (l.note (.asked name)) = (.error e, l') := by
  rw [exec_recorded] at h
  rcases hi : exec (i name) (l.note (.asked name)) with ⟨_ | _, l₁⟩ <;> rw [hi] at h <;> cases h
  rfl

/-- What a program is given is registered. -/
lemma Importer.registered_of_recorded {id : UnitId}
    (h : exec (Importer.recorded (import? a) name) l = (.ok id, l')) :
    l'.registry.find? name = some id := by
  rw [exec_recorded] at h
  rcases hi : exec (import? a name) (l.note (.asked name)) with ⟨_ | _, l₁⟩ <;> rw [hi] at h <;>
    cases h
  exact (registered_of_import? hi).1

/-- What is registered stays so while a program asks for a unit. -/
lemma Importer.find?_recorded {other : String} {id : UnitId}
    (hr : l.registry.find? other = some id) (name : String) :
    (exec (Importer.recorded (import? a) name) l).2.registry.find? other = some id := by
  have hsteps := steps_import? a (l.note (.asked name)) name
  have hkept : ((l.note (.asked name)).after a name).registry.find? other = some id :=
    (hsteps.find?_of_not_running hr (by simp [Frame.runningNames])).1
  rw [Loader.after] at hkept
  rw [Importer.exec_recorded]
  rcases hi : exec (import? a name) (l.note (.asked name)) with ⟨_ | _, l₁⟩ <;>
    rwa [hi] at hkept

/-- What is registered stays so while a name is imported from a unit. -/
lemma find?_importedValue {other : String} {id : UnitId} (hr : l.registry.find? other = some id)
    (name : String) :
    (exec (importedValue (Importer.recorded (import? a)) unit source module name) l).2.registry.find?
      other = some id := by
  have hkept := Importer.find?_recorded (a := a) hr (UnitName.child module name)
  rw [importedValue, LoadM.exec_attribute]
  cases (l.registry.unit source).attribute? name with
  | some v => exact hr
  | none =>
    dsimp only
    rw [LoadM.exec_tryCatch, LoadM.exec_bind, LoadM.exec_discard, LoadM.exec_bind]
    rcases hi : exec (Importer.recorded (import? a) (UnitName.child module name)) l with ⟨e | _, l₁⟩
    · rw [hi] at hkept
      dsimp only
      split <;> exact hkept
    · rw [hi] at hkept
      exact hkept

/-- The import of one name from a unit. -/
def importName (i : Importer) (unit source : UnitId) (module name : String) : LoadM Unit := do
  let v ← importedValue i unit source module name
  LoadM.assign unit name v

/-- Importing a name from a unit leaves other units registered. -/
lemma find?_importName {other : String} {id : UnitId} (name : String) (l : Loader)
    (hr : l.registry.find? other = some id) :
    (exec (importName (Importer.recorded (import? a)) unit source module name) l).2.registry.find?
      other = some id := by
  have hkept : (exec (importedValue (Importer.recorded (import? a)) unit source module name)
    l).2.registry.find? other = some id := find?_importedValue hr name
  rw [importName, LoadM.exec_bind]
  rcases hv : exec (importedValue (Importer.recorded (import? a)) unit source module name) l with
    ⟨_ | _, l₁⟩ <;> rw [hv] at hkept <;> exact hkept

/-- Names are imported from a unit after the unit, one after the other. -/
lemma exec_run_fromImport (names : List String) :
    exec (Statement.run i unit (.fromImport module names)) l = match exec (i module) l with
      | (.ok source, l₁) => exec (names.forM (importName i unit source module)) l₁
      | (.error e, l₁) => (.error e, l₁) := by
  rw [Statement.run, LoadM.exec_bind]
  rcases exec (i module) l with ⟨_ | _, l₁⟩ <;> rfl

/-- An import of a child fails with an error that says that nothing is there for one of three
reasons, and with another error only if something was found. -/
lemma import?_child_error (h : exec (import? a name) l = (.error e, l')) :
    (e.SaysAbsent ∧ (l.Lacks a name ∨ l.Stumbles a name e ∨ a.tree.placeOf? a.working = none)) ∨
      (¬ e.SaysAbsent ∧ ¬ (UnitName.isImportable name ∧ l.Lacks a name)) := by
  by_cases hi : UnitName.isImportable name
  · have hfree : l.registry.find? name = none := by
      by_contra hr
      obtain ⟨id, hid⟩ := Option.ne_none_iff_exists'.1 hr
      rw [exec_import?_of_registered a hi hid] at h
      cases h
    by_cases he : e.SaysAbsent
    · exact .inl ⟨he, import?_absent_cases hfree h he⟩
    · refine .inr ⟨he, fun ⟨_, hlacks⟩ => he ?_⟩
      obtain ⟨what, l₁, hmissing⟩ := hlacks.exec_import? hi hfree
      cases hmissing.symm.trans h
      rfl
  · rw [exec_import?_of_not_isImportable a l hi] at h
    cases h
    exact .inr ⟨nofun, fun ⟨hi', _⟩ => hi hi'⟩

/-- **Why a selective import fails.** The import of the unit may fail. Else the names before some
name are imported, and for this name the unit has no attribute and the import of the child fails.
The program is told that the name cannot be imported if the error says that nothing is there, and is
given the error otherwise. So it is not told of the name for nothing: nothing can be found for the
child, or a program that was found for it failed with such an error, or there is no working
directory. And it is told of the name whenever nothing can be found for the child.

**Proof sketch.** Of several names the first that fails leaves the unit registered, which no import
takes away. A child that is registered would have been given. So the import of the child fails where
a unit is brought in, and `import?_absent_cases` applies to its error. -/
theorem run_fromImport_error {names : List String}
    (h : exec (Statement.run (.recorded (import? a)) unit (.fromImport module names)) l =
      (.error e, l')) :
    exec (Importer.recorded (import? a) module) l = (.error e, l') ∨
      ∃ before x after l₁ source e₀, names = before ++ x :: after ∧
        exec (Statement.run (.recorded (import? a)) unit (.fromImport module before)) l =
          (.ok (), l₁) ∧
        l₁.registry.find? module = some source ∧
        (l₁.registry.unit source).attribute? x = none ∧
        let child := UnitName.child module x
        let l₂ := l₁.note (.asked child)
        exec (import? a child) l₂ = (.error e₀, l') ∧
          ((e₀.SaysAbsent ∧
              e = .executionFailed (l'.registry.unit unit).name (.cannotImport x module) ∧
              (l₂.Lacks a child ∨ l₂.Stumbles a child e₀ ∨ a.tree.placeOf? a.working = none)) ∨
            (¬ e₀.SaysAbsent ∧ e = e₀ ∧ ¬ (UnitName.isImportable child ∧ l₂.Lacks a child))) := by
  rw [exec_run_fromImport] at h
  rcases hmodule : exec (Importer.recorded (import? a) module) l with ⟨_ | source, l₀⟩
  · rw [hmodule] at h
    cases h
    exact .inl rfl
  rw [hmodule] at h
  obtain ⟨before, x, after, l₁, rfl, hbefore, hx⟩ := LoadM.exec_forM_error h
  -- The names before this one were imported, and no import takes away the unit they came from.
  have hsource : l₁.registry.find? module = some source := by
    have hkept := LoadM.exec_forM_keeps
      (f := importName (.recorded (import? a)) unit source module) find?_importName
      (Importer.registered_of_recorded hmodule) before
    rwa [hbefore] at hkept
  rw [importName, LoadM.exec_bind] at hx
  rcases hv : exec (importedValue (.recorded (import? a)) unit source module x) l₁ with ⟨e' | v, l₂⟩
  · rw [hv] at hx
    cases hx
    obtain ⟨hattribute, e₀, hchild, he⟩ := LoadM.exec_importedValue_error hv
    have hasked := Importer.of_recorded_error hchild
    refine .inr ⟨before, x, after, l₁, source, e₀, rfl, ?_, hsource, hattribute, hasked, ?_⟩
    · rw [exec_run_fromImport, hmodule]
      exact hbefore
    · rcases import?_child_error hasked with ⟨habsent, hwhy⟩ | ⟨hpresent, hlacks⟩
      · exact .inl ⟨habsent, he.trans (if_pos habsent), hwhy⟩
      · exact .inr ⟨hpresent, he.trans (if_neg hpresent), hlacks⟩
  · rw [hv] at hx
    cases hx

/-- A name cannot be imported if there is no such child. -/
theorem run_fromImport_error_nope :
    let a : Ambient := ⟨.package "" "x = 1", Tree.root⟩
    let statement (names : List String) : LoadM Unit :=
      Statement.run (.recorded (import? a)) 0 (.fromImport "p" names)
    let l := Loader.rooted.after a "p"
    let l₂ := (exec (statement []) l).2.note (.asked "p.nope")
    (exec (statement ["nope"]) l).1 = .error (.executionFailed "p" (.cannotImport "nope" "p")) ∧
      (l₂.Lacks a "p.nope" ∨ l₂.Stumbles a "p.nope" (.missingArtifact (.unit "p.nope"))) := by
  intro a statement l l₂
  have hfail : (exec (statement ["nope"]) l).1 =
      .error (.executionFailed "p" (.cannotImport "nope" "p")) := by decide +kernel
  have hmodule : (exec (Importer.recorded (import? a) "p") l).1.toOption.isSome = true := by
    decide +kernel
  have hmissing :
      (exec (import? a "p.nope") l₂).1 = .error (.missingArtifact (.unit "p.nope")) := by
    decide +kernel
  have hw : a.tree.placeOf? a.working ≠ none := by decide +kernel
  refine ⟨hfail, ?_⟩
  clear_value l a
  rcases run_fromImport_error (Prod.ext hfail rfl) with
    hno | ⟨before, x, after, l₁, source, e₀, hnames, hbefore, -, -, hchild, hwhy⟩
  · rw [hno] at hmodule
    cases hmodule
  obtain ⟨rfl, hx⟩ | ⟨-, hx⟩ := List.append_eq_singleton_iff.1 hnames.symm
  · cases hx
    obtain rfl : l₁ = (exec (statement []) l).2 := (congrArg Prod.snd hbefore).symm
    obtain rfl : e₀ = .missingArtifact (.unit "p.nope") :=
      Except.error.inj ((congrArg Prod.fst hchild).symm.trans hmissing)
    rcases hwhy with ⟨-, -, hlacks | hstumbles | hno⟩ | ⟨hpresent, -⟩
    · exact .inl hlacks
    · exact .inr hstumbles
    · exact absurd hno hw
    · exact absurd rfl hpresent
  · cases hx

/-- A name cannot be imported, so a program is told, although the child was found in the unit: what
is missing is a unit that the child asks for. -/
theorem run_fromImport_found :
    let a : Ambient := ⟨.package "" "import nope", Tree.root⟩
    let l := Loader.rooted.after a "p"
    let p := l.registry.unit 0
    l.registry.find? "p" = some 0 ∧ (p.attribute? "c").isSome = false ∧ p.isContainer = true ∧
      ((l.find a "p.c" (some p.locations)).toOption.join.any fun
        | .artifact x _ => x.name = "p.c"
        | _ => false) ∧
      (exec (import? a "p.c") l).1 = .error (.missingArtifact (.unit "nope")) ∧
      (exec (Statement.run (.recorded (import? a)) 0 (.fromImport "p" ["c"])) l).1 =
        .error (.executionFailed "p" (.cannotImport "c" "p")) := by
  decide +kernel

end UnitLoader
