import UnitLoader.Proofs.Loader.Sparing
import UnitLoader.Proofs.Setup.Restrict

/-!
# Names of units in settings

The names of units in settings are looked at twice: when the settings are checked, and when the units
are imported in advance. The check asks for segments that are not empty. An import asks besides that
no segment holds a slash, a backslash, a NUL or a blank. So settings may pass the check with names
that cannot be imported, and installing them fails at the first of these.

## Main definitions

* `UnitLoader.UnitName.isForbidden` — the characters that no name holds that can be imported.
* `UnitLoader.LoadError.MisjudgesName` — an error refuses a name that can be imported.

## Main results

* `UnitLoader.UnitName.isImportable_iff` — how the two checks differ.
* `UnitLoader.import?_ne_unitName` — a name that can be imported is not refused.
* `UnitLoader.installSettings_unitName` — when installing fails because of a name.
-/

set_option relaxedAutoImplicit false
set_option autoImplicit false

namespace UnitLoader

variable {a : Ambient} {l : Loader} {name : String} {h : Host}

/-! ## The two checks -/

/-- A character that is no separator is in the text if it is in one of its pieces. -/
lemma Text.exists_mem_pieces_iff {sep c : Char} (hc : c ≠ sep) (text : List Char) :
    (∃ p ∈ pieces sep text, c ∈ p) ↔ c ∈ text := by
  induction text with
  | nil => simp
  | cons d cs ih =>
    by_cases hd : d = sep
    · subst hd
      rw [pieces_cons_sep, List.exists_mem_cons_iff, ih]
      simp [hc]
    · have hcut : pieces sep cs = (cut sep cs).1 :: (cut sep cs).2 := rfl
      rw [hcut, List.exists_mem_cons_iff] at ih
      rw [pieces_cons_of_ne hd, List.exists_mem_cons_iff, List.mem_cons, List.mem_cons, or_assoc,
        ih]

namespace UnitName

/-- A character that no name holds that can be imported. -/
def isForbidden (c : Char) : Bool :=
  c = '/' || c = '\\' || c = '\x00' || Text.isBlank c

/-- A segment of a unit's name is not empty and has no character that is forbidden. -/
lemma isSegment_iff (segment : List Char) :
    isSegment segment = true ↔ segment ≠ [] ∧ ∀ c ∈ segment, isForbidden c = false := by
  simp [isSegment, isForbidden, and_assoc]

/-- A name can be imported if no segment of it is empty and it holds no forbidden character. -/
theorem isImportable_iff (name : String) :
    isImportable name = true ↔
      Settings.isUnitName name = true ∧ ∀ c ∈ name.toList, isForbidden c = false := by
  have hdot : isForbidden '.' = false := by decide
  have hmem (c : Char) (hc : isForbidden c = true) :
      (∃ s ∈ segments name, c ∈ s) ↔ c ∈ name.toList := by
    refine Text.exists_mem_pieces_iff ?_ name.toList
    rintro rfl
    rw [hdot] at hc
    cases hc
  simp only [isImportable, Settings.isUnitName, List.all_eq_true, isSegment_iff]
  constructor
  · intro hall
    refine ⟨fun s hs => by simp [(hall s hs).1], fun c hc => ?_⟩
    by_contra hforbidden
    rw [Bool.not_eq_false] at hforbidden
    obtain ⟨s, hs, hcs⟩ := (hmem c hforbidden).2 hc
    rw [(hall s hs).2 c hcs] at hforbidden
    cases hforbidden
  · rintro ⟨hne, hchars⟩ s hs
    refine ⟨by simpa using hne s hs, fun c hc => ?_⟩
    by_contra hforbidden
    rw [Bool.not_eq_false] at hforbidden
    rw [hchars c ((hmem c hforbidden).1 ⟨s, hs, hc⟩)] at hforbidden
    cases hforbidden

end UnitName

open UnitName (isImportable isForbidden)

/-- In settings that pass the check, no segment of the name of a unit is empty. -/
lemma Settings.isUnitName_of_check {s : Settings} (hs : s.check = .ok s) (hn : name ∈ s.preload) :
    isUnitName name = true :=
  List.all_eq_true.1 (s.check_eq_ok_iff.1 hs .preload) name hn

/-! ## Refused names -/

/-- An error refuses a name that can be imported. -/
def LoadError.MisjudgesName (e : LoadError) : Prop :=
  ∃ name, e = .badPath (.unitName name) ∧ isImportable name = true

/-- Only the check of a name that is imported refuses names. -/
lemma LoadError.isForeign_misjudgesName : LoadError.IsForeign LoadError.MisjudgesName where
  access := by
    rintro _ ⟨name, rfl, -⟩
    exact id
  content := by
    rintro _ ⟨name, rfl, -⟩
    exact id
  run := by
    rintro _ ⟨name, rfl, hname⟩
    exact not_not_intro hname

/-- A name that can be imported is not refused, neither when it is imported nor when a program asks
for it meanwhile. -/
theorem import?_ne_unitName (a : Ambient) (l : Loader) (name : String) {other : String}
    (ho : isImportable other = true) :
    (LoadM.exec (import? a name) l).1 ≠ .error (.badPath (.unitName other)) := by
  have hforeign := LoadError.isForeign_misjudgesName
  have hfinds : FindsSparing LoadError.MisjudgesName a l.chain := by
    refine findsSparing_of_isForeign hforeign ?_
    rintro path cached source ⟨_, he, -⟩
    cases he
  exact fun he => (spares_import? hforeign.run hfinds name l rfl).1 _ he ⟨other, rfl, ho⟩

/-! ## Imports in advance -/

namespace SetupM

/-- Names are preloaded one after the other, until one fails. -/
lemma exec_preload_cons (a : Ambient) (name : String) (names : List String) (h : Host) :
    exec (preload a (name :: names)) h = match (LoadM.exec (import? a name) h.loader).1 with
      | .ok _ => exec (preload a names) { h with loader := h.loader.after a name }
      | .error e => (.error (.preload name e), { h with loader := h.loader.after a name }) := by
  rw [preload, List.forM_eq_forM, List.forM_cons, exec_bind, exec_import]
  cases (LoadM.exec (import? a name) h.loader).1 <;> rfl

/-- Imports in advance go on from where those before them ended. -/
lemma exec_preload_append (a : Ambient) (before after : List String) (h : Host) :
    exec (preload a (before ++ after)) h = match exec (preload a before) h with
      | (.ok _, h') => exec (preload a after) h'
      | (.error e, h') => (.error e, h') := by
  induction before generalizing h with
  | nil => rfl
  | cons name before ih =>
    rw [List.cons_append, exec_preload_cons, exec_preload_cons]
    cases (LoadM.exec (import? a name) h.loader).1 with
    | ok _ => exact ih _
    | error e => rfl

/-- If imports in advance fail because of a name, then it is one of theirs and cannot be imported,
and those before it succeeded. -/
lemma exists_of_preload_unitName {names : List String} {h : Host}
    (he : (exec (preload a names) h).1 = .error (.preload name (.badPath (.unitName name)))) :
    ∃ before after, names = before ++ name :: after ∧ (exec (preload a before) h).1 = .ok () ∧
      isImportable name = false := by
  induction names generalizing h with
  | nil => cases he
  | cons first names ih =>
    rw [exec_preload_cons] at he
    cases hfirst : (LoadM.exec (import? a first) h.loader).1 with
    | ok _ =>
      rw [hfirst] at he
      obtain ⟨before, after, rfl, hbefore, hname⟩ := ih he
      refine ⟨first :: before, after, rfl, ?_, hname⟩
      rw [exec_preload_cons, hfirst]
      exact hbefore
    | error e =>
      rw [hfirst] at he
      obtain ⟨rfl, rfl⟩ : first = name ∧ e = .badPath (.unitName name) := by simpa using he
      refine ⟨[], names, rfl, rfl, Bool.eq_false_iff.2 fun hname => ?_⟩
      exact import?_ne_unitName a h.loader first hname hfirst

/-- A name that cannot be imported ends the imports in advance. -/
lemma exec_preload_of_not_isImportable {before : List String} (after : List String)
    (hbefore : (exec (preload a before) h).1 = .ok ()) (hname : isImportable name = false) :
    exec (preload a (before ++ name :: after)) h =
      (.error (.preload name (.badPath (.unitName name))), (exec (preload a before) h).2) := by
  rw [exec_preload_append]
  generalize exec (preload a before) h = r at hbefore
  obtain ⟨result, h'⟩ := r
  obtain rfl : result = .ok () := hbefore
  have himport := exec_import?_of_not_isImportable a h'.loader (Bool.eq_false_iff.1 hname)
  dsimp only
  rw [exec_preload_cons, Loader.after, himport]

/-- Installing fails with the error of an import in advance only where the imports in advance fail
with it: roots that cannot be opened give other errors. -/
lemma exec_preload_of_install {roots names : List String} {limits : List Rights}
    {rules : SuffixRules} {e : LoadError}
    (he : (exec (install a roots limits names rules) h).1 = .error (.preload name e)) :
    (exec (preload a names) h).1 = .error (.preload name e) := by
  rw [exec_install] at he
  generalize exec (preload a names) h = r at he ⊢
  obtain ⟨failure | _, h'⟩ := r
  · rw [Except.error.inj he]
  · cases ho : openRoots a limits rules roots with
    | ok done =>
      rw [ho] at he
      cases he
    | error failure =>
      obtain ⟨root, -, cause, rfl⟩ := exists_of_openRoots_error ho
      rw [ho] at he
      cases he

end SetupM

/-! ## Installing -/

/-- **When installing fails because of a name.** A name can be imported if it passes the check of
settings and holds no slash, backslash, NUL or blank. So if settings pass the check, a unit among
those that are imported in advance whose name holds such a character is refused as soon as those
before it are imported, and installing fails with the process as these left it. And installing fails
because of the name of a unit only in this way.

**Proof sketch.** Names are refused only where a name is imported, and only those that cannot be:
lookups, files and programs give other errors. -/
theorem installSettings_unitName (a : Ambient) (h : Host) {s : Settings} (hs : s.check = .ok s) :
    (∀ name, isImportable name = true ↔
      Settings.isUnitName name = true ∧ ∀ c ∈ name.toList, isForbidden c = false) ∧
    (∀ before name after, s.preload = before ++ name :: after →
      (SetupM.exec (preload a before) h).1 = .ok () → (∃ c ∈ name.toList, isForbidden c = true) →
      SetupM.exec (installSettings a s) h =
        (.error (.preload name (.badPath (.unitName name))),
          (SetupM.exec (preload a before) h).2)) ∧
    ∀ name, (SetupM.exec (installSettings a s) h).1 =
        .error (.preload name (.badPath (.unitName name))) →
      ∃ before after, s.preload = before ++ name :: after ∧
        (SetupM.exec (preload a before) h).1 = .ok () ∧ ∃ c ∈ name.toList, isForbidden c = true := by
  refine ⟨UnitName.isImportable_iff, fun before name after hp hbefore hc => ?_, fun name he => ?_⟩
  · have hname : isImportable name = false := by
      obtain ⟨c, hmem, hforbidden⟩ := hc
      refine Bool.eq_false_iff.2 fun hname => ?_
      rw [((UnitName.isImportable_iff name).1 hname).2 c hmem] at hforbidden
      cases hforbidden
    rw [installSettings, SetupM.exec_install, hp,
      SetupM.exec_preload_of_not_isImportable after hbefore hname]
  · have hpreload := SetupM.exec_preload_of_install he
    obtain ⟨before, after, hp, hbefore, hname⟩ := SetupM.exists_of_preload_unitName hpreload
    refine ⟨before, after, hp, hbefore, ?_⟩
    have hunit : Settings.isUnitName name = true :=
      Settings.isUnitName_of_check hs (by simp [hp])
    by_contra hnone
    rw [(UnitName.isImportable_iff name).2 ⟨hunit, fun c hc => ?_⟩] at hname
    · cases hname
    · exact Bool.eq_false_iff.2 fun hforbidden => hnone ⟨c, hc, hforbidden⟩

/-- The first of two units is imported in advance. The second one's name holds a blank. -/
theorem installSettings_unitName_blank :
    let a : Ambient := ⟨.package "" "x = 1", Tree.root⟩
    let h : Host := { loader := .rooted }
    let s : Settings := { preload := ["p", "p c"] }
    s.check = .ok s ∧ (SetupM.exec (preload a ["p"]) h).1 = .ok () ∧
      SetupM.exec (installSettings a s) h =
        (.error (.preload "p c" (.badPath (.unitName "p c"))), (SetupM.exec (preload a ["p"]) h).2) ∧
      (SetupM.exec (preload a ["p"]) h).2.loader.registry.find? "p" = some 0 := by
  intro a h s
  have hs : s.check = .ok s := by decide
  have hbefore : (SetupM.exec (preload a ["p"]) h).1 = .ok () := by decide +kernel
  have hp : (SetupM.exec (preload a ["p"]) h).2.loader.registry.find? "p" = some 0 := by
    decide +kernel
  have hresult := (installSettings_unitName a h hs).2.1 ["p"] "p c" [] rfl hbefore
    ⟨' ', by decide, by decide⟩
  exact ⟨hs, hbefore, hresult, hp⟩

/-- Settings with a name that holds a blank pass the check, and installing them fails because of that
name. -/
theorem installSettings_refused :
    let a : Ambient := ⟨.package "" "", Tree.root⟩
    let s : Settings := { preload := ["a b"] }
    s.check = .ok s ∧ Settings.isUnitName "a b" = true ∧ UnitName.isImportable "a b" = false ∧
      (SetupM.exec (installSettings a s) {}).1 =
        .error (.preload "a b" (.badPath (.unitName "a b"))) := by
  decide +kernel

end UnitLoader
