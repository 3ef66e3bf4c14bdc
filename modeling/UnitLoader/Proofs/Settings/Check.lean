import Mathlib.Tactic.Lemma
import UnitLoader.Settings.Basic

/-!
# What the check of settings asks for

The check looks at every setting by itself. So settings that are taken one by one from settings that
pass it pass it too.

## Main definitions

* `UnitLoader.Setting` — the settings, by name.
* `UnitLoader.Settings.isFine` — whether the value of a setting passes the check.
* `UnitLoader.Settings.assemble` — settings taken one by one from others.

## Main results

* `UnitLoader.Settings.check_eq_ok_iff` — what passing the check means.
* `UnitLoader.Settings.check_assemble` — settings taken from checked ones are checked.
-/

set_option relaxedAutoImplicit false
set_option autoImplicit false

namespace UnitLoader

/-- The settings, by name. -/
inductive Setting where
  | roots
  | preload
  | native
  | source
  | compiled
  | initializer
  | granted
  | skipVariable
  | evictAfter
  | level
  deriving DecidableEq, Repr

namespace Settings

/-- Whether the value of a setting passes the check. -/
def isFine (s : Settings) : Setting → Bool
  | .roots => true
  | .preload => s.preload.all isUnitName
  | .native => s.rules.native.all isSuffix
  | .source => s.rules.source ≠ [] && s.rules.source.all isSuffix
  | .compiled => s.rules.compiled.all isSuffix
  | .initializer => isInitializer s.rules.initializer
  | .granted => !s.granted.any isBlank
  | .skipVariable => s.skipVariable ≠ ""
  | .evictAfter => s.evictAfter.all isUnitName
  | .level => s.level ∈ levels

/-- Nothing is wrong with settings iff nothing is wrong with any of them. -/
lemma faults_eq_nil_iff (s : Settings) : s.faults = [] ↔ ∀ x, s.isFine x = true := by
  simp only [faults, suffixes, SuffixRules.candidates, List.append_eq_nil_iff, List.map_eq_nil_iff,
    List.filter_eq_nil_iff]
  constructor
  · rintro ⟨⟨⟨⟨⟨⟨hlevel, hsource⟩, hsuffixes⟩, hinitializer⟩, hnames⟩, hrights⟩, hvariable⟩ x
    cases x <;> simp_all [isFine]
  · intro h
    have hsource : s.rules.source ≠ [] ∧ ∀ suffix ∈ s.rules.source, isSuffix suffix = true := by
      simpa [isFine] using h .source
    have hsuffix : ∀ suffix,
        suffix ∈ s.rules.native ∨ suffix ∈ s.rules.source ∨ suffix ∈ s.rules.compiled →
          isSuffix suffix = true := by
      rintro suffix (hs | hs | hs)
      · exact List.all_eq_true.1 (h .native) suffix hs
      · exact hsource.2 suffix hs
      · exact List.all_eq_true.1 (h .compiled) suffix hs
    have hname : ∀ name, name ∈ s.preload ∨ name ∈ s.evictAfter → isUnitName name = true := by
      rintro name (hname | hname)
      · exact List.all_eq_true.1 (h .preload) name hname
      · exact List.all_eq_true.1 (h .evictAfter) name hname
    have hlevel := h .level
    have hinitializer := h .initializer
    have hrights := h .granted
    have hvariable := h .skipVariable
    refine ⟨⟨⟨⟨⟨⟨?_, ?_⟩, ?_⟩, ?_⟩, ?_⟩, ?_⟩, ?_⟩ <;> simp_all [isFine, Function.comp_def]

/-- Settings pass the check iff each of them does. -/
theorem check_eq_ok_iff (s : Settings) : s.check = .ok s ↔ ∀ x, s.isFine x = true := by
  rw [← faults_eq_nil_iff, check]
  split <;> simp_all

/-! ## Settings from several -/

/-- Settings that are taken one by one from others. -/
def assemble (pick : Setting → Settings) : Settings where
  roots := (pick .roots).roots
  preload := (pick .preload).preload
  rules :=
    { native := (pick .native).rules.native
      source := (pick .source).rules.source
      compiled := (pick .compiled).rules.compiled
      initializer := (pick .initializer).rules.initializer }
  granted := (pick .granted).granted
  skipVariable := (pick .skipVariable).skipVariable
  evictAfter := (pick .evictAfter).evictAfter
  level := (pick .level).level

/-- Settings that are assembled pass a check if those that its value was taken from do. -/
lemma isFine_assemble (pick : Setting → Settings) (x : Setting) :
    (assemble pick).isFine x = (pick x).isFine x := by
  cases x <;> rfl

/-- Settings that are taken one by one from settings that pass the check pass it too. -/
theorem check_assemble {pick : Setting → Settings} (h : ∀ x, (pick x).check = .ok (pick x)) :
    (assemble pick).check = .ok (assemble pick) := by
  refine (check_eq_ok_iff _).2 fun x => ?_
  rw [isFine_assemble]
  exact (check_eq_ok_iff _).1 (h x) x

end Settings

end UnitLoader
