import Mathlib.Tactic.Lemma
import UnitLoader.Loader.Basic

/-!
# What looking up a name finds

A root is searched directory by directory, and a chain finder by finder. Whatever comes first
decides. It was found beneath a root of one of the finders, for the name that was looked up.

## Main definitions

* `UnitLoader.Resolution.name` — the name that a resolution is for.
* `UnitLoader.Finder.HasRoot` — the roots that a finder looks beneath.

## Main results

* `UnitLoader.resolve_of_find` — what a chain finds is found beneath a root of one of its finders.
* `UnitLoader.name_of_find` — a chain finds resolutions for the name that it is asked for.
-/

set_option relaxedAutoImplicit false
set_option autoImplicit false

namespace UnitLoader

/-- The name that a resolution is for. -/
def Resolution.name : Resolution → String
  | .artifact found _ => found.name
  | .portions name _ => name

variable {a : Ambient} {name : String} {searchPath : Option (List String)} {r : Resolution}

namespace RootFinder

/-- A root finder that is opened has the handle that is opened by the path, with the limits taken
one after the other. -/
lemma of_openRoot {path : String} {rules : SuffixRules} {limits : List Rights} {f : RootFinder}
    (ho : openRoot a path rules limits = .ok f) :
    ∃ h root, Handle.openRoot a path = .ok h ∧ limits.foldlM Handle.limit h = .ok root ∧
      f = { root, rules } := by
  obtain ⟨h, hh, ho⟩ := Outcome.bind_eq_ok.1 ho
  obtain ⟨root, hroot, ho⟩ := Outcome.bind_eq_ok.1 ho
  exact ⟨h, root, hh, hroot, (Except.ok.inj ho).symm⟩

/-- What a search finds has the name that was looked for. -/
lemma name_of_search {rules : SuffixRules} {t : Tree} {tail : String} {hs : List Handle}
    {found : List String} (h : search rules t name tail hs found = .ok (some r)) :
    r.name = name := by
  induction hs generalizing found with
  | nil =>
    rw [search, Except.ok.injEq] at h
    split at h
    · simp at h
    · obtain rfl := Option.some.inj h
      rfl
  | cons handle hs ih =>
    rw [search, Outcome.bind_eq_ok] at h
    obtain ⟨hasDirectory, -, h⟩ := h
    obtain ⟨p?, -, h⟩ := Outcome.bind_eq_ok.1 h
    cases p? with
    | none => exact ih h
    | some p =>
      obtain rfl := Option.some.inj (Except.ok.inj h)
      rfl

/-- What a root finder finds has the name that was looked for. -/
lemma name_of_resolve {f : RootFinder} {t : Tree}
    (h : f.resolve t name searchPath = .ok (some r)) : r.name = name := by
  unfold resolve at h
  extract_lets tail at h
  split at h
  · obtain ⟨hs?, -, h⟩ := Outcome.bind_eq_ok.1 h
    cases hs? with
    | none => simp [pure, Except.pure] at h
    | some hs => exact name_of_search h
  · simp [pure, Except.pure] at h

end RootFinder

namespace Finder

/-- Beneath which root a finder looks, with its rules: the one that it keeps a handle on, or one
that it opens by path. -/
inductive HasRoot (a : Ambient) : Finder → RootFinder → Prop
  | root (f : RootFinder) : HasRoot a (.root f) f
  | ambient {roots : List String} {rules : SuffixRules} {path : String} {f : RootFinder}
      (hp : path ∈ roots) (ho : RootFinder.openRoot a path rules [] = .ok f) :
      HasRoot a (.ambient roots rules) f

/-- What a finder that opens its roots finds, one of these roots finds. -/
lemma resolve_of_findAmbient {rules : SuffixRules} {roots : List String}
    (h : findAmbient a rules name searchPath roots = .ok (some r)) :
    ∃ f, (ambient roots rules).HasRoot a f ∧ f.resolve a.tree name searchPath = .ok (some r) := by
  have hpath : ∃ path ∈ roots, ∃ f, RootFinder.openRoot a path rules [] = .ok f ∧
      f.resolve a.tree name searchPath = .ok (some r) := by
    induction roots with
    | nil => simp [findAmbient] at h
    | cons path paths ih =>
      have hlater (h : findAmbient a rules name searchPath paths = .ok (some r)) :=
        (ih h).imp fun _ => And.imp_left (List.mem_cons_of_mem path)
      rw [findAmbient] at h
      split at h
      · obtain ⟨f, hf, h⟩ := Outcome.bind_eq_ok.1 h
        obtain ⟨r?, hr, h⟩ := Outcome.bind_eq_ok.1 h
        cases r? with
        | none => exact hlater h
        | some r' =>
          obtain rfl := Option.some.inj (Except.ok.inj h)
          exact ⟨path, List.mem_cons_self .., f, hf, hr⟩
      · exact hlater h
  obtain ⟨path, hp, f, hf, hr⟩ := hpath
  exact ⟨f, .ambient hp hf, hr⟩

/-- What a finder finds, one of its roots finds. -/
lemma resolve_of_find {f : Finder} (h : f.find a name searchPath = .ok (some r)) :
    ∃ g, f.HasRoot a g ∧ g.resolve a.tree name searchPath = .ok (some r) := by
  cases f with
  | root f => exact ⟨f, .root f, h⟩
  | ambient roots rules => exact resolve_of_findAmbient h

end Finder

/-- What a chain finds is found beneath a root of one of its finders. -/
theorem resolve_of_find {l : Loader} (h : l.find a name searchPath = .ok (some r)) :
    ∃ f ∈ l.chain, ∃ g, f.HasRoot a g ∧ g.resolve a.tree name searchPath = .ok (some r) := by
  rw [Loader.find] at h
  generalize l.chain = fs at h ⊢
  induction fs with
  | nil => simp [findInChain] at h
  | cons f fs ih =>
    obtain ⟨r?, hr, h⟩ := Outcome.bind_eq_ok.1 h
    cases r? with
    | none =>
      obtain ⟨f', hf', hg⟩ := ih h
      exact ⟨f', List.mem_cons_of_mem f hf', hg⟩
    | some r' =>
      obtain rfl := Option.some.inj (Except.ok.inj h)
      exact ⟨f, List.mem_cons_self .., Finder.resolve_of_find hr⟩

/-- A chain finds resolutions for the name that it is asked for. -/
theorem name_of_find {l : Loader} (h : l.find a name searchPath = .ok (some r)) :
    r.name = name := by
  obtain ⟨f, -, g, -, hr⟩ := resolve_of_find h
  exact RootFinder.name_of_resolve hr

end UnitLoader
