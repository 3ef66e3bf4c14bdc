import Mathlib.Data.List.Induction
import UnitLoader.Native.Scope

/-!
# Scopes that are left in any order

A scope is a value like any other, so that nothing keeps it from being left while one that was
entered after it is still there. Leaving a scope restores what was published when it was entered,
whatever was done meanwhile. So as long as the newest scope is left first, the context of the newest
scope is published; but a scope that is left late brings back a context whose own scope was left
before.

## Main definitions

* `UnitLoader.ScopeAction` — entering a scope and leaving one.
* `UnitLoader.Publication` — what is published, and the scopes that are there.
* `UnitLoader.Publication.NewestFirst` — no scope is left while one that was entered after it is
  there.

## Main results

* `UnitLoader.Publication.current_leave` — what leaving a scope restores.
* `UnitLoader.Publication.IsChained.perform` — leaving the newest scope publishes the next.
* `UnitLoader.Publication.current_performAll` — what is published after any actions.
-/

set_option relaxedAutoImplicit false
set_option autoImplicit false

namespace UnitLoader

/-- Something done with scopes. Scopes are numbered in the order in which they are entered. -/
inductive ScopeAction where
  | enter (context : NativeContext)
  | leave (number : Nat)

/-- The context that is published, and the scopes in the order in which they were entered, each with
the context that it published. Nothing is in the place of a scope that was left. -/
structure Publication where
  current : Option NativeContext := none
  scopes : List (Option (NativeContext × NativeScope)) := []

namespace Publication

variable {p : Publication} {n : Nat} {context : NativeContext} {scope : NativeScope}

/-! ## Actions -/

/-- The scope with a number and the context that it published, if it is there. -/
def scope? (p : Publication) (n : Nat) : Option (NativeContext × NativeScope) :=
  p.scopes[n]?.join

/-- What an action leaves behind. A scope that was left cannot be left again. -/
def perform (p : Publication) : ScopeAction → Publication
  | .enter context =>
    let (current, scope) := NativeScope.enter p.current context
    ⟨current, p.scopes ++ [some (context, scope)]⟩
  | .leave n =>
    match p.scope? n with
    | some (_, scope) => ⟨scope.leave, p.scopes.set n none⟩
    | none => p

/-- What actions leave behind, one after the other. -/
def performAll (p : Publication) (actions : List ScopeAction) : Publication :=
  actions.foldl perform p

/-- Actions that are performed in two parts are performed as in one. -/
lemma performAll_append (p : Publication) (actions more : List ScopeAction) :
    p.performAll (actions ++ more) = (p.performAll actions).performAll more :=
  List.foldl_append

/-- Entering a scope publishes its context, and keeps the one that was published for its end. -/
lemma perform_enter (p : Publication) (context : NativeContext) :
    p.perform (.enter context) = ⟨some context, p.scopes ++ [some (context, ⟨p.current⟩)]⟩ := rfl

/-- Leaving a scope publishes again what it kept. -/
lemma perform_leave (h : p.scope? n = some (context, scope)) :
    p.perform (.leave n) = ⟨scope.previous, p.scopes.set n none⟩ := by
  rw [perform, h]
  rfl

/-- Leaving a scope that is not there changes nothing. -/
lemma perform_leave_of_none (h : p.scope? n = none) : p.perform (.leave n) = p := by
  rw [perform, h]

/-- A scope that is there is in the place of its number. -/
lemma scopes_of_scope? (h : p.scope? n = some (context, scope)) :
    p.scopes[n]? = some (some (context, scope)) :=
  Option.join_eq_some_iff.1 h

/-! ## Leaving in any order -/

/-- A scope that was entered stays what it is until it is left. -/
lemma scopes_perform {x : Option (NativeContext × NativeScope)} (h : p.scopes[n]? = some x)
    (action : ScopeAction) :
    (p.perform action).scopes[n]? = some x ∨ (p.perform action).scopes[n]? = some none := by
  have hlt : n < p.scopes.length := (List.getElem?_eq_some_iff.1 h).1
  cases action with
  | enter context =>
    left
    rw [perform_enter, List.getElem?_append_left hlt, h]
  | leave m =>
    rw [perform]
    split
    · by_cases hm : m = n
      · right
        subst hm
        simp [hlt]
      · left
        simp [hm, h]
    · exact .inl h

/-- A scope that was entered stays what it is until it is left, whatever is done. -/
lemma scopes_performAll {x : Option (NativeContext × NativeScope)} (h : p.scopes[n]? = some x)
    (actions : List ScopeAction) :
    (p.performAll actions).scopes[n]? = some x ∨
      (p.performAll actions).scopes[n]? = some none := by
  induction actions generalizing p x with
  | nil => exact .inl h
  | cons action actions ih =>
    rcases scopes_perform h action with hx | hnone
    · exact ih hx
    · exact .inr ((ih hnone).elim id id)

/-- Leaving a scope restores what was published when it was entered, whatever was done meanwhile. -/
lemma current_leave (p : Publication) (context : NativeContext) (meanwhile : List ScopeAction)
    (h : (((p.perform (.enter context)).performAll meanwhile).scope? p.scopes.length).isSome) :
    (((p.perform (.enter context)).performAll meanwhile).perform
      (.leave p.scopes.length)).current = p.current := by
  obtain ⟨⟨found, scope⟩, hs⟩ := Option.isSome_iff_exists.1 h
  have hentered : (p.perform (.enter context)).scopes[p.scopes.length]? =
      some (some (context, ⟨p.current⟩)) := by
    rw [perform_enter]
    simp
  have hkept := scopes_of_scope? hs
  rcases scopes_performAll hentered meanwhile with hsame | hleft
  · obtain ⟨rfl, rfl⟩ : found = context ∧ scope = ⟨p.current⟩ := by
      simpa [hkept] using hsame
    rw [perform_leave hs]
  · simp [hkept] at hleft

/-! ## Leaving the newest first -/

/-- The context of the newest of some scopes. -/
def newest (scopes : List (Option (NativeContext × NativeScope))) : Option NativeContext :=
  (scopes.filterMap id).getLast?.map Prod.fst

/-- The context of the newest scope is published, and each scope restores that of the newest of
those that were entered before it and are there. -/
structure IsChained (p : Publication) : Prop where
  current : p.current = newest p.scopes
  previous : ∀ n context scope, p.scopes[n]? = some (some (context, scope)) →
    scope.previous = newest (p.scopes.take n)

/-- An action does not leave a scope while one that was entered after it is there. -/
def SparesOlder (p : Publication) : ScopeAction → Prop
  | .enter _ => True
  | .leave n => ∀ m, n < m → p.scope? m = none

/-- No scope is left while one that was entered after it is there. -/
def NewestFirst (p : Publication) : List ScopeAction → Prop
  | [] => True
  | action :: actions => p.SparesOlder action ∧ (p.perform action).NewestFirst actions

/-- A scope that was entered last is the newest. -/
lemma newest_concat (scopes : List (Option (NativeContext × NativeScope)))
    (x : NativeContext × NativeScope) : newest (scopes ++ [some x]) = some x.1 := by
  simp [newest, List.filterMap_append]

/-- Scopes that were left are passed over. -/
lemma newest_append_of_left {scopes left : List (Option (NativeContext × NativeScope))}
    (h : ∀ x ∈ left, x = none) : newest (scopes ++ left) = newest scopes := by
  have hnothing : left.filterMap id = [] := by
    rw [List.filterMap_eq_nil_iff]
    exact h
  rw [newest, List.filterMap_append, hnothing, List.append_nil, newest]

/-- A scope that was left is as good as one that was never entered. -/
lemma join_concat_none (scopes : List (Option (NativeContext × NativeScope))) (n : Nat) :
    (scopes ++ [none])[n]?.join = scopes[n]?.join := by
  rw [List.getElem?_append]
  split
  · rfl
  · rw [List.getElem?_eq_none (l := scopes) (by omega), List.getElem?_singleton]
    split <;> rfl

/-- The newest scope is one that is there, while none that was entered after it is. -/
lemma newest_eq_some_iff {scopes : List (Option (NativeContext × NativeScope))} :
    newest scopes = some context ↔
      ∃ (n : Nat) (scope : NativeScope), scopes[n]?.join = some (context, scope) ∧
        ∀ m : Nat, n < m → scopes[m]?.join = none := by
  induction scopes using List.reverseRecOn with
  | nil => simp [newest]
  | append_singleton scopes x ih =>
    cases x with
    | none =>
      rw [newest_append_of_left (by simp), ih]
      simp only [join_concat_none]
    | some x =>
      have hlast : (scopes ++ [some x])[scopes.length]?.join = some x := by simp
      have hbeyond (m : Nat) (hm : scopes.length < m) :
          (scopes ++ [some x])[m]?.join = none := by
        rw [List.getElem?_eq_none (by simp; omega)]
        rfl
      rw [newest_concat]
      constructor
      · intro h
        obtain rfl : x.1 = context := Option.some.inj h
        exact ⟨scopes.length, x.2, hlast, hbeyond⟩
      · rintro ⟨n, scope, hn, hnewest⟩
        rcases Nat.lt_trichotomy n scopes.length with hlt | rfl | hgt
        · rw [hnewest scopes.length hlt] at hlast
          cases hlast
        · rw [hlast] at hn
          rw [Option.some.inj hn]
        · rw [hbeyond n hgt] at hn
          cases hn

/-- At the start, when nothing was entered, scopes are chained. -/
lemma isChained_start : IsChained {} where
  current := rfl
  previous := by simp

/-- Entering a scope leaves scopes chained. -/
lemma IsChained.enter (h : p.IsChained) (context : NativeContext) :
    (p.perform (.enter context)).IsChained := by
  rw [perform_enter]
  refine ⟨(newest_concat p.scopes (context, ⟨p.current⟩)).symm, fun n found scope hn => ?_⟩
  rcases Nat.lt_trichotomy n p.scopes.length with hlt | rfl | hgt
  · rw [List.getElem?_append_left hlt] at hn
    rw [List.take_append_of_le_length (Nat.le_of_lt hlt)]
    exact h.previous n found scope hn
  · obtain ⟨-, rfl⟩ : context = found ∧ ⟨p.current⟩ = scope := by simpa using hn
    rw [List.take_left]
    exact h.current
  · rw [List.getElem?_eq_none (by simp; omega)] at hn
    cases hn

/-- Leaving the newest scope publishes the context of the next. -/
lemma IsChained.leave (h : p.IsChained) (hs : p.scope? n = some (context, scope))
    (hnewest : ∀ m, n < m → p.scope? m = none) : (p.perform (.leave n)).IsChained := by
  have hn := scopes_of_scope? hs
  have hlt : n < p.scopes.length := (List.getElem?_eq_some_iff.1 hn).1
  rw [perform_leave hs]
  refine ⟨?_, fun m found scope' hm => ?_⟩
  · -- Nothing is there behind the scope that is left, so the newest is the newest before it.
    have hset : p.scopes.set n none = p.scopes.take n ++ none :: p.scopes.drop (n + 1) :=
      List.set_eq_take_append_cons_drop .. |>.trans (if_pos hlt)
    rw [h.previous n context scope hn]
    dsimp only
    rw [hset, newest_append_of_left]
    intro x hx
    rcases List.mem_cons.1 hx with rfl | hx
    · rfl
    · obtain ⟨i, hi⟩ := List.mem_iff_getElem?.1 hx
      rw [List.getElem?_drop] at hi
      have hleft := hnewest (n + 1 + i) (by omega)
      rw [scope?, hi] at hleft
      simpa using hleft
  · dsimp only at hm ⊢
    have hne : n ≠ m := by
      rintro rfl
      simp [hlt] at hm
    rw [List.getElem?_set_ne hne] at hm
    have hle : m ≤ n := by
      by_contra hgt
      have hleft := hnewest m (by omega)
      rw [scope?, hm] at hleft
      cases hleft
    rw [List.take_set_of_le hle]
    exact h.previous m found scope' hm

/-- An action that leaves no scope but the newest leaves scopes chained. -/
lemma IsChained.perform (h : p.IsChained) {action : ScopeAction} (ha : p.SparesOlder action) :
    (p.perform action).IsChained := by
  cases action with
  | enter context => exact h.enter context
  | leave n =>
    cases hs : p.scope? n with
    | some x => exact h.leave hs ha
    | none =>
      rw [perform_leave_of_none hs]
      exact h

/-- Scopes that are left newest first stay chained. -/
lemma IsChained.performAll {actions : List ScopeAction} (h : p.IsChained)
    (hfirst : p.NewestFirst actions) : (p.performAll actions).IsChained := by
  induction actions generalizing p with
  | nil => exact h
  | cons action actions ih => exact ih (h.perform hfirst.1) hfirst.2

/-! ## What is published -/

/-- **What is published after any actions.** Leaving a scope restores what was published when it was
entered, in whatever order scopes are left. If no scope is left while one that was entered after it
is there, then a context is published if its scope is there and is the newest, and only then; so
nothing is published when no scope is there.

**Proof sketch.** A scope that was entered stays what it is until it is left. In the second part
the scopes that are there form a chain, in which each restores the context of the next (`IsChained`):
a scope that is entered comes on top of it, and the one on top is left. -/
theorem current_performAll (actions : List ScopeAction) :
    (∀ before context meanwhile, actions = before ++ .enter context :: meanwhile →
      (performAll {} actions).scope? (performAll {} before).scopes.length ≠ none →
      ((performAll {} actions).perform
        (.leave (performAll {} before).scopes.length)).current = (performAll {} before).current) ∧
    (NewestFirst {} actions →
      let p := performAll {} actions
      (∀ context, p.current = some context ↔
        ∃ n scope, p.scope? n = some (context, scope) ∧ ∀ m, n < m → p.scope? m = none) ∧
      ((∀ n, p.scope? n = none) → p.current = none)) := by
  refine ⟨?_, fun hfirst => ?_⟩
  · rintro before context meanwhile rfl hs
    rw [performAll_append] at hs ⊢
    exact current_leave _ context meanwhile (Option.isSome_iff_ne_none.2 hs)
  · intro p
    have hp : p.IsChained := isChained_start.performAll hfirst
    have hcurrent (context : NativeContext) : p.current = some context ↔
        ∃ n scope, p.scope? n = some (context, scope) ∧ ∀ m, n < m → p.scope? m = none := by
      rw [hp.current, newest_eq_some_iff]
      rfl
    refine ⟨hcurrent, fun hnone => ?_⟩
    rw [Option.eq_none_iff_forall_ne_some]
    intro context hc
    obtain ⟨n, scope, hs, -⟩ := (hcurrent context).1 hc
    simp [hnone n] at hs

/-- The newer of two scopes is left, so that the other is the newest. -/
theorem current_performAll_nested :
    let outer : NativeContext := { name := "a.outer" }
    let inner : NativeContext := { name := "b.inner" }
    let actions : List ScopeAction := [.enter outer, .enter inner, .leave 1]
    NewestFirst {} actions ∧ (performAll {} actions).current = some outer := by
  intro outer inner actions
  have hnone (m : Nat) (hm : 0 < m) : (performAll {} actions).scope? m = none := by
    rcases m with _ | _ | m
    · contradiction
    · rfl
    · rfl
  have hfirst : NewestFirst {} actions := by
    refine ⟨trivial, trivial, fun m hm => ?_, trivial⟩
    rcases m with _ | _ | m
    · omega
    · omega
    · rfl
  exact ⟨hfirst, ((current_performAll actions).2 hfirst).1 outer |>.2
    ⟨0, ⟨none⟩, rfl, hnone⟩⟩

/-- The older of two scopes is left first. Leaving the other brings the context of the first back,
and no scope is there any more that could be left. -/
theorem current_outlives_scope :
    let outer : NativeContext := { name := "a.outer" }
    let inner : NativeContext := { name := "b.inner" }
    let p := performAll {} [.enter outer, .enter inner, .leave 0, .leave 1]
    p.current = some outer ∧ ∀ n, p.scope? n = none := by
  intro outer inner p
  refine ⟨rfl, fun n => ?_⟩
  rcases n with _ | _ | n <;> rfl

end Publication

end UnitLoader
