import UnitLoader.Proofs.Loader.Moment

/-!
# What is registered during a load

Only the unit of a program that fails is evicted. So a unit that is registered stays registered,
with its number, unless its program is running; and whatever is registered later is new.

## Main definitions

* `UnitLoader.Registry.Valid` — every name is registered to a unit of that name.

## Main results

* `UnitLoader.Steps.find?_of_not_running` — what is registered and not running stays registered.
* `UnitLoader.Steps.find?_or_new` — what is registered was registered before or is new.
* `UnitLoader.Steps.valid` — loads keep registries valid.
-/

set_option relaxedAutoImplicit false
set_option autoImplicit false

namespace UnitLoader

open UnitLoader.Frame (runningNames)

variable {a : Ambient} {m m' : Moment} {k : Nat}

/-! ## Staying registered -/

/-- A step takes no unit away but one whose program is running. -/
lemma Step.find?_of_not_running (h : Step a k m m') {name : String} {id : UnitId}
    (hr : m.loader.registry.find? name = some id) (hn : name ∉ runningNames m.frames) :
    m'.loader.registry.find? name = some id ∧ name ∉ runningNames m'.frames := by
  have hne : ∀ {other}, m.loader.registry.find? other = none → name ≠ other := by
    rintro other hfree rfl
    simp [hfree] at hr
  cases h with
  | builtin hfree _ | portions hfree _ | register _ hfree =>
    exact ⟨Registry.find?_insertNew_of_some hfree hr, hn⟩
  | begin hfree _ _ =>
    exact ⟨Registry.find?_insertNew_of_some hfree hr, by simpa [runningNames, hne hfree] using hn⟩
  | fail =>
    simp only [runningNames, List.mem_cons, not_or] at hn
    exact ⟨by simpa [Registry.find?_evict, Ne.symm hn.1] using hr, hn.2⟩
  | _ => simp_all [runningNames]

/-- What is registered and not running stays registered. -/
lemma Steps.find?_of_not_running (h : Steps a m m') {name : String} {id : UnitId}
    (hr : m.loader.registry.find? name = some id) (hn : name ∉ runningNames m.frames) :
    m'.loader.registry.find? name = some id ∧ name ∉ runningNames m'.frames := by
  induction h with
  | refl => exact ⟨hr, hn⟩
  | tail _ hstep ih => exact hstep.find?_of_not_running ih.1 ih.2

/-! ## New units -/

/-- A step registers new units only. -/
lemma Step.find?_or_new (h : Step a k m m') :
    m.loader.registry.nextId ≤ m'.loader.registry.nextId ∧
      ∀ name id, m'.loader.registry.find? name = some id →
        m.loader.registry.find? name = some id ∨ m.loader.registry.nextId = id := by
  have hnew : ∀ {r : Registry} {other name : String} {id : UnitId},
      (r.insertNew other).find? name = some id → r.find? name = some id ∨ r.nextId = id :=
    fun hid => (Registry.find?_insertNew_cases hid).symm.imp_right And.right
  cases h with
  | builtin _ _ | portions _ _ | begin _ _ _ | register _ _ =>
    exact ⟨by simp, fun name id hid => hnew hid⟩
  | fail =>
    refine ⟨by simp, fun name id hid => .inl ?_⟩
    exact (Registry.find?_evict_eq_some.1 hid).2
  | _ => exact ⟨by simp, fun name id hid => .inl hid⟩

/-- What is registered was registered before or is new. -/
lemma Steps.find?_or_new (h : Steps a m m') :
    m.loader.registry.nextId ≤ m'.loader.registry.nextId ∧
      ∀ name id, m'.loader.registry.find? name = some id →
        m.loader.registry.find? name = some id ∨ m.loader.registry.nextId ≤ id := by
  induction h with
  | refl => exact ⟨Nat.le_refl _, fun _ _ hid => .inl hid⟩
  | tail _ hstep ih =>
    obtain ⟨hle, hold⟩ := ih
    obtain ⟨hle', hold'⟩ := hstep.find?_or_new
    refine ⟨Nat.le_trans hle hle', fun name id hid => ?_⟩
    rcases hold' name id hid with h | rfl
    · exact hold name id h
    · exact .inr hle

/-! ## Valid registries -/

/-- Every name is registered to a unit of that name. -/
def Registry.Valid (r : Registry) : Prop :=
  ∀ name id, r.find? name = some id → id < r.nextId ∧ (r.unit id).name = name

namespace Registry.Valid

variable {r : Registry}

/-- A new unit leaves a registry valid. -/
lemma insertNew (h : r.Valid) (name : String) : (r.insertNew name).Valid := by
  intro other id hid
  rw [nextId_insertNew, unit_insertNew]
  rcases find?_insertNew_cases hid with ⟨he, rfl⟩ | hr
  · rw [if_pos rfl]
    exact ⟨Nat.lt_succ_self _, he⟩
  · obtain ⟨hlt, hname⟩ := h other id hr
    rw [if_neg (Nat.ne_of_lt hlt)]
    exact ⟨Nat.lt_succ_of_lt hlt, hname⟩

/-- Changing a unit leaves a registry valid, if the unit keeps its name. -/
lemma modify (h : r.Valid) (id : UnitId) {f : LoadedUnit → LoadedUnit}
    (hf : ∀ u, (f u).name = u.name) : (r.modify id f).Valid := by
  intro name other hid
  obtain ⟨hlt, hname⟩ := h name other hid
  rw [nextId_modify, unit_modify]
  refine ⟨hlt, ?_⟩
  split
  · rw [hf, hname]
  · exact hname

/-- An eviction leaves a registry valid. -/
lemma evict (h : r.Valid) (name : String) : (r.evict name).Valid := by
  intro other id hid
  exact h other id (find?_evict_eq_some.1 hid).2

end Registry.Valid

/-- A step keeps a registry valid. -/
lemma Step.valid (h : Step a k m m') (hv : m.loader.registry.Valid) : m'.loader.registry.Valid := by
  cases h with
  | builtin _ _ => exact (hv.insertNew _).modify _ fun u => u.name_becomeBuiltin _
  | portions _ _ | begin _ _ _ => exact (hv.insertNew _).modify _ fun u => u.name_bindMetadata ..
  | register _ _ => exact hv.insertNew _
  | fail => exact hv.evict _
  | bind _ _ => exact hv.modify _ fun u => u.name_bindMetadata ..
  | assign _ | set _ _ | adopt _ _ _ => exact hv.modify _ fun _ => rfl
  | _ => exact hv

/-- Loads keep registries valid. -/
lemma Steps.valid (h : Steps a m m') (hv : m.loader.registry.Valid) :
    m'.loader.registry.Valid := by
  induction h with
  | refl => exact hv
  | tail _ hstep ih => exact hstep.valid ih

end UnitLoader
