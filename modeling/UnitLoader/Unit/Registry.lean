import UnitLoader.Unit.Basic

/-!
# The registry of units

Units are kept by number, in the order in which they came into being, and registered under their
names. A unit that is evicted keeps its number, so that whoever holds it can still use it; a unit
loaded again under the same name has a new one.

## Main definitions

* `UnitLoader.Registry`: registries, with `find?`, `getOrCreate`, `insertNew`, `evict`.
* `UnitLoader.Registry.unit`, `UnitLoader.Registry.modify`: the unit of a number.

## Main results

* `UnitLoader.Registry.find?_evict`, `UnitLoader.Registry.find?_insertNew`: what is registered
  after a change.
* `UnitLoader.Registry.unit_modify`, `UnitLoader.Registry.unit_insertNew`: the units after one.
-/

namespace UnitLoader

/-- The number of a unit. -/
abbrev UnitId := Nat

/-- Units by number, and the numbers of those that are registered by name. -/
structure Registry where
  units : List LoadedUnit := []
  names : Table UnitId := .empty
  deriving Repr

namespace Registry

/-- There is a registry, with nothing in it. -/
instance : Inhabited Registry := ⟨{}⟩

/-- The number of the unit that is registered under a name. -/
def find? (r : Registry) (name : String) : Option UnitId :=
  r.names.get? name

/-- Whether a unit is registered under a name. -/
def contains (r : Registry) (name : String) : Bool :=
  r.names.contains name

/-- The unit of a number. -/
def unit (r : Registry) (id : UnitId) : LoadedUnit :=
  r.units[id]?.getD default

/-- The registry with the unit of a number changed. -/
def modify (r : Registry) (id : UnitId) (f : LoadedUnit → LoadedUnit) : Registry :=
  { r with units := r.units.modify id f }

/-- The number of the next unit. -/
def nextId (r : Registry) : UnitId :=
  r.units.length

/-- The registry with a new unit registered under a name, in place of one that had the name. -/
def insertNew (r : Registry) (name : String) : Registry :=
  ⟨r.units ++ [.ofName name], r.names.insert name r.nextId⟩

/-- The unit that is registered under a name, a new one if there is none, and whether it is new. -/
def getOrCreate (r : Registry) (name : String) : Registry × UnitId × Bool :=
  match r.find? name with
  | some id => (r, id, false)
  | none => (r.insertNew name, r.nextId, true)

/-- The registry without the unit of a name. -/
def evict (r : Registry) (name : String) : Registry :=
  { r with names := r.names.erase name }

/-- The registered names in the order of their characters. -/
def sortedNames (r : Registry) : List String :=
  r.names.sortedNames

/-- The number of registered units. -/
def size (r : Registry) : Nat :=
  r.names.size

/-- The registered units, sorted by name. -/
def sortedUnits (r : Registry) : List LoadedUnit :=
  r.sortedNames.filterMap fun name => (r.find? name).map r.unit

/-! ## What is registered -/

/-- Evicting a name takes that name only. -/
theorem find?_evict (r : Registry) (name other : String) :
    (r.evict name).find? other = if name = other then none else r.find? other := by
  simp [evict, find?, Table.get?_erase]

/-- What is registered after a name was evicted is registered under another name. -/
theorem find?_evict_eq_some {r : Registry} {name other : String} {id : UnitId} :
    (r.evict name).find? other = some id ↔ name ≠ other ∧ r.find? other = some id := by
  rw [find?_evict]
  split <;> simp_all

/-- A new unit has the next number. -/
theorem find?_insertNew (r : Registry) (name other : String) :
    (r.insertNew name).find? other = if name = other then some r.nextId else r.find? other := by
  simp [insertNew, find?, Table.get?_insert]

/-- What is registered after a unit was created is that unit, or was registered before. -/
theorem find?_insertNew_cases {r : Registry} {name other : String} {id : UnitId}
    (h : (r.insertNew name).find? other = some id) :
    (name = other ∧ r.nextId = id) ∨ r.find? other = some id := by
  rw [find?_insertNew] at h
  split at h
  · next he => exact .inl ⟨he, Option.some.inj h⟩
  · exact .inr h

/-- A unit stays registered when another name gets a new one. -/
theorem find?_insertNew_of_some {r : Registry} {name other : String} {id : UnitId}
    (hfree : r.find? other = none) (h : r.find? name = some id) :
    (r.insertNew other).find? name = some id := by
  have hne : other ≠ name := by
    rintro rfl
    simp [hfree] at h
  rw [find?_insertNew, if_neg hne, h]

/-- Changing a unit does not change which units are registered. -/
@[simp]
theorem find?_modify (r : Registry) (id : UnitId) (f : LoadedUnit → LoadedUnit) (name : String) :
    (r.modify id f).find? name = r.find? name := rfl

/-- Evicting a name that is not registered changes nothing. -/
theorem evict_of_find?_none {r : Registry} {name : String} (h : r.find? name = none) :
    r.evict name = r := by
  rw [evict, Table.erase_of_get?_none h]

/-! ## Units by number -/

/-- An eviction leaves the unit itself as it is. -/
@[simp]
theorem unit_evict (r : Registry) (name : String) (id : UnitId) :
    (r.evict name).unit id = r.unit id := rfl

/-- An eviction makes no identity free. -/
@[simp]
theorem nextId_evict (r : Registry) (name : String) : (r.evict name).nextId = r.nextId := rfl

/-- Changing a unit makes no new one. -/
@[simp]
theorem nextId_modify (r : Registry) (id : UnitId) (f : LoadedUnit → LoadedUnit) :
    (r.modify id f).nextId = r.nextId := by
  simp [modify, nextId]

/-- Inserting a unit uses up one identity. -/
@[simp]
theorem nextId_insertNew (r : Registry) (name : String) :
    (r.insertNew name).nextId = r.nextId + 1 := by
  simp [insertNew, nextId]

/-- Changing a unit changes that unit only. -/
theorem unit_modify (r : Registry) (id other : UnitId) (f : LoadedUnit → LoadedUnit) :
    (r.modify id f).unit other =
      if id = other ∧ id < r.nextId then f (r.unit other) else r.unit other := by
  by_cases h : id = other
  · subst h
    by_cases hlt : id < r.units.length <;> simp [unit, modify, nextId, hlt]
  · simp [unit, modify, h]

/-- A new unit has nothing but its name. -/
theorem unit_insertNew (r : Registry) (name : String) (id : UnitId) :
    (r.insertNew name).unit id = if id = r.nextId then .ofName name else r.unit id := by
  by_cases h : id = r.nextId
  · subst h
    simp [unit, insertNew, nextId]
  · have hne : id ≠ r.units.length := h
    by_cases hlt : id < r.units.length
    · simp [unit, insertNew, h, List.getElem?_append_left hlt]
    · have hle : r.units.length ≤ id := Nat.not_lt.1 hlt
      have hout : (r.units ++ [LoadedUnit.ofName name]).length ≤ id := by
        rw [List.length_append, List.length_singleton]
        exact Nat.lt_of_le_of_ne hle (Ne.symm hne)
      simp [unit, insertNew, h, List.getElem?_eq_none hle, List.getElem?_eq_none hout]

/-- Changing one unit leaves every other as it is. -/
theorem unit_modify_of_ne {r : Registry} {id other : UnitId} (h : other ≠ id)
    (f : LoadedUnit → LoadedUnit) : (r.modify other f).unit id = r.unit id := by
  rw [unit_modify, if_neg (by simp [h])]

/-- Creating a unit changes no old one. -/
theorem unit_insertNew_of_lt {r : Registry} {id : UnitId} (h : id < r.nextId) (name : String) :
    (r.insertNew name).unit id = r.unit id := by
  rw [unit_insertNew, if_neg (Nat.ne_of_lt h)]

/-- Describing a new unit changes no old one. -/
theorem unit_modify_insertNew {r : Registry} {id : UnitId} (h : id < r.nextId) (name : String)
    (f : LoadedUnit → LoadedUnit) : ((r.insertNew name).modify r.nextId f).unit id = r.unit id := by
  rw [unit_modify_of_ne (Nat.ne_of_gt h), unit_insertNew_of_lt h]

end Registry

end UnitLoader
