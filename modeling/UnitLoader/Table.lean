/-!
# Tables

A table gives values to names. It keeps the names in the order in which they first came; every
name has at most one value.

## Main definitions

* `UnitLoader.Table`: tables, with `get?`, `insert`, `erase` and `modify`.

## Main results

* `UnitLoader.Table.get?_insert`, `UnitLoader.Table.get?_erase`, `UnitLoader.Table.get?_modify`:
  what is found after a change.
* `UnitLoader.Table.mem_names_iff`: the names are those that have a value.
-/

namespace UnitLoader

/-- Values by name. -/
structure Table (α : Type) where
  entries : List (String × α) := []
  deriving Repr, DecidableEq

namespace Table

variable {α : Type}

/-- The table without names. -/
def empty : Table α := ⟨[]⟩

/-- There is a table, the empty one. -/
instance : Inhabited (Table α) := ⟨empty⟩

/-- The value of a name among entries. -/
def lookup (name : String) : List (String × α) → Option α
  | [] => none
  | (key, a) :: rest => if key = name then some a else lookup name rest

/-- Entries with the value of a name set; a new name comes last. -/
def store (name : String) (value : α) : List (String × α) → List (String × α)
  | [] => [(name, value)]
  | (key, a) :: rest =>
    if key = name then (key, value) :: rest else (key, a) :: store name value rest

/-- The value of a name. -/
def get? (t : Table α) (name : String) : Option α :=
  lookup name t.entries

/-- Whether a name has a value. -/
def contains (t : Table α) (name : String) : Bool :=
  (t.get? name).isSome

/-- The table with the value of a name set. -/
def insert (t : Table α) (name : String) (value : α) : Table α :=
  ⟨store name value t.entries⟩

/-- The table without a name. -/
def erase (t : Table α) (name : String) : Table α :=
  ⟨t.entries.filter fun e => e.1 ≠ name⟩

/-- The table with the value of a name changed, if it has one. -/
def modify (t : Table α) (name : String) (f : α → α) : Table α :=
  ⟨t.entries.map fun e => if e.1 = name then (e.1, f e.2) else e⟩

/-- The names, in the order in which they came. -/
def names (t : Table α) : List String :=
  t.entries.map (·.1)

/-- The names in the order of their characters. -/
def sortedNames (t : Table α) : List String :=
  t.names.mergeSort fun a b => a ≤ b

/-- The number of names. -/
def size (t : Table α) : Nat :=
  t.entries.length

/-- The table of a list of entries, a later value of a name in place of an earlier. -/
def ofList (entries : List (String × α)) : Table α :=
  entries.foldl (fun t e => t.insert e.1 e.2) empty

/-! ## What is found -/

/-- Nothing is found in an empty table. -/
@[simp]
theorem get?_empty (name : String) : (empty : Table α).get? name = none := rfl

/-- Setting a name sets that name only. -/
theorem get?_insert (t : Table α) (name other : String) (value : α) :
    (t.insert name value).get? other = if name = other then some value else t.get? other := by
  obtain ⟨es⟩ := t
  simp only [get?, insert]
  induction es with
  | nil => simp [store, lookup]
  | cons e es ih =>
    by_cases h : e.1 = name <;> by_cases h' : e.1 = other <;> by_cases h'' : name = other <;>
      simp_all [store, lookup]

/-- What was put in under a name is found there. -/
@[simp]
theorem get?_insert_self (t : Table α) (name : String) (value : α) :
    (t.insert name value).get? name = some value := by
  simp [get?_insert]

/-- A new name comes last. -/
theorem entries_insert_of_get?_none {t : Table α} {name : String} (h : t.get? name = none)
    (value : α) : (t.insert name value).entries = t.entries ++ [(name, value)] := by
  obtain ⟨es⟩ := t
  simp only [get?, insert] at h ⊢
  induction es with
  | nil => rfl
  | cons e es ih =>
    by_cases he : e.1 = name
    · simp [lookup, he] at h
    · simp only [lookup, he, if_false] at h
      simp [store, he, ih h]

/-- Erasing a name erases that name only. -/
theorem get?_erase (t : Table α) (name other : String) :
    (t.erase name).get? other = if name = other then none else t.get? other := by
  obtain ⟨es⟩ := t
  simp only [get?, erase]
  induction es with
  | nil => simp [lookup]
  | cons e es ih =>
    by_cases h : e.1 = name <;> by_cases h' : e.1 = other <;> by_cases h'' : name = other <;>
      simp_all [lookup]

/-- Nothing is found under a name that was taken out. -/
@[simp]
theorem get?_erase_self (t : Table α) (name : String) : (t.erase name).get? name = none := by
  simp [get?_erase]

/-- Erasing a name without a value changes nothing. -/
theorem erase_of_get?_none {t : Table α} {name : String} (h : t.get? name = none) :
    t.erase name = t := by
  obtain ⟨es⟩ := t
  simp only [get?, erase, mk.injEq] at h ⊢
  induction es with
  | nil => rfl
  | cons e es ih =>
    by_cases he : e.1 = name
    · simp [lookup, he] at h
    · simp only [lookup, he, if_false] at h
      rw [List.filter_cons_of_pos (by simpa using he), ih h]

/-- Changing the value of a name changes that name only. -/
theorem get?_modify (t : Table α) (name other : String) (f : α → α) :
    (t.modify name f).get? other = if name = other then (t.get? other).map f else t.get? other := by
  obtain ⟨es⟩ := t
  simp only [get?, modify]
  induction es with
  | nil => simp [lookup]
  | cons e es ih =>
    by_cases h : e.1 = name <;> by_cases h' : e.1 = other <;> by_cases h'' : name = other <;>
      simp_all [lookup]

/-- The names of a table are those that have a value. -/
theorem mem_names_iff (t : Table α) (name : String) : name ∈ t.names ↔ (t.get? name).isSome := by
  obtain ⟨es⟩ := t
  simp only [names, get?]
  induction es with
  | nil => simp [lookup]
  | cons e es ih =>
    by_cases h : e.1 = name
    · simp [lookup, h]
    · simp [lookup, h, Ne.symm h, ← ih]

/-- A value that is found is among the entries. -/
theorem mem_entries_of_get? {t : Table α} {name : String} {v : α} (h : t.get? name = some v) :
    (name, v) ∈ t.entries := by
  obtain ⟨es⟩ := t
  simp only [get?] at h ⊢
  induction es with
  | nil => simp [lookup] at h
  | cons e es ih =>
    rw [lookup] at h
    split at h
    · next he =>
      cases h
      exact he ▸ List.mem_cons_self ..
    · exact List.mem_cons_of_mem _ (ih h)

end Table

end UnitLoader
