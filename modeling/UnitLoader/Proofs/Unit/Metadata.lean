import Mathlib.Tactic.Lemma
import UnitLoader.Unit.Basic

/-!
# What a unit tells of itself

What is known of a unit is kept twice: in its fields, for the loader, and in four attributes, for
programs. Three operations change a unit, and each of them touches another part of the two. As long
as nobody sets one of the four attributes by hand, they tell what the fields say, in whatever order
the operations come.

## Main definitions

* `UnitLoader.LoadedUnit.Change` — the operations on a unit, with `apply` and `applyAll`.
* `UnitLoader.LoadedUnit.TellsItself` — the four attributes tell what the fields say.

## Main results

* `UnitLoader.LoadedUnit.TellsItself.apply` — an operation keeps this so.
* `UnitLoader.LoadedUnit.metadata_applyAll` — it is so after any operations on a new unit.
-/

set_option relaxedAutoImplicit false
set_option autoImplicit false

namespace UnitLoader.LoadedUnit

variable {u : LoadedUnit} {bound : Bool}

/-! ## Operations -/

/-- The keys of the attributes that tell what is known of a unit. -/
def metadataKeys : List String :=
  [nameKey, fileKey, packageKey, pathKey]

/-- An operation on a unit. -/
inductive Change where
  | setAttribute (key : String) (value : Value)
  | bindMetadata (origin : Option String) (kind : Option ArtifactKind)
      (locations : Option (List String))
  | setOrigin (origin : Option String)

namespace Change

/-- The unit after an operation. -/
def apply (u : LoadedUnit) : Change → LoadedUnit
  | setAttribute key value => u.setAttribute key value
  | bindMetadata origin kind locations => u.bindMetadata origin kind locations
  | setOrigin origin => u.setOrigin origin

/-- The unit after operations, one after the other. -/
def applyAll (u : LoadedUnit) (changes : List Change) : LoadedUnit :=
  changes.foldl apply u

/-- None of the attributes that tell what is known of a unit is set by hand. -/
def IsPlain : Change → Prop
  | setAttribute key _ => key ∉ metadataKeys
  | _ => True

/-- Whether all metadata is bound, the name of the unit around included. -/
def bindsAll : Change → Bool
  | bindMetadata .. => true
  | _ => false

end Change

/-! ## Two accounts of a unit -/

/-- The attributes of a unit tell what its fields say. The name of the unit around is told if
metadata was bound, and only then. -/
structure TellsItself (u : LoadedUnit) (bound : Bool) : Prop where
  name : u.attribute? nameKey = some (.str u.name)
  file : u.attribute? fileKey = u.origin.map .str
  path : u.attribute? pathKey = if u.isContainer then some (locationsValue u.locations) else none
  package : u.attribute? packageKey =
    if bound then some (.str ((UnitName.parent? u.name).getD "")) else none

namespace TellsItself

/-- Of a new unit nothing is known but its name. -/
lemma ofName (name : String) : (ofName name).TellsItself false where
  name := Table.get?_insert_self _ _ _
  file := rfl
  path := rfl
  package := rfl

/-- An attribute of another key has no part in this. -/
lemma setAttribute (h : u.TellsItself bound) {key : String} (hkey : key ∉ metadataKeys)
    (value : Value) : (u.setAttribute key value).TellsItself bound := by
  simp only [metadataKeys, List.mem_cons, List.not_mem_nil, or_false, not_or] at hkey
  obtain ⟨hname, hfile, hpackage, hpath⟩ := hkey
  constructor
  · rw [attribute?_setAttribute, if_neg hname, h.name]
    rfl
  · rw [attribute?_setAttribute, if_neg hfile, h.file]
    rfl
  · rw [attribute?_setAttribute, if_neg hpath, h.path]
    rfl
  · rw [attribute?_setAttribute, if_neg hpackage, h.package]
    rfl

/-- All four attributes are told anew when metadata is bound, except that without locations a
container keeps those that it has. -/
lemma bindMetadata (h : u.TellsItself bound) (origin : Option String) (kind : Option ArtifactKind)
    (locations : Option (List String)) :
    (u.bindMetadata origin kind locations).TellsItself true := by
  have hpath := attribute?_bindMetadata u origin kind locations pathKey
  rw [if_pos rfl, h.path] at hpath
  constructor
  · rw [attribute?_bindMetadata, name_bindMetadata]
    simp [pathKey, fileKey, packageKey, nameKey]
  · have horigin : (u.bindMetadata origin kind locations).origin = origin := by
      cases locations <;> rfl
    rw [attribute?_bindMetadata, horigin]
    simp [pathKey, fileKey]
  · cases locations with
    | some found => exact hpath
    | none => exact hpath.trans (Option.none_or ..)
  · rw [attribute?_bindMetadata, name_bindMetadata]
    simp [pathKey, fileKey, packageKey]

/-- The origin changes in both places at once. -/
lemma setOrigin (h : u.TellsItself bound) (origin : Option String) :
    (u.setOrigin origin).TellsItself bound := by
  have hfound (key : String) : (u.setOrigin origin).attribute? key =
      if fileKey = key then origin.map .str else u.attribute? key :=
    get?_withFile u.attributes origin key
  constructor
  · rw [hfound, if_neg (by decide), h.name]
    rfl
  · rw [hfound, if_pos rfl]
    rfl
  · rw [hfound, if_neg (by decide), h.path]
    rfl
  · rw [hfound, if_neg (by decide), h.package]
    rfl

/-- An operation that sets none of the four attributes by hand keeps them in keeping with the
fields. -/
lemma apply (h : u.TellsItself bound) {c : Change} (hc : c.IsPlain) :
    (c.apply u).TellsItself (bound || c.bindsAll) := by
  cases c with
  | setAttribute key value => simpa [Change.apply, Change.bindsAll] using h.setAttribute hc value
  | bindMetadata origin kind locations =>
    simpa [Change.apply, Change.bindsAll] using h.bindMetadata origin kind locations
  | setOrigin origin => simpa [Change.apply, Change.bindsAll] using h.setOrigin origin

/-- So do any operations, one after the other. -/
lemma applyAll {changes : List Change} (h : u.TellsItself bound)
    (hplain : ∀ c ∈ changes, c.IsPlain) :
    (Change.applyAll u changes).TellsItself (bound || changes.any Change.bindsAll) := by
  induction changes generalizing u bound with
  | nil =>
    rw [List.any_nil, Bool.or_false]
    exact h
  | cons c changes ih =>
    obtain ⟨hc, hrest⟩ := List.forall_mem_cons.1 hplain
    rw [List.any_cons, ← Bool.or_assoc]
    exact ih (h.apply hc) hrest

end TellsItself

/-- Operations keep the name. -/
lemma name_applyAll (u : LoadedUnit) (changes : List Change) :
    (Change.applyAll u changes).name = u.name := by
  induction changes generalizing u with
  | nil => rfl
  | cons c changes ih =>
    have hc : (c.apply u).name = u.name := by
      cases c with
      | setAttribute key value => rfl
      | bindMetadata origin kind locations => exact u.name_bindMetadata origin kind locations
      | setOrigin origin => rfl
    exact (ih (c.apply u)).trans hc

/-! ## New units -/

/-- **What a unit tells of itself.** After any operations on a new unit that set none of the four
attributes by hand, the name is told; the origin is told if there is one, and only then; of a
container exactly its locations are told, and of no other unit any; and from when metadata was bound
first, the name of the unit around is told, or the empty text if there is none. Setting an attribute
of whatever key changes nothing but attributes.

**Proof sketch.** The attributes tell what the fields say of a new unit, and each operation keeps
this so (`TellsItself.apply`): it changes a field and the attribute that tells it together, or
neither. -/
theorem metadata_applyAll (name : String) :
    (∀ changes : List Change, (∀ c ∈ changes, c.IsPlain) →
      let u := Change.applyAll (ofName name) changes
      u.attribute? nameKey = some (.str name) ∧
        u.attribute? fileKey = u.origin.map .str ∧
        u.attribute? pathKey =
          (if u.isContainer then some (locationsValue u.locations) else none) ∧
        u.attribute? packageKey =
          (if changes.any Change.bindsAll then some (.str ((UnitName.parent? name).getD ""))
          else none)) ∧
    ∀ (changes : List Change) (key : String) (value : Value),
      let u := Change.applyAll (ofName name) changes
      let v := u.setAttribute key value
      v.name = name ∧ v.origin = u.origin ∧ v.kind = u.kind ∧ v.isContainer = u.isContainer ∧
        v.locations = u.locations := by
  refine ⟨fun changes hplain => ?_, fun changes key value => ?_⟩
  · intro u
    have hu : u.TellsItself (changes.any Change.bindsAll) := (TellsItself.ofName name).applyAll hplain
    have hname : u.name = name := name_applyAll (ofName name) changes
    exact ⟨hname ▸ hu.name, hu.file, hu.path, hname ▸ hu.package⟩
  · exact ⟨name_applyAll (ofName name) changes, rfl, rfl, rfl, rfl⟩

/-- A container loses its origin and is bound again as a native library, without locations. -/
theorem metadata_applyAll_rebound :
    let changes : List Change :=
      [.bindMetadata (some "/r/p/q/__init__.src") (some .source) (some ["/r/p/q"]),
        .setAttribute "answer" (.bool true), .setOrigin none,
        .bindMetadata (some "/r/p/q.so") (some .nativeLibrary) none]
    let u := Change.applyAll (ofName "p.q") changes
    (∀ c ∈ changes, c.IsPlain) ∧ u.attribute? nameKey = some (.str "p.q") ∧
      u.attribute? fileKey = some (.str "/r/p/q.so") ∧
      u.attribute? pathKey = some (.list [.str "/r/p/q"]) ∧
      u.attribute? packageKey = some (.str "p") := by
  intro changes u
  have hplain : ∀ c ∈ changes, c.IsPlain := by
    simp [changes, Change.IsPlain, metadataKeys, nameKey, fileKey, packageKey, pathKey]
  obtain ⟨hname, hfile, hpath, hpackage⟩ := (metadata_applyAll "p.q").1 changes hplain
  have hparent : UnitName.parent? "p.q" = some "p" := by decide +kernel
  rw [hparent] at hpackage
  exact ⟨hplain, hname, hfile, hpath, hpackage⟩

end UnitLoader.LoadedUnit
