import UnitLoader.Text.Quoted
import UnitLoader.Unit.Basic

/-!
# Builtin units

Some units come with the loader itself. They are found before anything in a tree, and all there is
to them is the attributes that they have.

An initializer populates the unit of a builtin. It is told here by the attributes that it sets. An
initializer that does anything else, such as giving its unit locations to search, is left out: so
the unit of a builtin has no origin, is no container, and keeps its name.

## Main definitions

* `UnitLoader.Builtins`: builtin units by name, each with its attributes.
* `UnitLoader.Builtins.standard`: the builtins that there are unless others are chosen.
* `UnitLoader.LoadedUnit.becomeBuiltin`: the unit of a builtin.
-/

namespace UnitLoader

/-- What the initializer of a builtin does: the attributes that it sets, in order. -/
abbrev Bindings := List (String × Value)

/-- Builtin units by name. -/
abbrev Builtins := Table Bindings

namespace Builtins

/-- What a program can learn of the platform. -/
def systemBindings : Bindings :=
  [("platform", .str "linux"), ("arch", .str "x86_64"), ("version", .str "0.1.0")]

/-- The only standard builtin tells of the platform. -/
def standard : Builtins :=
  Table.empty.insert "sys" systemBindings

/-- A table of builtins as it reads in a message: the names in braces. -/
def listing (b : Builtins) : String :=
  "\x7b" ++ ", ".intercalate (b.sortedNames.map Text.quoted) ++ "\x7d"

end Builtins

/-- The unit with the metadata and the attributes of a builtin. -/
def LoadedUnit.becomeBuiltin (u : LoadedUnit) (bindings : Bindings) : LoadedUnit :=
  bindings.foldl (fun u b => u.setAttribute b.1 b.2) (u.bindMetadata none none none)

/-- Becoming a builtin does not change the name of a unit. -/
@[simp]
theorem LoadedUnit.name_becomeBuiltin (u : LoadedUnit) (bindings : Bindings) :
    (u.becomeBuiltin bindings).name = u.name := by
  have h : ∀ u : LoadedUnit,
      (bindings.foldl (fun u b => u.setAttribute b.1 b.2) u).name = u.name := by
    induction bindings with
    | nil => exact fun _ => rfl
    | cons b bindings ih => exact fun u => ih (u.setAttribute b.1 b.2)
  rw [becomeBuiltin, h, name_bindMetadata]

end UnitLoader
