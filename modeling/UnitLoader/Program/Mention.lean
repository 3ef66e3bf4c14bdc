import UnitLoader.Program.Statement
import UnitLoader.Program.UnitName

/-!
# The units that a program mentions

Running a program asks for units by name. The names it can ask for are written in it: in its
imports, and in references to units among its literals.

## Main definitions

* `UnitLoader.Value.mentions`, `UnitLoader.Statement.mentions`, `UnitLoader.Program.mentions`.
* `UnitLoader.UnitName.closure`: names, and the names of all units around them.
-/

namespace UnitLoader

/-- The unit that a value refers to. References inside a list are never followed. -/
def Value.mentions : Value → List String
  | .unit name => [name]
  | _ => []

/-- The units that a statement can ask for. -/
def Statement.mentions : Statement → List String
  | .assign _ (.literal v) => v.mentions
  | .assign _ (.name _) => []
  | .importUnit module _ => [module]
  | .fromImport module names => module :: names.map (UnitName.child module)
  | .raise _ => []

/-- The units that a program can ask for, apart from those that attributes refer to. -/
def Program.mentions (p : Program) : List String :=
  p.statements.flatMap Statement.mentions

/-- Names, and the names of all units around them. -/
def UnitName.closure (names : List String) : List String :=
  names.flatMap UnitName.lineage

end UnitLoader
