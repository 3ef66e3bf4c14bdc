import UnitLoader.Number.Binary64

/-!
# Programs

A unit's body is a program of statements that bind names to values, import other units, or give
up. Values are plain data and references to units by name.

## Main definitions

* `UnitLoader.Value`, `UnitLoader.Expr`, `UnitLoader.Statement`, `UnitLoader.Program`.
-/

namespace UnitLoader

/-- What a name of a unit is bound to. -/
inductive Value where
  | none
  | bool (b : Bool)
  | int (n : Int64)
  | float (x : Binary64)
  | str (s : String)
  | list (items : List Value)
  /-- A unit, by its qualified name. -/
  | unit (name : String)
  deriving Repr, Inhabited

/-- The right-hand side of an assignment. -/
inductive Expr where
  | literal (v : Value)
  /-- A name with dots on demand, looked up when the statement runs. -/
  | name (n : String)
  deriving Repr

/-- A statement. -/
inductive Statement where
  /-- Bind a name. -/
  | assign (target : String) (value : Expr)
  /-- Import a unit and bind it under the new name, or bind its outermost parent. -/
  | importUnit (module : String) (newName : Option String)
  /-- Import a unit and bind attributes or children of it. -/
  | fromImport (module : String) (names : List String)
  /-- Give up with a message. -/
  | raise (message : String)
  deriving Repr

/-- The statements of a unit's body, in the order in which they run. -/
structure Program where
  statements : List Statement
  deriving Repr

end UnitLoader
