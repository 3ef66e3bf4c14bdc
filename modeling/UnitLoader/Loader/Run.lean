import UnitLoader.Loader.Basic

/-!
# Running programs

A program runs in a unit and sets attributes of it. Other units it asks an importer for, which may
run their programs before it answers.

## Main definitions

* `UnitLoader.Importer`: importers, with `recorded`.
* `UnitLoader.Expr.evaluate`, `UnitLoader.Statement.run`, `UnitLoader.Program.run`.
-/

namespace UnitLoader

/-- What a program asks for units by name. -/
abbrev Importer := String → LoadM UnitId

/-- The importer, with what it is asked for and what it gives among the events. -/
def Importer.recorded (importer : Importer) : Importer := fun name => do
  LoadM.note (.asked name)
  let id ← importer name
  LoadM.note (.given name id)
  return id

/-- Give up in a unit. -/
def LoadM.fail {α : Type} (unit : UnitId) (failure : Failure) : LoadM α := do
  throw (.executionFailed (← LoadM.unit unit).name failure)

/-- The value of an attribute of a unit, on behalf of a program that gives up if there is none. -/
def LoadM.attribute (unit : UnitId) (key : String) (missing : LoadM Value) : LoadM Value := do
  match (← LoadM.unit unit).attribute? key with
  | some v => return v
  | none => missing

/-- Follow segments of a name from a value: each is an attribute of the unit that the value before
it refers to. -/
def Value.follow (importer : Importer) (missing : LoadM Value) :
    Value → List (List Char) → LoadM Value
  | v, [] => return v
  | .unit target, segment :: rest => do
    let id ← importer target
    let v ← LoadM.attribute id (String.ofList segment) missing
    v.follow importer missing rest
  | _, _ :: _ => missing

/-- The value of an expression in a unit. -/
def Expr.evaluate (importer : Importer) (unit : UnitId) : Expr → LoadM Value
  | .literal v => return v
  | .name n => do
    let missing := LoadM.fail unit (.undefined n)
    match UnitName.segments n with
    | [] => missing
    | first :: rest => do
      let v ← LoadM.attribute unit (String.ofList first) missing
      v.follow importer missing rest

/-- Set an attribute of a unit. -/
def LoadM.assign (unit : UnitId) (key : String) (value : Value) : LoadM Unit :=
  LoadM.modifyUnit unit (·.setAttribute key value)

/-- The value that a selective import binds: an attribute of the source, or else a reference to a
child of it. -/
def importedValue (importer : Importer) (unit source : UnitId) (module name : String) :
    LoadM Value :=
  LoadM.attribute source name <| tryCatch
    (do
      let child := UnitName.child module name
      discard (importer child)
      return .unit child)
    fun e => if e.isNotFound then LoadM.fail unit (.cannotImport name module) else throw e

/-- Run a statement in a unit. -/
def Statement.run (importer : Importer) (unit : UnitId) : Statement → LoadM Unit
  | .assign target value => do
    let v ← value.evaluate importer unit
    LoadM.assign unit target v
  | .importUnit module newName => do
    discard (importer module)
    match newName with
    | some newName => LoadM.assign unit newName (.unit module)
    | none =>
      let top := UnitName.top module
      LoadM.assign unit top (.unit top)
  | .fromImport module names => do
    let source ← importer module
    names.forM fun name => do
      let v ← importedValue importer unit source module name
      LoadM.assign unit name v
  | .raise message => LoadM.fail unit (.raised message)

/-- Run a program in a unit, up to the first statement that fails. -/
def Program.run (importer : Importer) (unit : UnitId) (p : Program) : LoadM Unit :=
  p.statements.forM (Statement.run (Importer.recorded importer) unit)

end UnitLoader
