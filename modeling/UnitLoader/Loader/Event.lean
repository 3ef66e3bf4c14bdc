import UnitLoader.Unit.Registry

/-!
# Events

What happens to units while a loader works is told by events, the latest first. Programs begin and
end in turn, so that the events tell whose programs are in progress.

Events are for statements on what happened in the course of an import. A loader only records them,
and nothing that it does depends on them.

## Main definitions

* `UnitLoader.Event`: events.
* `UnitLoader.inProgress`: the units whose programs are in progress after events.
-/

namespace UnitLoader

/-- Something that happens to a unit. -/
inductive Event where
  /-- The program of a unit begins to run. -/
  | began (name : String) (unit : UnitId)
  /-- The program of a unit ran to its end. -/
  | ended (name : String) (unit : UnitId)
  /-- The program of a unit failed. -/
  | failed (name : String) (unit : UnitId)
  /-- A running program asks for a unit. -/
  | asked (name : String)
  /-- A running program is given the unit that it asked for. -/
  | given (name : String) (unit : UnitId)
  /-- The native code of a unit, the caller, registers a unit: itself or another. -/
  | registered (name caller : String)
  deriving DecidableEq, Repr

/-- The names of the units whose programs are in progress, the innermost first. The events come
latest first. -/
def inProgress : List Event → List String
  | [] => []
  | .began name _ :: before => name :: inProgress before
  | .ended .. :: before | .failed .. :: before => (inProgress before).tail
  | _ :: before => inProgress before

end UnitLoader
