/-!
# The reclamation gate

Units are not reclaimed while native code is being loaded, which may hold units that nobody knows
of yet. Suspensions are counted, so that they nest.

## Main definitions

* `UnitLoader.Gate`: the gate, with `suspend`, `resume` and `reclaim?`.
-/

namespace UnitLoader

/-- A gate, by the number of suspensions that hold. -/
structure Gate where
  depth : Nat := 0
  deriving DecidableEq, Repr

namespace Gate

/-- The gate with one more suspension. -/
def suspend (g : Gate) : Gate :=
  ⟨g.depth + 1⟩

/-- The gate with one suspension less. -/
def resume (g : Gate) : Gate :=
  ⟨g.depth - 1⟩

/-- Whether reclamation is suspended. -/
def isSuspended (g : Gate) : Bool :=
  0 < g.depth

/-- What a pass gives, unless reclamation is suspended. -/
def reclaim? {α : Type} (g : Gate) (pass : Gate → α) : Option α :=
  if g.isSuspended then none else some (pass g)

/-- A suspension that is resumed has changed nothing. -/
@[simp]
theorem resume_suspend (g : Gate) : g.suspend.resume = g := rfl

end Gate

end UnitLoader
