import UnitLoader.Gate
import UnitLoader.Native.HostCall
import UnitLoader.Unit.Registry

/-!
# The context of native code

While the entry point of a native library runs, a context is published that tells which unit is
being loaded. Native code knows the short name of its unit only; in the context that name stands
for the full one. Publishing a context gives a scope, which keeps the context published before and
restores it when it is left.

## Main definitions

* `UnitLoader.NativeContext`: contexts, with `qualify`.
* `UnitLoader.NativeScope`: scopes, with `enter` and `leave`.
* `UnitLoader.HostCall.perform`: what a call does and returns.
-/

namespace UnitLoader

/-- What native code can reach of the host. -/
structure NativeContext where
  /-- The full name of the unit that is being loaded. -/
  name : String
  /-- Which of the registries there are, by number, takes the units. -/
  registry : Nat := 0
  /-- Which gate's depth can be asked for, by number. -/
  gate : Option Nat := none
  /-- The unit registered last. -/
  registered : Option UnitId := none
  deriving DecidableEq, Repr

/-- The full name that a requested name stands for. -/
def NativeContext.qualify (c : NativeContext) (requested : String) : String :=
  if requested = UnitName.short c.name then c.name else requested

/-- Keeps what was published before a context. -/
structure NativeScope where
  previous : Option NativeContext
  deriving DecidableEq, Repr

namespace NativeScope

/-- Publish a context in place of the current one. -/
def enter (current : Option NativeContext) (context : NativeContext) :
    Option NativeContext × NativeScope :=
  (some context, ⟨current⟩)

/-- What is published after a scope is left. -/
def leave (s : NativeScope) : Option NativeContext :=
  s.previous

/-- Leaving a scope restores what was published when it was entered. -/
theorem leave_enter (current : Option NativeContext) (context : NativeContext) :
    (enter current context).2.leave = current := rfl

end NativeScope

/-- The return code of a call that did what it was asked for. -/
def HostCall.done : Int := 0

/-- The return code of a call that did nothing. -/
def HostCall.refused : Int := -1

/-- What a call leaves: the published context, the registry of it, and the return code. -/
structure HostCall.Result where
  context : Option NativeContext
  registry : Registry
  code : Int
  deriving Repr

namespace HostCall

/-- A call that does nothing. -/
def refuse (context : Option NativeContext) (registry : Registry) : Result :=
  ⟨context, registry, refused⟩

/-- Set an attribute of the unit that was registered last in the context. -/
def setAttribute (context : Option NativeContext) (registry : Registry) (key : NativeText)
    (value : Option Value) : Result :=
  match context.bind NativeContext.registered, key, value with
  | some id, some key, some value =>
    ⟨context, registry.modify id (·.setAttribute key value), done⟩
  | _, _, _ => refuse context registry

/-- What a call does with the published context and its registry; the depth is that of the gate of
the context, if it has one. -/
def perform (context : Option NativeContext) (registry : Registry) (depth : Option Nat) :
    HostCall → Result
  | .register name =>
    match context, name with
    | some c, some name =>
      let (registry, id, _) := registry.getOrCreate (c.qualify name)
      ⟨some { c with registered := some id }, registry, done⟩
    | _, _ => refuse context registry
  | .setText key value => setAttribute context registry key (value.map .str)
  | .setInt key value => setAttribute context registry key (some (.int value))
  | .depth =>
    match context.bind NativeContext.gate, depth with
    | some _, some depth => ⟨context, registry, min depth 0x7fffffff⟩
    | _, _ => refuse context registry

/-- What calls do one after the other, and their return codes. -/
def performAll (context : Option NativeContext) (registry : Registry) (depth : Option Nat) :
    List HostCall → Option NativeContext × Registry × List Int
  | [] => (context, registry, [])
  | call :: calls =>
    let r := call.perform context registry depth
    let (context, registry, codes) := performAll r.context r.registry depth calls
    (context, registry, r.code :: codes)

end HostCall

end UnitLoader
