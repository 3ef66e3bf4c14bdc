import UnitLoader.Text.Utf8

/-!
# Calls of native code

All that a native library does as far as its units are concerned is the sequence of calls that its
entry point makes to the host. The code of a library is left out, and with it constructors, a call
that depends on what an earlier one returned, and code that does not come to an end.

## Main definitions

* `UnitLoader.HostCall`: the calls.
* `UnitLoader.NativeLibrary`: the entry point that a library exports, and its calls.
* `UnitLoader.NativeLibrary.exports`: whether a symbol is found in a library.
-/

namespace UnitLoader

/-- A text that native code passes. There is none if it passes a null pointer or bytes that are not
UTF-8. -/
abbrev NativeText := Option String

/-- The text of the bytes that a pointer leads to; it ends before the first zero. -/
def NativeText.ofBytes (bytes : Bytes) : NativeText :=
  match Text.Utf8.decode (bytes.takeWhile (· ≠ 0)) with
  | .ok text => some (String.ofList text)
  | .error _ => none

/-- A call to the host. -/
inductive HostCall where
  /-- Register the unit of a name, or take the one that is registered. -/
  | register (name : NativeText)
  /-- Set an attribute of the unit registered last to a text. -/
  | setText (key value : NativeText)
  /-- Set an attribute of the unit registered last to an integer. -/
  | setInt (key : NativeText) (value : Int64)
  /-- Ask how often reclamation is suspended. -/
  | depth
  deriving DecidableEq, Repr

/-- A library, by what its entry point does. -/
structure NativeLibrary where
  /-- What the name of the entry point ends in, if there is one. -/
  entry : Option String
  calls : List HostCall
  deriving DecidableEq, Repr

/-- The symbol of the entry point of the unit with the given short name. -/
def entryPointSymbol (short : String) : String :=
  "capsule_init_" ++ short

/-- The name under which the linker looks for a symbol. A zero at the end of the symbol only ends
it; with a zero before that it has no name. -/
def linkerName? (symbol : String) : Option String :=
  let name :=
    match symbol.toList.reverse with
    | '\x00' :: before => before.reverse
    | _ => symbol.toList
  if '\x00' ∈ name then none else some (String.ofList name)

/-- Whether the linker finds a symbol in a library: the symbol names its entry point. -/
def NativeLibrary.exports (library : NativeLibrary) (symbol : String) : Bool :=
  match library.entry, linkerName? symbol with
  | some entry, some name => entryPointSymbol entry = name
  | _, _ => false

end UnitLoader
