import UnitLoader.Json.Value

/-!
# Rights

What may be done through a handle on a directory. A handle has either no limit or a set of rights;
limiting it again leaves the rights that both sets have.

## Main definitions

* `UnitLoader.Right`: the rights, with `name`, `ofName`, and a JSON form.
* `UnitLoader.Rights`: sets of rights, with `ofList`, `add` and `inter`.

## Main results

* `UnitLoader.Right.ofJson?_toJson`: the JSON form of a right tells which it is.
* `UnitLoader.Rights.has_inter`: both sets have what their intersection has.
-/

namespace UnitLoader

/-- Something that may be done through a handle. -/
inductive Right where
  /-- Read contents and entries. -/
  | read
  /-- Open names beneath a directory. -/
  | lookup
  /-- Ask what a name leads to. -/
  | fstat
  | seek
  | mmap
  | mmapRx
  | fcntl
  | fstatfs
  | ioctl
  /-- A right that means something to a limiter outside only. -/
  | custom (name : String)
  deriving DecidableEq, Repr

namespace Right

/-- The name of a right. -/
def name : Right → String
  | .read => "read"
  | .lookup => "lookup"
  | .fstat => "fstat"
  | .seek => "seek"
  | .mmap => "mmap"
  | .mmapRx => "mmap_rx"
  | .fcntl => "fcntl"
  | .fstatfs => "fstatfs"
  | .ioctl => "ioctl"
  | .custom name => name

/-- The rights that the loader knows. -/
def known : List Right :=
  [.read, .lookup, .fstat, .seek, .mmap, .mmapRx, .fcntl, .fstatfs, .ioctl]

/-- The right of the given name. -/
def ofName (name : String) : Right :=
  (known.find? (·.name = name)).getD (.custom name)

/-- Whether the loader does not know the right, whatever its name. -/
def isCustom : Right → Bool
  | .custom _ => true
  | _ => false

/-- The JSON form of a right: its name, in an object if it is not known. -/
def toJson (r : Right) : Json :=
  if r.isCustom then .object [(some "custom", Json.ofText r.name)] else Json.ofText r.name

/-- The right with the given JSON form. -/
def ofJson? : Json → Option Right
  | .string (some name) => known.find? (·.name = name)
  | .object [(some "custom", .string (some name))] => some (.custom name)
  | _ => none

/-- The JSON form of a right tells which it is. -/
theorem ofJson?_toJson (r : Right) : ofJson? r.toJson = some r := by
  cases r <;> rfl

end Right

/-- A set of rights. -/
structure Rights where
  members : List Right
  nodup : members.Nodup
  deriving DecidableEq, Repr

namespace Rights

/-- The set without rights. -/
def empty : Rights := ⟨[], List.nodup_nil⟩

/-- There is a set of rights, the empty one. -/
instance : Inhabited Rights := ⟨empty⟩

/-- Whether a right is in the set. -/
def has (s : Rights) (r : Right) : Bool :=
  r ∈ s.members

/-- The set with one more right. -/
def add (s : Rights) (r : Right) : Rights :=
  if h : r ∈ s.members then s else ⟨r :: s.members, List.nodup_cons.2 ⟨h, s.nodup⟩⟩

/-- The set of the rights in a list. -/
def ofList (rs : List Right) : Rights :=
  rs.foldl add empty

/-- The set of the rights with the given names. -/
def ofNames (names : List String) : Rights :=
  ofList (names.map Right.ofName)

/-- The rights that both sets have. -/
def inter (s t : Rights) : Rights :=
  ⟨s.members.filter t.has, s.nodup.filter _⟩

/-- Whether the set has all rights of another. -/
def containsAll (s t : Rights) : Bool :=
  t.members.all s.has

/-- Whether two sets have the same rights. -/
def sameAs (s t : Rights) : Bool :=
  s.containsAll t && t.containsAll s

/-- The number of rights. -/
def size (s : Rights) : Nat :=
  s.members.length

/-- The names of the rights in the order of their characters. -/
def sortedNames (s : Rights) : List String :=
  (s.members.map Right.name).mergeSort fun a b => a ≤ b

/-- All rights that the loader knows. -/
def all : Rights := ofList Right.known

/-- The rights that are needed to load every kind of artifact. -/
def forLoading : Rights :=
  ofList [.read, .lookup, .fstat, .seek, .mmapRx, .mmap, .fcntl, .fstatfs]

/-! ## What is in a set -/

/-- A set with one more right has that one and those that it had. -/
theorem has_add (s : Rights) (r q : Right) : (s.add r).has q = (q = r || s.has q) := by
  unfold add
  split
  · by_cases h : q = r <;> simp_all [has]
  · simp [has]

/-- Both sets have what their intersection has. -/
theorem has_inter (s t : Rights) (r : Right) : (s.inter t).has r = (s.has r && t.has r) := by
  simp [inter, has]

end Rights

end UnitLoader
