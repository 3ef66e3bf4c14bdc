import UnitLoader.Program.Statement
import UnitLoader.Json.Reader

/-!
# Program bodies

The body of a compiled program is its JSON form. A program is an object with the field
`statements`; a statement is an object whose field `op` tells what it is and whose other fields
are its parts; an expression has the fields `kind` and `value`, a value the fields `type` and
`value`. A double that is no number is written `null`.

Reading admits more than is written: fields in any order, further fields, which mean nothing, and
arrays instead of objects, with the tag first and the parts in their order. The tag of an expression
or a value may be, in an object, the only field of an object with nothing in it, and in an array the
place of the tag among all. A field that means something may not be repeated. What a statement is
read from nests at most 127 deep with the program around it and denotes something throughout; in
further fields of the program it only has to be well-formed.

## Main definitions

* `UnitLoader.Program.toJson`, `UnitLoader.Program.ofJson?`.
* `UnitLoader.Program.body`, `UnitLoader.Program.ofBody?`: the same in bytes.
-/

namespace UnitLoader

open Json (ofText valuesOf)

/-! ## Writing -/

/-- An object of a tag and a content. -/
def Json.tagged (tagField : String) (tag : String) (content : Json) : Json :=
  .object [(some tagField, ofText tag), (some "value", content)]

mutual

/-- The JSON form of a value. -/
def Value.toJson : Value → Json
  | .none => .object [(some "type", ofText "None")]
  | .bool b => .tagged "type" "Bool" (.bool b)
  | .int n => .tagged "type" "Int" (.number (some (.integer n.toInt)))
  | .float x => .tagged "type" "Float" (.number (some (.double x)))
  | .str s => .tagged "type" "Str" (ofText s)
  | .list items => .tagged "type" "List" (.array (Value.toJsons items))
  | .unit name => .tagged "type" "Unit" (ofText name)

/-- The JSON forms of values. -/
def Value.toJsons : List Value → List Json
  | [] => []
  | v :: vs => Value.toJson v :: Value.toJsons vs

end

/-- The JSON form of an expression. -/
def Expr.toJson : Expr → Json
  | .literal v => .tagged "kind" "Literal" v.toJson
  | .name n => .tagged "kind" "Name" (ofText n)

/-- The JSON form of a statement. -/
def Statement.toJson : Statement → Json
  | .assign target value =>
    .object [(some "op", ofText "Assign"), (some "target", ofText target),
      (some "value", value.toJson)]
  | .importUnit module newName =>
    .object [(some "op", ofText "Import"), (some "module", ofText module),
      (some "alias", match newName with
        | some a => ofText a
        | none => .null)]
  | .fromImport module names =>
    .object [(some "op", ofText "FromImport"), (some "module", ofText module),
      (some "names", .array (names.map ofText))]
  | .raise message => .object [(some "op", ofText "Raise"), (some "message", ofText message)]

/-- The JSON form of a program. -/
def Program.toJson (p : Program) : Json :=
  .object [(some "statements", .array (p.statements.map Statement.toJson))]

/-- The text of a program's body. -/
def Program.bodyText (p : Program) : List Char :=
  p.toJson.print

/-- A program's body. -/
def Program.body (p : Program) : Bytes :=
  Text.Utf8.encode p.bodyText

/-! ## Reading -/

/-- The tags of a family: the field that holds one in an object, and their names in order. -/
structure Json.Tags where
  /-- The field that holds the tag. -/
  field : String
  /-- The names, each at its place. -/
  names : List String

/-- The tag that a field holds: a string, or an object with nothing but a field of that name, in
which there is nothing. -/
def Json.tag? : Json → Option String
  | .string s => s
  | .object [(name, .null)] | .object [(name, .object [])] => name
  | _ => none

/-- The tag that an array begins with: a string, or the place of a tag, counted from zero. -/
def Json.Tags.head? (tags : Json.Tags) : Json → Option String
  | .string s => s
  | .number (some (.integer (.ofNat place))) => tags.names[place]?
  | _ => none

/-- The tag and the content of a value that is an object with two such fields, the content left
out on demand, or an array of both. -/
def Json.tagged? (tags : Json.Tags) : Json → Option (String × Option Json)
  | .array [tag, content] => (tags.head? tag).map (·, some content)
  | .object fields =>
    match valuesOf tags.field fields, valuesOf "value" fields with
    | [tag], [] => tag.tag?.map (·, none)
    | [tag], [content] => tag.tag?.map (·, some content)
    | _, _ => none
  | _ => none

/-- The tags of values. -/
def Value.tags : Json.Tags where
  field := "type"
  names := ["None", "Bool", "Int", "Float", "Str", "List", "Unit"]

/-- The tags of expressions. -/
def Expr.tags : Json.Tags where
  field := "kind"
  names := ["Literal", "Name"]

/-- What is found under a key is smaller than the fields it is found in. -/
theorem Json.sizeOf_lt_of_mem_valuesOf {key : String} {fields : List (Option String × Json)}
    {j : Json} (h : j ∈ valuesOf key fields) : sizeOf j < sizeOf fields := by
  obtain ⟨⟨k, v⟩, hf, rfl⟩ := List.mem_map.1 h
  have := List.sizeOf_lt_of_mem (List.mem_filter.1 hf).1
  simp only [Prod.mk.sizeOf_spec] at this ⊢
  omega

/-- The content of a tagged value is smaller than the value. -/
theorem Json.sizeOf_lt_of_tagged? {tags : Json.Tags} {tag : String} {j content : Json}
    (h : j.tagged? tags = some (tag, some content)) : sizeOf content < sizeOf j := by
  unfold Json.tagged? at h
  split at h
  · simp only [Option.map_eq_some_iff, Prod.mk.injEq, Option.some.injEq] at h
    obtain ⟨_, _, _, rfl⟩ := h
    simp
    omega
  · split at h
    · simp at h
    · next hv =>
      simp only [Option.map_eq_some_iff, Prod.mk.injEq, Option.some.injEq] at h
      obtain ⟨_, _, _, rfl⟩ := h
      have := Json.sizeOf_lt_of_mem_valuesOf (hv ▸ List.mem_singleton_self _)
      simp
      omega
    · simp at h
  · simp at h

/-- An item of the array that a tag has is smaller than the tagged value. -/
theorem Json.sizeOf_item_lt {tags : Json.Tags} {tag : String} {j item : Json} {items : List Json}
    (h : j.tagged? tags = some (tag, some (.array items))) (hi : item ∈ items) :
    sizeOf item < sizeOf j := by
  have h₁ := Json.sizeOf_lt_of_tagged? h
  have h₂ := List.sizeOf_lt_of_mem hi
  simp only [Json.array.sizeOf_spec] at h₁
  omega

/-- The double that a number denotes. -/
def Json.Number.toBinary64 : Json.Number → Binary64
  | .integer n => (Binary64.ofNat n.natAbs).withSign (n < 0)
  | .double x => x

/-- A value with the given tag that is no list. -/
def Value.ofScalar? (tag : String) (content : Option Json) : Option Value :=
  match tag, content with
  | "None", .none | "None", some .null => some .none
  | "Bool", some (.bool b) => some (.bool b)
  | "Int", some (.number (some (.integer n))) =>
    if Int64.minValue.toInt ≤ n && n ≤ Int64.maxValue.toInt then some (.int (Int64.ofInt n))
    else .none
  | "Float", some (.number (some n)) => some (.float n.toBinary64)
  | "Str", some (.string (some s)) => some (.str s)
  | "Unit", some (.string (some s)) => some (.unit s)
  | _, _ => .none

/-- The value with the given JSON form. -/
def Value.ofJson? (j : Json) : Option Value :=
  match h : j.tagged? Value.tags with
  | some ("List", some (.array items)) =>
    let values := items.attach.mapM fun ⟨item, hi⟩ =>
      have := Json.sizeOf_item_lt h hi
      Value.ofJson? item
    values.map .list
  | some (tag, content) => Value.ofScalar? tag content
  | .none => .none
termination_by sizeOf j

/-- The expression with the given JSON form. -/
def Expr.ofJson? (j : Json) : Option Expr :=
  match j.tagged? Expr.tags with
  | some ("Literal", some content) => (Value.ofJson? content).map .literal
  | some ("Name", some (.string (some n))) => some (.name n)
  | _ => none

/-- A text that may be left out or be `null`. -/
def Json.optionalText? : List Json → Option (Option String)
  | [] | [.null] => some none
  | [.string (some s)] => some (some s)
  | _ => none

/-- Texts. -/
def Json.texts? (items : List Json) : Option (List String) :=
  items.mapM fun
    | .string s => s
    | _ => none

/-- The statement with the given tag and parts. -/
def Statement.ofParts? (tag : String) (parts : List Json) : Option Statement :=
  match tag, parts with
  | "Assign", [.string (some target), value] => (Expr.ofJson? value).map (.assign target)
  | "Import", [.string (some module), newName] =>
    (Json.optionalText? [newName]).map (.importUnit module)
  | "FromImport", [.string (some module), .array names] =>
    (Json.texts? names).map (.fromImport module)
  | "Raise", [.string (some message)] => some (.raise message)
  | _, _ => none

/-- The fields that hold the parts of a statement with the given tag. -/
def Statement.partFields (tag : String) : List String :=
  if tag = "Assign" then ["target", "value"]
  else if tag = "Import" then ["module", "alias"]
  else if tag = "FromImport" then ["module", "names"]
  else if tag = "Raise" then ["message"]
  else []

/-- The part in the field of the given name. Only an alias may be left out. -/
def Statement.part? (fields : List (Option String × Json)) (name : String) : Option Json :=
  match valuesOf name fields with
  | [j] => some j
  | [] => if name = "alias" then some .null else none
  | _ => none

/-- The statement with the given JSON form. -/
def Statement.ofJson? : Json → Option Statement
  | .array (.string (some tag) :: parts) => Statement.ofParts? tag parts
  | .object fields =>
    match valuesOf "op" fields with
    | [.string (some tag)] => do
      Statement.ofParts? tag (← (Statement.partFields tag).mapM (Statement.part? fields))
    | _ => none
  | _ => none

/-- How deep arrays and objects may nest in a body. -/
def Program.maxDepth : Nat := 127

/-- The program with the given list of statements. -/
def Program.ofStatements? (statements : Json) : Option Program :=
  match statements with
  | .array items =>
    if statements.isReadable && statements.depth < Program.maxDepth then
      (items.mapM Statement.ofJson?).map Program.mk
    else none
  | _ => none

/-- The program with the given JSON form. -/
def Program.ofJson? : Json → Option Program
  | .array [statements] => Program.ofStatements? statements
  | .object fields =>
    if fields.all (·.1.isSome) then
      match valuesOf "statements" fields with
      | [statements] => Program.ofStatements? statements
      | _ => none
    else none
  | _ => none

/-- The program with the given body. -/
def Program.ofBody? (bytes : Bytes) : Option Program :=
  (Json.readBytes? bytes).bind Program.ofJson?

end UnitLoader
