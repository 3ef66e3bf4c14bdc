import UnitLoader.Number.Binary64

/-!
# JSON values

A well-formed JSON text is a tree of values. A string whose escapes do not pair up to characters
and a number beyond all doubles are well-formed but denote nothing; the tree keeps their places,
so that a reader may pass over them where it has no use for them. The fields of an object stand in
the order of the text, repetitions included.

## Main definitions

* `UnitLoader.Json.Number`: the numbers a numeral can denote.
* `UnitLoader.Json`: the values.
* `UnitLoader.Json.isReadable`: whether every string and number in a value denotes something.
* `UnitLoader.Json.depth`: how deep arrays and objects nest.
-/

namespace UnitLoader

/-- What a numeral denotes: an integer or a double. -/
inductive Json.Number where
  | integer (n : Int)
  | double (x : Binary64)
  deriving DecidableEq, Repr

/-- A JSON value. -/
inductive Json where
  | null
  | bool (b : Bool)
  | number (n : Option Json.Number)
  | string (s : Option String)
  | array (items : List Json)
  | object (fields : List (Option String × Json))
  deriving Repr

namespace Json

/-- A string that denotes a text. -/
abbrev ofText (s : String) : Json := .string (some s)

mutual

/-- Whether every string, key and number in a value denotes something. -/
def isReadable : Json → Bool
  | .null | .bool _ => true
  | .number n => n.isSome
  | .string s => s.isSome
  | .array items => areReadable items
  | .object fields => fieldsReadable fields

/-- Whether all of the values are readable. -/
def areReadable : List Json → Bool
  | [] => true
  | j :: js => isReadable j && areReadable js

/-- Whether the keys and values of all the fields are readable. -/
def fieldsReadable : List (Option String × Json) → Bool
  | [] => true
  | (key, j) :: fields => key.isSome && isReadable j && fieldsReadable fields

end

mutual

/-- The number of arrays and objects around the innermost value, counting the value itself. -/
def depth : Json → Nat
  | .null | .bool _ | .number _ | .string _ => 0
  | .array items => itemsDepth items + 1
  | .object fields => fieldsDepth fields + 1

/-- The greatest depth of the values. -/
def itemsDepth : List Json → Nat
  | [] => 0
  | j :: js => max (depth j) (itemsDepth js)

/-- The greatest depth of the values of the fields. -/
def fieldsDepth : List (Option String × Json) → Nat
  | [] => 0
  | (_, j) :: fields => max (depth j) (fieldsDepth fields)

end

/-- The values of the fields with the given key, in order. -/
def valuesOf (key : String) (fields : List (Option String × Json)) : List Json :=
  (fields.filter fun f => f.1 == some key).map (·.2)

end Json

end UnitLoader
