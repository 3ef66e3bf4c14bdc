import UnitLoader.Fault.Load
import UnitLoader.Text.Pieces

/-!
# Paths

A path is a text whose segments stand between slashes. Empty segments and dots are fillers, which
say nothing about where the path leads. A path is brought to normal form without a look at any
tree: two dots take back the segment before them, and there has to be one.

Paths and the names in them are texts. Names whose bytes are not UTF-8 are left out.

## Main definitions

* `UnitLoader.Path.Normal`, `UnitLoader.Path.normal?`: normal forms.
* `UnitLoader.Path.absoluteText`, `UnitLoader.Path.relativeText`: normal forms as texts.
* `UnitLoader.Path.relativeTo?`: the way from a directory to what a path names beneath it.
* `UnitLoader.Path.join`: a path taken from where another leads.
* `UnitLoader.Path.split?`: the last name of a path and the path before it.

## Main results

* `UnitLoader.Path.resolve?_append`: a path is taken in two steps as in one.
* `UnitLoader.Path.isOrdinary_of_mem_resolve?`: a normal form holds ordinary names only.
-/

namespace UnitLoader.Path

open Text

/-- The segments of a path. -/
def segments (path : String) : List String :=
  (pieces '/' path.toList).map String.ofList

/-- A filler leads from a directory to itself. -/
def isFiller (segment : String) : Bool :=
  segment = "" || segment = "."

/-- An ordinary name is neither a filler nor two dots. -/
def isOrdinary (segment : String) : Bool :=
  !isFiller segment && segment ≠ ".."

/-- An absolute path begins with a slash. -/
def isAbsolute (path : String) : Bool :=
  path.toList.head? = some '/'

/-! ## Normal forms -/

/-- Where a path leads: from the root or from anywhere, down through ordinary names. -/
structure Normal where
  absolute : Bool
  parts : List String
  deriving DecidableEq, Repr

/-- The names that are left of segments, taken from where some names already lead; these come last
first. Nothing, if the segments climb above the first of them. -/
def resolve? : List String → List String → Option (List String)
  | names, [] => some names.reverse
  | names, s :: rest =>
    if isFiller s then resolve? names rest
    else if s = ".." then
      match names with
      | [] => none
      | _ :: names => resolve? names rest
    else resolve? (s :: names) rest

/-- The normal form of a path. -/
def normal? (path : String) : Except PathFault Normal :=
  match resolve? [] (segments path) with
  | some parts => .ok ⟨isAbsolute path, parts⟩
  | none => .error (.escapes path)

/-- A path is taken in two steps as in one. -/
theorem resolve?_append (names a b : List String) :
    resolve? names (a ++ b) = (resolve? names a).bind fun mid => resolve? mid.reverse b := by
  induction a generalizing names with
  | nil => simp [resolve?]
  | cons s a ih =>
    simp only [List.cons_append, resolve?]
    split
    · exact ih names
    · split
      · cases names with
        | nil => rfl
        | cons n names => exact ih names
      · exact ih (s :: names)

/-- A normal form holds ordinary names only. -/
theorem isOrdinary_of_mem_resolve? {names segs parts : List String}
    (hn : ∀ n ∈ names, isOrdinary n) (h : resolve? names segs = some parts) :
    ∀ n ∈ parts, isOrdinary n := by
  induction segs generalizing names with
  | nil =>
    simp only [resolve?, Option.some.injEq] at h
    subst h
    simpa using hn
  | cons s segs ih =>
    simp only [resolve?] at h
    split at h
    · exact ih hn h
    · next hf =>
      split at h
      · cases names with
        | nil => simp at h
        | cons n names => exact ih (fun m hm => hn m (List.mem_cons_of_mem _ hm)) h
      · next hd =>
        refine ih (fun m hm => ?_) h
        rcases List.mem_cons.1 hm with rfl | hm
        · simp [isOrdinary, hf, hd]
        · exact hn m hm

/-! ## Texts -/

/-- Names with slashes between them. -/
def joinNames (names : List String) : String :=
  String.ofList (joinWith '/' (names.map String.toList))

/-- The text of an absolute path in normal form. -/
def absoluteText (parts : List String) : String :=
  "/" ++ joinNames parts

/-- The text of a relative path in normal form; where it began is a dot. -/
def relativeText (parts : List String) : String :=
  if parts = [] then "." else joinNames parts

/-- A path taken from where another leads. An absolute path leads there by itself. -/
def join (base path : String) : String :=
  if isAbsolute path then path
  else if base = "" || base.toList.getLast? = some '/' then base ++ path
  else base ++ "/" ++ path

/-! ## Ways down from a directory -/

/-- The way from a directory to what a path names. The path is relative to the directory, or
absolute and beneath it. -/
def relativeTo? (directory : List String) (path : String) : Except PathFault (List String) := do
  if path = "" then throw .empty
  let n ← normal? path
  if n.absolute then
    match directory.isPrefixOf? n.parts with
    | some rest => return rest
    | none => throw (.notBeneath path (absoluteText directory))
  else return n.parts

/-- The directory that a path names from a working directory. -/
def absolute? (working : List String) (path : String) : Except PathFault (List String) :=
  (normal? (join (absoluteText working) path)).map Normal.parts

/-! ## The last name -/

/-- Segments without the fillers at the end. -/
def dropFillers (segs : List String) : List String :=
  (segs.reverse.dropWhile isFiller).reverse

/-- Whether a path ends in a filler, and so names a directory. -/
def namesDirectory (path : String) : Bool :=
  (segments path).getLast?.any isFiller

/-- The text of the segments that a path begins with, without the fillers at their end. Where
nothing but fillers is left, the root and a leading dot are kept. -/
def beginning (path : String) (segs : List String) : String :=
  match dropFillers segs with
  | [] => if isAbsolute path then "/" else segs.headD ""
  | kept => joinNames kept

/-- The last name of a path and the path before it. There is none if the path ends in two dots or
holds nothing but fillers. -/
def split? (path : String) : Option (String × String) :=
  match (dropFillers (segments path)).reverse with
  | [] => none
  | name :: before => if name = ".." then none else some (beginning path before.reverse, name)

/-- The last name of a path. -/
def fileName? (path : String) : Option String :=
  (split? path).map (·.2)

end UnitLoader.Path
