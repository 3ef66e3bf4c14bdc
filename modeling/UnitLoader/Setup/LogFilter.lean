import UnitLoader.Number.Numeral
import UnitLoader.Pattern.Basic
import UnitLoader.Setup.Error
import UnitLoader.Text.Pieces

/-!
# Filters of the log

A filter is a list of directives with commas between them. A directive is the name of a level, or
a target, or a span between brackets, each of the latter two with a level on demand:
`target[span\x7bfield\x7d]=level`.

What is said here is which filters are accepted. What is logged under a filter is left out, and so
is the log itself but for the fact that it can be started once.

## Main definitions

* `UnitLoader.LogFilter.isLevel`, `UnitLoader.LogFilter.isField`: the parts of directives.
* `UnitLoader.LogFilter.isDirective`, `UnitLoader.LogFilter.isFilter`.
* `UnitLoader.LogFilter.check`, `UnitLoader.LogFilter.start`: what is said of a bad filter, and of
  a second start of the log.
-/

namespace UnitLoader.LogFilter

open Text

/-! ## Levels -/

/-- The names of the levels, from none to all. -/
def levelNames : List String :=
  ["off", "error", "warn", "info", "debug", "trace"]

/-- Whether a text is the number of a level. A plus may stand in front, and zeros. -/
def isLevelNumber (text : List Char) : Bool :=
  let digits := match text with
    | '+' :: cs => cs
    | cs => cs
  match digits.reverse with
  | [] => false
  | last :: before => last.isDigit && last ≤ '5' && before.all (· = '0')

/-- Whether a text is a level: a name in letters of any case, a number, or nothing. -/
def isLevel (text : List Char) : Bool :=
  text = [] || isLevelNumber text || levelNames.any fun name =>
    name.toList = text.map Char.toLower

/-! ## Fields -/

/-- Whether a text is what a field may be compared with: a number or a pattern. -/
def isComparable (text : List Char) : Bool :=
  Numeral.isReal text || Pattern.isPattern text

/-- Whether a text is a field of a span: a name, and what it is compared with after an equals sign.
What stands after another one means nothing. -/
def isField (text : List Char) : Bool :=
  match pieces '=' text with
  | _ :: value :: _ => isComparable value
  | _ => true

/-! ## Directives -/

/-- The parts of a directive that can be wrong. -/
structure Directive where
  /-- The number of bytes before the field of the span, and the field. -/
  field : Option (Nat × List Char) := none
  /-- What stands after the equals sign. -/
  level : Option (List Char) := none
  deriving DecidableEq, Repr

namespace Directive

/-- The number of bytes of a text. -/
def byteSize (text : List Char) : Nat :=
  (Utf8.encode text).length

/-- What follows a bracket that closes a span. -/
def afterSpan? (field : Option (Nat × List Char)) : List Char → Option Directive
  | [] => some { field }
  | '=' :: text => some { field, level := some text }
  | _ => none

/-- What follows the bracket that opens a span, which so many bytes stand before: a name, and a
field between braces on demand. -/
def span? (place : Nat) (text : List Char) : Option Directive :=
  let name := text.takeWhile fun c => c ≠ ']' && c ≠ '\x7b'
  match text.drop name.length with
  | ']' :: rest => afterSpan? none rest
  | '\x7b' :: rest =>
    let field := rest.takeWhile (· ≠ '\x7d')
    match rest.drop field.length with
    | '\x7d' :: ']' :: rest =>
      if field = [] then none else afterSpan? (some (place + byteSize name + 1, field)) rest
    | _ => none
  | _ => none

/-- Whether a directive may begin with a character, besides a span. -/
def isTargetStart (c : Char) : Bool :=
  isAlphabetic c || isNumeric c || c = '-' || c = ':' || c = '_'

/-- The directive that a text without blanks around it is. -/
def read? (text : List Char) : Option Directive :=
  match text with
  | [] => none
  | '[' :: rest => span? 1 rest
  | c :: _ =>
    if !isTargetStart c then none
    else
      let target := text.takeWhile fun c => c ≠ '=' && c ≠ '['
      match text.drop target.length with
      | '=' :: level => some { level := some level }
      | '[' :: rest => span? (byteSize target + 1) rest
      | _ => some {}

end Directive

/-- What stands at a place of a text, counted in bytes, if no character is cut. -/
def slice? (text : List Char) (place size : Nat) : Option (List Char) :=
  (Utf8.decode (((Utf8.encode text).drop place).take size)).toOption

/-- Whether a text is a directive. Blanks may stand around one without a level only. The field of a
span is looked up in the text with the blanks in front, but at its place in the text without
them. -/
def isDirective (text : List Char) : Bool :=
  match Directive.read? (trim text) with
  | none => false
  | some d =>
    d.field.all (fun (place, field) =>
        (slice? text place (Directive.byteSize field)).any isField) &&
      d.level.all fun level => trim text = text && isLevel level

/-! ## Filters -/

/-- Whether a text is a filter. -/
def isFilter (text : List Char) : Bool :=
  (pieces ',' text).all fun piece => piece = [] || isDirective piece

/-- An error unless a text is a filter. -/
def check (text : String) : Except SetupError Unit :=
  if isFilter text.toList then .ok () else .error (.logFilter text)

/-- Start the log with a filter. It can be started once. -/
def start (started : Bool) (text : String) : Except SetupError Unit := do
  check text
  if started then throw .alreadyLogging

end UnitLoader.LogFilter
