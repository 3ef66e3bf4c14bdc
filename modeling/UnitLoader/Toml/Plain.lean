import UnitLoader.Number.Numeral
import UnitLoader.Text.Character

/-!
# Plain values of TOML

Numbers, dates, times and truth values. Of each the longest spelling that a text begins with is
found; what it means beyond that it is one does not matter here.

## Main definitions

* `UnitLoader.Toml.Reader`: readers of a beginning of a text.
* `UnitLoader.Toml.dateTime`: a date, a time or both.
* `UnitLoader.Toml.plain`: a number or a truth value.
* `UnitLoader.Toml.spelled`: the spelling of either.
-/

namespace UnitLoader.Toml

/-- What a text begins with, and the text after it. -/
abbrev Reader (α : Type) := List Char → Option (α × List Char)

/-! ## Digits -/

/-- A character that satisfies a condition. -/
def one (p : Char → Bool) : Reader Char
  | [] => none
  | c :: cs => if p c then some (c, cs) else none

/-- A text that stands at the beginning. -/
def word (w : String) : Reader Unit := fun input =>
  (w.toList.isPrefixOf? input).map ((), ·)

/-- Digits after the first one. Each underscore stands between two digits. -/
def moreDigits (p : Char → Bool) : Reader (List Char)
  | [] => some ([], [])
  | '_' :: c :: cs =>
    if p c then (moreDigits p cs).map fun (ds, rest) => (c :: ds, rest) else none
  | c :: cs =>
    if p c then (moreDigits p cs).map fun (ds, rest) => (c :: ds, rest)
    else if c = '_' then none
    else some ([], c :: cs)

/-- At least one digit. -/
def digits (p : Char → Bool) : Reader (List Char) := fun input => do
  let (d, rest) ← one p input
  let (ds, rest) ← moreDigits p rest
  return (d :: ds, rest)

/-- Whether a character is a hexadecimal digit. -/
def isHexDigit (c : Char) : Bool :=
  (Text.hexDigit? c).isSome

/-- The number that digits to a base denote. -/
def valueOfDigits (base : Nat) (ds : List Char) : Nat :=
  ds.foldl (fun n d => n * base + (Text.hexDigit? d).getD 0) 0

/-! ## Integers and floats -/

/-- Decimal digits without a zero in front of others. -/
def wholeDigits : Reader (List Char)
  | '0' :: cs => some (['0'], cs)
  | cs => digits Char.isDigit cs

/-- A sign, if there is one, and whether it is a minus. -/
def sign (input : List Char) : Bool × List Char :=
  Numeral.takeSign input

/-- Digits to a base other than ten, of a number of 64 bits. -/
def basedInteger (base : Nat) (p : Char → Bool) : Reader Unit := fun input => do
  let (ds, rest) ← digits p input
  if valueOfDigits base ds < Nat.pow 2 63 then some ((), rest) else none

/-- A decimal integer of 64 bits. -/
def decimalInteger : Reader Unit := fun input => do
  let (negative, rest) := sign input
  let (ds, rest) ← wholeDigits rest
  let n := Numeral.natOfDigits ds
  if n < Nat.pow 2 63 || (negative && n = Nat.pow 2 63) then some ((), rest) else none

/-- An integer. -/
def integer : Reader Unit
  | '0' :: 'x' :: cs => basedInteger 16 isHexDigit cs
  | '0' :: 'o' :: cs => basedInteger 8 (fun c => '0' ≤ c && c ≤ '7') cs
  | '0' :: 'b' :: cs => basedInteger 2 (fun c => c = '0' || c = '1') cs
  | cs => decimalInteger cs

/-- The digits after a point. -/
def fraction : Reader (List Char)
  | '.' :: cs => digits Char.isDigit cs
  | _ => none

/-- An exponent. -/
def exponent : Reader Int
  | [] => none
  | c :: cs =>
    if c = 'e' || c = 'E' then do
      let (negative, rest) := sign cs
      let (ds, rest) ← digits Char.isDigit rest
      let n : Int := Numeral.natOfDigits ds
      return (if negative then -n else n, rest)
    else none

/-- A finite number with a fraction or an exponent. One beyond all doubles is taken below zero
only. -/
def finiteFloat : Reader Unit := fun input => do
  let (negative, rest) := sign input
  let (whole, rest) ← wholeDigits rest
  let (n, rest) ← match fraction rest with
    | some (ds, rest) =>
      let (e, rest) := (exponent rest).getD (0, rest)
      some (Numeral.mk negative (Numeral.natOfDigits (whole ++ ds)) (e - ds.length), rest)
    | none => (exponent rest).map fun (e, rest) =>
      (Numeral.mk negative (Numeral.natOfDigits whole) e, rest)
  if n.toBinary64 = .infinity then none else some ((), rest)

/-- An infinity or a NaN. -/
def specialFloat : Reader Unit := fun input =>
  let (_, rest) := sign input
  (word "inf" rest).or (word "nan" rest)

/-- A number that is no integer. -/
def float : Reader Unit := fun input =>
  (finiteFloat input).or (specialFloat input)

/-! ## Dates and times -/

/-- A number of exactly so many digits, within bounds. -/
def number (size low high : Nat) : Reader Nat := fun input =>
  let ds := input.take size
  let n := Numeral.natOfDigits ds
  if ds.length = size && ds.all Char.isDigit && low ≤ n && n ≤ high then some (n, input.drop size)
  else none

/-- The number of days of a month. -/
def daysInMonth (year month : Nat) : Nat :=
  if month = 2 then
    if year % 4 = 0 && (year % 100 ≠ 0 || year % 400 = 0) then 29 else 28
  else if month = 4 || month = 6 || month = 9 || month = 11 then 30
  else 31

/-- A date. -/
def date : Reader Unit := fun input => do
  let (year, rest) ← number 4 0 9999 input
  let (_, rest) ← word "-" rest
  let (month, rest) ← number 2 1 12 rest
  let (_, rest) ← word "-" rest
  let (_, rest) ← number 2 1 (daysInMonth year month) rest
  return ((), rest)

/-- The digits of a fraction of a second, if there are any. -/
def secondFraction (input : List Char) : List Char :=
  match input with
  | '.' :: cs => if (cs.head?.any Char.isDigit) then cs.dropWhile Char.isDigit else input
  | _ => input

/-- A time of day. -/
def time : Reader Unit := fun input => do
  let (_, rest) ← number 2 0 23 input
  let (_, rest) ← word ":" rest
  let (_, rest) ← number 2 0 59 rest
  let (_, rest) ← word ":" rest
  let (_, rest) ← number 2 0 60 rest
  return ((), secondFraction rest)

/-- How far a time is from universal time. -/
def offset : Reader Unit := fun input =>
  match input with
  | [] => none
  | c :: cs =>
    if c = 'Z' || c = 'z' then some ((), cs)
    else if c = '+' || c = '-' then do
      let (_, rest) ← number 2 0 23 cs
      let (_, rest) ← word ":" rest
      let (_, rest) ← number 2 0 59 rest
      return ((), rest)
    else none

/-- The time that stands after a date, with its offset, if there is one. -/
def timeOfDate (input : List Char) : List Char :=
  let time? : Option (List Char) := do
    let (_, rest) ← one (fun c => c = 'T' || c = 't' || c = ' ') input
    let (_, rest) ← time rest
    return (offset rest).elim rest (·.2)
  time?.getD input

/-- A date, a time, or both. -/
def dateTime : Reader Unit := fun input =>
  match date input with
  | some (_, rest) => some ((), timeOfDate rest)
  | none => time input

/-! ## All of them -/

/-- A number or a truth value. -/
def plain : Reader Unit := fun input =>
  (word "true" input).or <| (word "false" input).or <| (float input).or (integer input)

/-- What a reader takes, as it is spelled. -/
def spelled (read : Reader Unit) : Reader (List Char) := fun input => do
  let (_, rest) ← read input
  return (input.take (input.length - rest.length), rest)

end UnitLoader.Toml
