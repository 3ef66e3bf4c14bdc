import UnitLoader.Number.Binary64

/-!
# Numerals

Decimal numerals and the numbers they denote. A numeral with a fraction or an exponent denotes the
double nearest to its value.

## Main definitions

* `UnitLoader.Numeral`: sign, digits and exponent of a numeral.
* `UnitLoader.Numeral.toBinary64`: the nearest double.
* `UnitLoader.Numeral.readDecimal?`: reads a numeral with a point.
* `UnitLoader.Numeral.isReal`: whether a text is a numeral of any kind.
* `UnitLoader.Numeral.readInt64?`: reads an integer of 64 bits.
-/

namespace UnitLoader

/-- A decimal numeral: `digits * 10 ^ exponent`, with a sign. -/
structure Numeral where
  negative : Bool
  digits : Nat
  exponent : Int
  deriving DecidableEq, Repr

namespace Numeral

/-- The number that a text of digits denotes. -/
def natOfDigits (cs : List Char) : Nat :=
  cs.foldl (fun n c => n * 10 + (c.toNat - '0'.toNat)) 0

/-- A sign in front of a text, and the text after it. A text without one is positive. -/
def takeSign : List Char → Bool × List Char
  | '-' :: cs => (true, cs)
  | '+' :: cs => (false, cs)
  | cs => (false, cs)

/-- The double nearest to a numeral. Of a numeral beyond all doubles, on either side, the powers of
ten are not computed. -/
def toBinary64 (n : Numeral) : Binary64 :=
  let size : Int := (Nat.toDigits 10 n.digits).length + n.exponent
  let magnitude :=
    if n.digits = 0 || size < -400 then Binary64.zero
    else if 400 < size then Binary64.infinity
    else Binary64.ofRatio (n.digits * Nat.pow 10 n.exponent.toNat) (Nat.pow 10 (-n.exponent).toNat)
  magnitude.withSign n.negative

/-- The exponent after a numeral's digits: absent, or a letter `e` of either case, a sign on demand
and at least one digit. -/
def readExponent? : List Char → Option Int
  | [] => some 0
  | c :: cs =>
    if c = 'e' || c = 'E' then
      let (negative, ds) := takeSign cs
      if ds ≠ [] && ds.all Char.isDigit then
        some (if negative then -(natOfDigits ds : Int) else natOfDigits ds)
      else none
    else none

/-- Reads a numeral that has a point: a sign on demand, digits with a point before, among or after
them, and an exponent on demand. -/
def readDecimal? (text : List Char) : Option Numeral :=
  let (negative, cs) := takeSign text
  match cs.dropWhile Char.isDigit with
  | '.' :: rest =>
    let whole := cs.takeWhile Char.isDigit
    let fraction := rest.takeWhile Char.isDigit
    if whole = [] && fraction = [] then none
    else (readExponent? (rest.dropWhile Char.isDigit)).map fun e =>
      ⟨negative, natOfDigits (whole ++ fraction), e - fraction.length⟩
  | _ => none

/-- Whether a text is a numeral or the name of an infinity or a NaN, with a sign on demand. A
numeral has at least one digit, a point before, among or after them on demand, and an exponent on
demand. -/
def isReal (text : List Char) : Bool :=
  let cs := (takeSign text).2
  let whole := cs.takeWhile Char.isDigit
  let (fraction, rest) := match cs.drop whole.length with
    | '.' :: rest => (rest.takeWhile Char.isDigit, rest.dropWhile Char.isDigit)
    | rest => ([], rest)
  ["inf", "infinity", "nan"].any (·.toList = cs.map Char.toLower) ||
    (whole ++ fraction ≠ [] && (readExponent? rest).isSome)

/-- Reads an integer of 64 bits: a sign on demand and at least one digit. -/
def readInt64? (text : List Char) : Option Int64 :=
  let (negative, ds) := takeSign text
  if ds ≠ [] && ds.all Char.isDigit then
    let n : Int := if negative then -(natOfDigits ds : Int) else natOfDigits ds
    if Int64.minValue.toInt ≤ n && n ≤ Int64.maxValue.toInt then some (Int64.ofInt n) else none
  else none

end Numeral

end UnitLoader
