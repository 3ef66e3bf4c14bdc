import UnitLoader.Number.Binary64

/-!
# The shortest decimal text of a double

A finite number is written with the fewest decimal digits that read back as the same number; of
two such decimals the nearer one is taken, and of two equally near ones the one with the even last
digit. Numbers from 10^-5 up to 10^16 are written with a point, the others with an exponent.

## Main definitions

* `UnitLoader.Binary64.Decimal`: digits and the power of ten of the first of them.
* `UnitLoader.Binary64.shortest`: the shortest decimal of a number that is not zero.
* `UnitLoader.Binary64.text`: the text.
-/

namespace UnitLoader.Binary64

/-- How many decimal digits a natural number has; zero has one. -/
def digitCount (n : Nat) : Nat :=
  (Nat.toDigits 10 n).length

/-- The largest `p` with `10 ^ p ≤ num / den`, for positive numbers. -/
def decimalExponent (num den : Nat) : Int :=
  if den ≤ num then (digitCount (num / den) : Int) - 1
  else - ((digitCount ((den + num - 1) / num - 1) : Nat) : Int)

/-- A decimal `digits * 10 ^ unit`. -/
structure Decimal where
  digits : Nat
  unit : Int
  deriving DecidableEq, Repr

/-- The reals that round to a number, in units of a quarter of its last place: from `low` to
`high`, ends included when the significand is even. Below a power of two the numbers lie twice as
close, and the interval is half as long there. -/
structure Interval where
  low : Nat
  value : Nat
  high : Nat
  closed : Bool
  deriving DecidableEq, Repr

/-- The interval of the reals that round to a finite number. -/
def interval (x : Binary64) : Interval :=
  let m := x.significand
  let below := if m = Nat.pow 2 52 && -1074 < x.exponent then 1 else 2
  ⟨4 * m - below, 4 * m, 4 * m + 2, m % 2 == 0⟩

/-- The decimal with digits at `10 ^ unit` and up that is nearest to the number, if one of the two
neighbours of the number on that grid reads back. Both the grid and the interval are compared in
multiples of `1 / den`: the number is `num * value / den`, the grid step `step / den`. -/
def onGrid (i : Interval) (num step : Nat) (unit : Int) : Option Decimal :=
  let reads (d : Nat) : Bool :=
    if i.closed then num * i.low ≤ d * step && d * step ≤ num * i.high
    else num * i.low < d * step && d * step < num * i.high
  let v := num * i.value
  let d := v / step
  let nearer := 2 * (v - d * step) < step || (2 * (v - d * step) == step && d % 2 == 0)
  match reads d, reads (d + 1) with
  | true, true => some ⟨if nearer then d else d + 1, unit⟩
  | true, false => some ⟨d, unit⟩
  | false, true => some ⟨d + 1, unit⟩
  | false, false => none

/-- The decimal of the number on the grid with so many digits, if one reads back. -/
def withDigits? (x : Binary64) (count : Nat) : Option Decimal :=
  let i := x.interval
  let e := x.exponent - 2
  let unit := decimalExponent x.numerator x.denominator - (count : Int) + 1
  onGrid i (Nat.pow 2 e.toNat * Nat.pow 10 (-unit).toNat)
    (Nat.pow 2 (-e).toNat * Nat.pow 10 unit.toNat) unit

/-- The shortest decimal that reads back as a finite number that is not zero. Seventeen digits
always suffice. -/
def shortest (x : Binary64) : Decimal :=
  ((List.range 17).findSome? fun n => x.withDigits? (n + 1)).getD ⟨0, 0⟩

/-- A text of `count` zeros. -/
def zeros (count : Nat) : List Char :=
  List.replicate count '0'

/-- Digits with a point, or with an exponent where the point would be far away from them. -/
def decimalText (digits : List Char) (exponent : Int) : List Char :=
  if -5 ≤ exponent ∧ exponent ≤ 15 then
    let whole := (exponent + 1).toNat
    if exponent < 0 then '0' :: '.' :: zeros (-exponent - 1).toNat ++ digits
    else if digits.length ≤ whole then digits ++ zeros (whole - digits.length) ++ ['.', '0']
    else digits.take whole ++ '.' :: digits.drop whole
  else
    let fraction := if digits.length ≤ 1 then [] else '.' :: digits.drop 1
    let mark := if exponent < 0 then ['e', '-'] else ['e', '+']
    digits.take 1 ++ fraction ++ mark ++ Nat.toDigits 10 exponent.natAbs

/-- The digits of a decimal without the zeros at its end. -/
def significantDigits (d : Decimal) : List Char :=
  let cs := Nat.toDigits 10 d.digits
  (cs.reverse.dropWhile (· == '0')).reverse

/-- The text of a finite number. A zero is written `0.0`. -/
def text (x : Binary64) : List Char :=
  let magnitude :=
    if x.isZero then ['0', '.', '0']
    else
      let d := x.shortest
      decimalText (significantDigits d) (d.unit + digitCount d.digits - 1)
  if x.isNegative then '-' :: magnitude else magnitude

end UnitLoader.Binary64
