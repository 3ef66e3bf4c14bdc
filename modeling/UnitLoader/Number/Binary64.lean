/-!
# Double precision numbers

A number of the IEEE 754 format binary64 is its 64 bits, so that two numbers are equal when no
observation tells them apart: the two zeros differ, and a NaN equals itself. The arithmetic here
is exact on natural numbers and rounds once, to the nearest number and to the even one of two
equally near.

## Main definitions

* `UnitLoader.Binary64`: the format.
* `UnitLoader.Binary64.ofRatio`: the number nearest to a quotient of natural numbers.
* `UnitLoader.Binary64.mul`, `UnitLoader.Binary64.div`: products and quotients of finite numbers
  without sign.
-/

namespace UnitLoader

/-- A double precision number, by its bits: one of sign, eleven of exponent, 52 of fraction. -/
structure Binary64 where
  bits : UInt64
  deriving DecidableEq, Repr

/-- The quotient rounded to the nearest natural number, to the even one of two equally near. -/
def roundQuotient (num den : Nat) : Nat :=
  let q := num / den
  let r := num % den
  if den < 2 * r || (2 * r == den && q % 2 == 1) then q + 1 else q

namespace Binary64

/-- The number zero without sign. -/
def zero : Binary64 := ⟨0⟩

/-- The infinity without sign. -/
def infinity : Binary64 := ⟨0x7ff0000000000000⟩

/-- Whether the sign bit is set. -/
def isNegative (x : Binary64) : Bool :=
  Nat.pow 2 63 ≤ x.bits.toNat

/-- The bits without the sign. -/
def magnitude (x : Binary64) : Nat :=
  x.bits.toNat % Nat.pow 2 63

/-- Whether the number is neither an infinity nor a NaN. -/
def isFinite (x : Binary64) : Bool :=
  x.magnitude < 0x7ff0000000000000

/-- Whether the number is a zero of either sign. -/
def isZero (x : Binary64) : Bool :=
  x.magnitude == 0

/-- The number with the other sign. -/
def neg (x : Binary64) : Binary64 :=
  ⟨x.bits ^^^ 0x8000000000000000⟩

/-- The number, with its sign changed on demand. -/
def withSign (negative : Bool) (x : Binary64) : Binary64 :=
  if negative then x.neg else x

/-- The magnitude of a finite number is `significand * 2 ^ exponent`. -/
def significand (x : Binary64) : Nat :=
  if x.magnitude / Nat.pow 2 52 = 0 then x.magnitude else Nat.pow 2 52 + x.magnitude % Nat.pow 2 52

/-- The exponent that goes with `significand`, at least -1074. -/
def exponent (x : Binary64) : Int :=
  (max 1 (x.magnitude / Nat.pow 2 52) : Nat) - 1075

/-- The numerator of the magnitude of a finite number. -/
def numerator (x : Binary64) : Nat :=
  x.significand * Nat.pow 2 x.exponent.toNat

/-- The denominator of the magnitude of a finite number, a power of two. -/
def denominator (x : Binary64) : Nat :=
  Nat.pow 2 (-x.exponent).toNat

/-- The quotient `num / den` in units of `2 ^ e`, rounded. -/
def scaledQuotient (num den : Nat) (e : Int) : Nat :=
  roundQuotient (num * Nat.pow 2 (-e).toNat) (den * Nat.pow 2 e.toNat)

/-- The exponent of the unit in which a quotient is rounded: the one that leaves 53 binary digits
before the point, or the smallest of the format. -/
def unitExponent (num den : Nat) : Int :=
  let e : Int := (num.log2 : Int) - den.log2 - 53
  let e :=
    if num * Nat.pow 2 (-e).toNat < Nat.pow 2 53 * (den * Nat.pow 2 e.toNat) then e else e + 1
  max e (-1074)

/-- The number nearest to `num / den`; an infinity from half a unit above the largest finite number
on. A rounding that carries into the next binary digit is right of itself, because the exponent
stands above the fraction. -/
def ofRatio (num den : Nat) : Binary64 :=
  if num = 0 then zero
  else
    let e := unitExponent num den
    let bits := (e + 1074).toNat * Nat.pow 2 52 + scaledQuotient num den e
    if bits < 0x7ff0000000000000 then ⟨bits.toUInt64⟩ else infinity

/-- The number nearest to a natural number. -/
def ofNat (n : Nat) : Binary64 :=
  ofRatio n 1

/-- The product of the magnitudes of two finite numbers, rounded. -/
def mul (x y : Binary64) : Binary64 :=
  ofRatio (x.numerator * y.numerator) (x.denominator * y.denominator)

/-- The quotient of the magnitudes of two finite numbers, the second not zero, rounded. -/
def div (x y : Binary64) : Binary64 :=
  ofRatio (x.numerator * y.denominator) (x.denominator * y.numerator)

/-- The number nearest to a power of ten. -/
def powerOfTen (k : Nat) : Binary64 :=
  ofRatio (Nat.pow 10 k) 1

end Binary64

end UnitLoader
