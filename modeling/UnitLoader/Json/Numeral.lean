import UnitLoader.Json.Value
import UnitLoader.Number.Numeral

/-!
# The numbers of a JSON text

A numeral without fraction and exponent is an integer if 64 bits hold it. Every other numeral is a
double, and it is rounded twice: its leading digits are gathered into a significand of 64 bits,
the significand is rounded to a double, and the double is multiplied or divided by a rounded power
of ten. A numeral beyond all doubles denotes nothing.

## Main definitions

* `UnitLoader.Json.scale?`: a significand times a power of ten.
* `UnitLoader.Json.scanNumber?`: reads a numeral in front of a text.

## Main results

* `UnitLoader.Json.length_of_scanNumber?`: a numeral has at least one character.
-/

namespace UnitLoader.Json

open UnitLoader.Numeral (natOfDigits takeSign)

/-- The whole digits of a numeral gathered while 64 bits hold them, and how many are left over. -/
def gatherWhole (digits : List Char) : Nat × Nat :=
  digits.foldl (fun (n, left) c =>
    let n' := n * 10 + (c.toNat - '0'.toNat)
    if left = 0 && n' < UInt64.size then (n', 0) else (n, left + 1)) (0, 0)

/-- The fraction digits gathered after the whole ones while 64 bits hold them, and how many they
are; the first one that does not fit ends the gathering. -/
def gatherFraction : Nat → List Char → Nat × Nat
  | n, [] => (n, 0)
  | n, c :: cs =>
    let n' := n * 10 + (c.toNat - '0'.toNat)
    if n' < UInt64.size then
      let (m, taken) := gatherFraction n' cs
      (m, taken + 1)
    else (n, 0)

/-- A double divided by `10 ^ k`, by the largest power of ten as often as needed. -/
def divideByPower (x : Binary64) (k : Nat) : Binary64 :=
  if k ≤ 308 then x.div (.powerOfTen k)
  else if x.isZero then x
  else divideByPower (x.div (.powerOfTen 308)) (k - 308)
termination_by k
decreasing_by omega

/-- The significand, rounded, times the power of ten; nothing if that is beyond all doubles. -/
def scale? (significand : Nat) (exponent : Int) : Option Binary64 :=
  let x := Binary64.ofNat significand
  if exponent < 0 then some (divideByPower x (-exponent).toNat)
  else if x.isZero then some x
  else if 308 < exponent then none
  else
    let y := x.mul (.powerOfTen exponent.toNat)
    if y.isFinite then some y else none

/-- The number of a numeral without fraction and exponent. The negative zero and the integers
beyond 64 bits are doubles. -/
def integerNumber (negative : Bool) (whole : List Char) : Option Number :=
  let (n, left) := gatherWhole whole
  if left = 0 && !negative then some (.integer n)
  else if left = 0 && 0 < n && n ≤ Nat.pow 2 63 then some (.integer (-n))
  else (scale? n left).map fun x => .double (x.withSign negative)

/-- The number of a numeral with a fraction or an exponent. -/
def doubleNumber (negative : Bool) (whole fraction : List Char) (exponent : Int) :
    Option Number :=
  let (n, left) := gatherWhole whole
  let (n, taken) := gatherFraction n fraction
  (scale? n (left - taken + exponent)).map fun x => .double (x.withSign negative)

/-- The whole digits in front of a text: a single zero, or digits of which the first is none. -/
def takeWhole? : List Char → Option (List Char × List Char)
  | '0' :: cs => some (['0'], cs)
  | cs =>
    let ds := cs.takeWhile Char.isDigit
    if ds = [] then none else some (ds, cs.dropWhile Char.isDigit)

/-- The fraction in front of a text, empty if there is no point. -/
def takeFraction? : List Char → Option (List Char × List Char)
  | '.' :: cs =>
    let ds := cs.takeWhile Char.isDigit
    if ds = [] then none else some (ds, cs.dropWhile Char.isDigit)
  | cs => some ([], cs)

/-- The exponent in front of a text, absent if there is no letter `e`. -/
def takeExponent? : List Char → Option (Option Int × List Char)
  | [] => some (none, [])
  | c :: cs =>
    if c = 'e' || c = 'E' then
      let (negative, rest) := takeSign cs
      let ds := rest.takeWhile Char.isDigit
      if ds = [] then none
      else
        let n : Int := natOfDigits ds
        some (some (if negative then -n else n), rest.dropWhile Char.isDigit)
    else some (none, c :: cs)

/-- Whether a minus stands in front of a text, and the text after it. -/
def takeMinus : List Char → Bool × List Char
  | '-' :: cs => (true, cs)
  | cs => (false, cs)

/-- The numeral in front of a text: what it denotes, and the text after it. -/
def scanNumber? (text : List Char) : Option (Option Number × List Char) := do
  let (negative, cs) := takeMinus text
  let (whole, cs) ← takeWhole? cs
  let (fraction, cs) ← takeFraction? cs
  let (exponent, cs) ← takeExponent? cs
  if fraction = [] && exponent.isNone then some (integerNumber negative whole, cs)
  else some (doubleNumber negative whole fraction (exponent.getD 0), cs)

/-! ## What is read -/

/-- A whole number takes at least one character. -/
theorem length_of_takeWhole? {text ds rest : List Char} (h : takeWhole? text = some (ds, rest)) :
    rest.length < text.length := by
  unfold takeWhole? at h
  split at h
  · simp_all
  · dsimp only at h
    split at h
    · simp at h
    · next hne =>
      simp only [Option.some.injEq, Prod.mk.injEq] at h
      obtain ⟨-, rfl⟩ := h
      have := congrArg List.length (List.takeWhile_append_dropWhile (p := Char.isDigit) (l := text))
      have := List.length_pos_iff.2 hne
      rw [List.length_append] at *
      omega

/-- A fraction takes no character away from what comes after it. -/
theorem length_of_takeFraction? {text ds rest : List Char}
    (h : takeFraction? text = some (ds, rest)) : rest.length ≤ text.length := by
  unfold takeFraction? at h
  split at h
  · next cs =>
    have := (List.dropWhile_suffix (l := cs) Char.isDigit).length_le
    dsimp only at h
    split at h
    · simp at h
    · simp only [Option.some.injEq, Prod.mk.injEq] at h
      obtain ⟨-, rfl⟩ := h
      simp only [List.length_cons]
      omega
  · simp_all

/-- A sign takes no character away from what comes after it. -/
theorem length_takeSign_le (text : List Char) :
    (takeSign text).2.length ≤ text.length := by
  unfold takeSign
  split <;> simp

/-- An exponent takes no character away from what comes after it. -/
theorem length_of_takeExponent? {text rest : List Char} {e : Option Int}
    (h : takeExponent? text = some (e, rest)) : rest.length ≤ text.length := by
  unfold takeExponent? at h
  split at h
  · simp_all
  · next c cs =>
    split at h
    · have h₁ := length_takeSign_le cs
      have h₂ := (List.dropWhile_suffix (l := (takeSign cs).2)
        Char.isDigit).length_le
      dsimp only at h
      split at h
      · simp at h
      · simp only [Option.some.injEq, Prod.mk.injEq] at h
        obtain ⟨-, rfl⟩ := h
        simp only [List.length_cons]
        omega
    · simp_all

/-- A minus takes no character away from what comes after it. -/
theorem length_takeMinus_le (text : List Char) : (takeMinus text).2.length ≤ text.length := by
  unfold takeMinus
  split <;> simp

/-- A number takes at least one character. -/
theorem length_of_scanNumber? {text rest : List Char} {n : Option Number}
    (h : scanNumber? text = some (n, rest)) : rest.length < text.length := by
  unfold scanNumber? at h
  simp only [bind, Option.bind_eq_some_iff] at h
  obtain ⟨⟨ds, r₁⟩, h₁, ⟨fs, r₂⟩, h₂, ⟨e, r₃⟩, h₃, h⟩ := h
  have : r₃ = rest := by
    dsimp only at h
    split at h <;> simp_all
  subst this
  calc r₃.length ≤ r₂.length := length_of_takeExponent? h₃
    _ ≤ r₁.length := length_of_takeFraction? h₂
    _ < (takeMinus text).2.length := length_of_takeWhole? h₁
    _ ≤ text.length := length_takeMinus_le text

end UnitLoader.Json
