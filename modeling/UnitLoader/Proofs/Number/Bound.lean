import Mathlib.Data.Int.Order.Basic
import Mathlib.Tactic.Lemma
import Mathlib.Tactic.Ring
import Mathlib.Tactic.SplitIfs
import UnitLoader.Number.Binary64

/-!
# How large rounded numbers are

Rounding keeps a bound: a quotient of at most `2 ^ k` is rounded to a number of which the same can
be said, up to one binary digit. In the bits of a number the exponent stands above the fraction, so
that a bound on the number is a bound on its bits, and everything below the bits of the infinity is
finite.

## Main definitions

* `UnitLoader.Binary64.Below` — a bound on a number, told by its bits.

## Main results

* `UnitLoader.Binary64.below_ofRatio` — what is rounded from a small quotient is small.
* `UnitLoader.Binary64.Below.div` — division by a power of ten keeps a bound.
* `UnitLoader.Binary64.Below.isFinite` — small numbers are finite.
-/

set_option relaxedAutoImplicit false
set_option autoImplicit false

namespace UnitLoader.Binary64

variable {num den k j : Nat} {x y : Binary64} {e e' : Int}

/-! ## Rounding of quotients -/

/-- What is at most a natural number is rounded to at most that number. -/
lemma roundQuotient_le {q : Nat} (hden : 0 < den) (h : num ≤ q * den) :
    roundQuotient num den ≤ q := by
  have hle : num / den ≤ q := Nat.div_le_of_le_mul (by rwa [Nat.mul_comm])
  rcases Nat.lt_or_eq_of_le hle with hlt | rfl
  · simp only [roundQuotient]
    split <;> omega
  · have hmod : num % den = 0 := by
      have := Nat.div_add_mod num den
      rw [Nat.mul_comm] at this
      omega
    simp [roundQuotient, hmod, Nat.ne_of_lt hden]

/-- In units of `2 ^ e` the quotient has at most 53 binary digits before the point. -/
def FitsUnit (num den : Nat) (e : Int) : Prop :=
  num * 2 ^ (-e).toNat < 2 ^ 53 * (den * 2 ^ e.toNat)

/-- A quotient that fits some unit fits one twice as large. -/
lemma FitsUnit.succ (h : FitsUnit num den e) : FitsUnit num den (e + 1) := by
  unfold FitsUnit at h ⊢
  rcases Int.lt_or_le e 0 with he | he
  · rw [show (-e).toNat = (-(e + 1)).toNat + 1 by omega, show e.toNat = 0 by omega, pow_succ] at h
    rw [show (e + 1).toNat = 0 by omega]
    rw [← Nat.mul_assoc] at h
    omega
  · rw [show (-e).toNat = 0 by omega] at h
    rw [show (-(e + 1)).toNat = 0 by omega, show (e + 1).toNat = e.toNat + 1 by omega,
      pow_succ 2 e.toNat, ← Nat.mul_assoc den]
    omega

/-- In greater units there are no more digits. -/
lemma FitsUnit.mono (h : FitsUnit num den e) (hle : e ≤ e') : FitsUnit num den e' :=
  Int.leInduction (motive := fun e' _ => FitsUnit num den e') h (fun _ _ => FitsUnit.succ) e' hle

/-- The digits of numerator and denominator tell how many digits the quotient has, up to one. -/
lemma fitsUnit_log2 (hden : 0 < den) : FitsUnit num den (num.log2 - den.log2 - 52) := by
  have hnum : num < 2 ^ (num.log2 + 1) := Nat.lt_log2_self
  have hden' : 2 ^ den.log2 ≤ den := Nat.log2_self_le (Nat.ne_of_gt hden)
  unfold FitsUnit
  generalize num.log2 = a at *
  generalize den.log2 = b at *
  calc num * 2 ^ (-((a : Int) - b - 52)).toNat
      < 2 ^ (a + 1) * 2 ^ (-((a : Int) - b - 52)).toNat :=
        Nat.mul_lt_mul_of_pos_right hnum (Nat.two_pow_pos _)
    _ = 2 ^ 53 * (2 ^ b * 2 ^ ((a : Int) - b - 52).toNat) := by
        rw [← pow_add, ← pow_add, ← pow_add]
        congr 1
        omega
    _ ≤ 2 ^ 53 * (den * 2 ^ ((a : Int) - b - 52).toNat) := by gcongr

/-- In the unit in which it is rounded, a quotient has at most 53 digits. -/
lemma fitsUnit_unitExponent (hden : 0 < den) : FitsUnit num den (unitExponent num den) := by
  refine FitsUnit.mono ?_ (Int.le_max_left _ _)
  split
  · assumption
  · exact (fitsUnit_log2 hden).mono (by omega)

/-- The unit of a quotient is bounded along with it. -/
lemma unitExponent_le (h : num ≤ 2 ^ k * den) :
    unitExponent num den ≤ (k : Int) - 52 := by
  have hlog : num.log2 < k + den.log2 + 1 := by
    rcases Nat.eq_zero_or_pos num with rfl | hnum
    · simp
    refine (Nat.log2_lt (Nat.ne_of_gt hnum)).2 (Nat.lt_of_le_of_lt h ?_)
    calc 2 ^ k * den < 2 ^ k * 2 ^ (den.log2 + 1) :=
          Nat.mul_lt_mul_of_pos_left Nat.lt_log2_self (Nat.two_pow_pos k)
      _ = 2 ^ (k + den.log2 + 1) := by rw [← pow_add, Nat.add_assoc]
  unfold unitExponent
  dsimp only
  split <;> omega

/-! ## Bounds on the bits -/

/-- The bits of a number are at most those of `2 ^ (k + 1)`. -/
def Below (x : Binary64) (k : Nat) : Prop :=
  x.magnitude ≤ (k + 1024) * 2 ^ 52

/-- A bound may be relaxed. -/
lemma Below.mono (h : x.Below k) (hk : k ≤ j) : x.Below j :=
  Nat.le_trans h (Nat.mul_le_mul_right _ (by omega))

/-- Below the bits of the infinity everything is finite. -/
theorem Below.isFinite (h : x.Below k) (hk : k ≤ 1022) : x.isFinite = true := by
  have := h.mono hk
  simp only [Below] at this
  simp only [Binary64.isFinite, decide_eq_true_eq]
  omega

/-- A number below a bound is a quotient of at most twice the bound. -/
lemma Below.numerator_le (h : x.Below k) : x.numerator ≤ 2 ^ (k + 2) * x.denominator := by
  have hexponent : x.exponent ≤ (k : Int) - 51 := by
    have : x.magnitude / 2 ^ 52 ≤ k + 1024 := Nat.div_le_of_le_mul (by rwa [Nat.mul_comm])
    simp only [exponent, Nat.pow_eq]
    omega
  have hsignificand : x.significand ≤ 2 ^ 53 := by
    simp only [significand, Nat.pow_eq]
    split <;> omega
  simp only [numerator, denominator, Nat.pow_eq]
  calc x.significand * 2 ^ x.exponent.toNat ≤ 2 ^ 53 * 2 ^ x.exponent.toNat := by gcongr
    _ = 2 ^ (53 + x.exponent.toNat) := (pow_add ..).symm
    _ ≤ 2 ^ (k + 2 + (-x.exponent).toNat) := Nat.pow_le_pow_right (by decide) (by omega)
    _ = 2 ^ (k + 2) * 2 ^ (-x.exponent).toNat := pow_add ..

/-- What is rounded from a quotient of at most `2 ^ k` is below the bound. -/
theorem below_ofRatio (hden : 0 < den) (h : num ≤ 2 ^ k * den) (hk : k ≤ 1022) :
    (ofRatio num den).Below k := by
  have hunit := unitExponent_le h
  have hquotient : scaledQuotient num den (unitExponent num den) ≤ 2 ^ 53 :=
    roundQuotient_le (Nat.mul_pos hden (Nat.two_pow_pos _)) (fitsUnit_unitExponent hden).le
  have hshift : (unitExponent num den + 1074).toNat ≤ k + 1022 := by omega
  simp only [Below, ofRatio, Nat.pow_eq]
  generalize scaledQuotient num den _ = q at hquotient ⊢
  generalize (unitExponent num den + 1074).toNat = s at hshift ⊢
  split
  · exact Nat.zero_le _
  rw [if_pos (by omega)]
  simp only [magnitude, Nat.pow_eq, Nat.toUInt64_eq, UInt64.toNat_ofNat']
  omega

/-- A natural number of at most `k` binary digits. -/
lemma below_ofNat {n : Nat} (h : n ≤ 2 ^ k) (hk : k ≤ 1022) : (ofNat n).Below k :=
  below_ofRatio Nat.one_pos (by rwa [Nat.mul_one]) hk

/-- The denominator of a number is positive. -/
lemma denominator_pos (x : Binary64) : 0 < x.denominator :=
  Nat.two_pow_pos _

/-- A number divided by one of at least `2 ^ j`. -/
lemma Below.div (h : x.Below (k + j)) (hk : k + 2 ≤ 1022)
    (hy : 2 ^ j * y.denominator ≤ y.numerator) : (x.div y).Below (k + 2) := by
  have hden : 0 < x.denominator * y.numerator := Nat.mul_pos x.denominator_pos
    (Nat.lt_of_lt_of_le (Nat.mul_pos (Nat.two_pow_pos j) y.denominator_pos) hy)
  refine below_ofRatio hden ?_ hk
  calc x.numerator * y.denominator
      ≤ 2 ^ (k + j + 2) * x.denominator * y.denominator := by gcongr; exact h.numerator_le
    _ = 2 ^ (k + 2) * (x.denominator * (2 ^ j * y.denominator)) := by ring
    _ ≤ 2 ^ (k + 2) * (x.denominator * y.numerator) := by gcongr

/-! ## Signs -/

/-- The sign does not stand among the bits of the magnitude. -/
lemma magnitude_neg (x : Binary64) : x.neg.magnitude = x.magnitude := by
  simp only [magnitude, neg, UInt64.toNat_xor, Nat.pow_eq, Nat.xor_mod_two_pow]
  simp

/-- A number is finite whatever its sign. -/
lemma isFinite_withSign (negative : Bool) (x : Binary64) :
    (x.withSign negative).isFinite = x.isFinite := by
  cases negative <;> simp [withSign, Binary64.isFinite, magnitude_neg]

/-! ## Powers of ten -/

/-- The powers of ten that doubles hold are at least one. -/
lemma denominator_powerOfTen_le (h : k ≤ 308) :
    2 ^ 0 * (powerOfTen k).denominator ≤ (powerOfTen k).numerator := by
  have hall : ∀ k < 309, (powerOfTen k).denominator ≤ (powerOfTen k).numerator := by
    decide +kernel
  simpa using hall k (by omega)

/-- The largest of them is far greater. -/
lemma denominator_powerOfTen_308 :
    2 ^ 2 * (powerOfTen 308).denominator ≤ (powerOfTen 308).numerator := by
  decide +kernel

end UnitLoader.Binary64
