import Mathlib.Data.List.Induction
import Mathlib.Data.List.TakeWhile
import Mathlib.Tactic.IntervalCases
import Mathlib.Tactic.Lemma
import Mathlib.Tactic.SplitIfs
import UnitLoader.Json.Token
import UnitLoader.Proofs.Number.Bound

/-!
# Numerals of JSON are read back

A numeral in front of a text is read to its end, unless the text goes on like one. What is read is
an integer of 64 bits, with or without sign, or a finite double. The integers are read back from
their digits; a double is if its text, rounded twice by the reader, gives it again.

## Main definitions

* `UnitLoader.Json.EndsNumeral` — texts that no numeral goes on into.
* `UnitLoader.Json.Number.InRange` — the numbers that a numeral can denote.
* `UnitLoader.Json.Number.ReadsBack` — the numbers that are read back from their text.

## Main results

* `UnitLoader.Json.scanNumber?_append` — a numeral ends where the text does not go on like one.
* `UnitLoader.Json.inRange_of_scanNumber?` — every number that is read is in range.
* `UnitLoader.Json.readsBack_integer` — every integer in range is read back.
-/

set_option relaxedAutoImplicit false
set_option autoImplicit false

namespace UnitLoader.Json

open UnitLoader.Numeral (takeSign natOfDigits)

variable {text rest cs ds : List Char} {n : Option Number}

/-! ## Where a numeral ends -/

/-- A text that no numeral goes on into. -/
def EndsNumeral (rest : List Char) : Prop :=
  ∀ c ∈ rest.head?, c.isDigit = false ∧ c ≠ '.' ∧ c ≠ 'e' ∧ c ≠ 'E'

/-- At the end of a text every numeral ends. -/
lemma endsNumeral_nil : EndsNumeral [] := by
  simp [EndsNumeral]

/-- Where a numeral ends there is no digit. -/
lemma EndsNumeral.isDigit_eq_false (h : EndsNumeral rest) : ∀ c ∈ rest.head?, c.isDigit = false :=
  fun c hc => (h c hc).1

/-- What is taken from the front of a text stays the same if the text after it does not belong to
it. -/
lemma takeWhile_append_of_head {p : Char → Bool} (h : ∀ c ∈ rest.head?, p c = false) :
    (cs ++ rest).takeWhile p = cs.takeWhile p := by
  induction cs with
  | nil => cases rest <;> simp_all
  | cons c cs ih => simp only [List.cons_append, List.takeWhile_cons, ih]

/-- What is dropped at the beginning of a text does not reach into what no character of it goes on
into. -/
lemma dropWhile_append_of_head {p : Char → Bool} (h : ∀ c ∈ rest.head?, p c = false) :
    (cs ++ rest).dropWhile p = cs.dropWhile p ++ rest := by
  induction cs with
  | nil => cases rest <;> simp_all
  | cons c cs ih =>
    simp only [List.cons_append, List.dropWhile_cons, ih]
    split <;> simp

/-- A whole number is read in front of a text that no numeral goes on into. -/
lemma takeWhole?_append (h : takeWhole? text = some (ds, cs)) (hrest : EndsNumeral rest) :
    takeWhole? (text ++ rest) = some (ds, cs ++ rest) := by
  unfold takeWhole? at h
  split at h
  case h_1 => simp_all [takeWhole?]
  case h_2 hzero =>
    dsimp only at h
    split at h
    · simp at h
    next hne =>
    simp only [Option.some.injEq, Prod.mk.injEq] at h
    obtain ⟨rfl, rfl⟩ := h
    cases text with
    | nil => simp at hne
    | cons c text =>
      rw [takeWhole?.eq_def]
      split
      case h_1 heq => exact absurd (by simp_all) (hzero text)
      case h_2 =>
        dsimp only
        rw [takeWhile_append_of_head hrest.isDigit_eq_false, if_neg hne,
          dropWhile_append_of_head hrest.isDigit_eq_false]

/-- A fraction is read in front of a text that no numeral goes on into. -/
lemma takeFraction?_append (h : takeFraction? text = some (ds, cs)) (hrest : EndsNumeral rest) :
    takeFraction? (text ++ rest) = some (ds, cs ++ rest) := by
  unfold takeFraction? at h
  split at h
  case h_1 fraction =>
    dsimp only at h
    split at h
    · simp at h
    next hne =>
    simp only [Option.some.injEq, Prod.mk.injEq] at h
    obtain ⟨rfl, rfl⟩ := h
    simp only [List.cons_append, takeFraction?]
    rw [takeWhile_append_of_head hrest.isDigit_eq_false, if_neg hne,
      dropWhile_append_of_head hrest.isDigit_eq_false]
  case h_2 hpoint =>
    simp only [Option.some.injEq, Prod.mk.injEq] at h
    obtain ⟨rfl, rfl⟩ := h
    rw [takeFraction?.eq_def]
    split
    case h_2 => rfl
    case h_1 heq =>
      cases text with
      | nil => exact absurd rfl (hrest '.' (by rw [show rest = _ from heq]; rfl)).2.1
      | cons c text => exact absurd (by simp_all) (hpoint text)

/-- A sign is read in front of any text, if something comes after it. -/
lemma takeSign_append (hne : (takeSign text).2 ≠ []) :
    takeSign (text ++ rest) = ((takeSign text).1, (takeSign text).2 ++ rest) := by
  unfold takeSign at hne ⊢
  cases text with
  | nil => simp at hne
  | cons c text => split <;> split <;> simp_all

/-- An exponent is read in front of a text that no numeral goes on into. -/
lemma takeExponent?_append {e : Option Int} (h : takeExponent? text = some (e, cs))
    (hrest : EndsNumeral rest) : takeExponent? (text ++ rest) = some (e, cs ++ rest) := by
  cases text with
  | nil =>
    simp only [takeExponent?, Option.some.injEq, Prod.mk.injEq] at h
    obtain ⟨rfl, rfl⟩ := h
    cases rest with
    | nil => rfl
    | cons c rest =>
      have hc := hrest c (by simp)
      simp [takeExponent?, hc.2.2]
  | cons c text =>
    simp only [takeExponent?, List.cons_append] at h ⊢
    split at h
    case isFalse hc =>
      simp only [Option.some.injEq, Prod.mk.injEq] at h
      obtain ⟨rfl, rfl⟩ := h
      rw [if_neg hc, List.cons_append]
    case isTrue hc =>
      rw [if_pos hc]
      split at h
      · simp at h
      next hne =>
      -- There are digits behind the sign, which therefore ends before the rest.
      have hsign : (takeSign text).2 ≠ [] := fun hnil => hne (by simp [hnil])
      simp only [Option.some.injEq, Prod.mk.injEq] at h
      obtain ⟨rfl, rfl⟩ := h
      rw [takeSign_append hsign]
      dsimp only
      rw [takeWhile_append_of_head hrest.isDigit_eq_false, if_neg hne,
        dropWhile_append_of_head hrest.isDigit_eq_false]

/-- A minus is read in front of any text. -/
lemma takeMinus_append (hne : text ≠ []) :
    takeMinus (text ++ rest) = ((takeMinus text).1, (takeMinus text).2 ++ rest) := by
  unfold takeMinus
  cases text with
  | nil => simp at hne
  | cons c text => split <;> split <;> simp_all

/-- A numeral ends where the text does not go on like one. -/
theorem scanNumber?_append (h : scanNumber? text = some (n, cs)) (hrest : EndsNumeral rest) :
    scanNumber? (text ++ rest) = some (n, cs ++ rest) := by
  have hne : text ≠ [] := by
    rintro rfl
    simp [scanNumber?, takeMinus, takeWhole?] at h
  simp only [scanNumber?, bind, Option.bind_eq_some_iff] at h
  obtain ⟨⟨whole, cs₁⟩, h₁, ⟨fraction, cs₂⟩, h₂, ⟨e, cs₃⟩, h₃, h⟩ := h
  simp only [scanNumber?, bind, takeMinus_append hne, takeWhole?_append h₁ hrest,
    takeFraction?_append h₂ hrest, takeExponent?_append h₃ hrest, Option.bind_some]
  split at h <;> simp_all

/-! ## What is read -/

/-- The numbers that a numeral can denote: integers of 64 bits, with or without sign, and finite
doubles. -/
def Number.InRange : Number → Prop
  | .integer n => -2 ^ 63 ≤ n ∧ n < 2 ^ 64
  | .double x => x.isFinite = true

/-- Digits are gathered from the left. -/
lemma gatherWhole_concat (ds : List Char) (c : Char) :
    gatherWhole (ds ++ [c]) =
      if (gatherWhole ds).2 = 0 ∧ (gatherWhole ds).1 * 10 + (c.toNat - '0'.toNat) < 2 ^ 64 then
        ((gatherWhole ds).1 * 10 + (c.toNat - '0'.toNat), 0)
      else ((gatherWhole ds).1, (gatherWhole ds).2 + 1) := by
  simp [gatherWhole, UInt64.size]

/-- Gathering goes on while 64 bits hold the digits. -/
lemma gatherWhole_lt (ds : List Char) : (gatherWhole ds).1 < 2 ^ 64 := by
  induction ds using List.reverseRecOn with
  | nil => decide
  | append_singleton ds c ih =>
    rw [gatherWhole_concat]
    split_ifs with hfits
    · exact hfits.2
    · exact ih

/-- The digits of a fraction are gathered into 64 bits. -/
lemma gatherFraction_lt {m : Nat} (ds : List Char) (h : m < 2 ^ 64) :
    (gatherFraction m ds).1 < 2 ^ 64 := by
  induction ds generalizing m with
  | nil => exact h
  | cons c ds ih =>
    simp only [gatherFraction]
    split
    case isTrue hfits => exact ih hfits
    case isFalse => exact h

/-- Division by powers of ten gives nothing beyond all doubles. -/
lemma isFinite_divideByPower {x : Binary64} {k : Nat} (h : x.Below 64) :
    (divideByPower x k).isFinite = true := by
  fun_induction divideByPower x k with
  | case1 x k hk =>
    exact (Binary64.Below.div (k := 64) (j := 0) h (by omega)
      (Binary64.denominator_powerOfTen_le hk)).isFinite (by omega)
  | case2 x k hk hzero => exact h.isFinite (by omega)
  | case3 x k hk hzero ih =>
    exact ih (Binary64.Below.div (k := 62) (j := 2) h (by omega) Binary64.denominator_powerOfTen_308)

/-- A mantissa of 64 bits is scaled to a finite number, if at all. -/
lemma isFinite_of_scale? {m : Nat} {e : Int} {x : Binary64} (hm : m ≤ 2 ^ 64)
    (h : scale? m e = some x) : x.isFinite = true := by
  have hbelow := Binary64.below_ofNat hm (by omega)
  simp only [scale?] at h
  split_ifs at h with hneg hzero hlarge hfinite <;> cases h
  · exact isFinite_divideByPower hbelow
  · exact hbelow.isFinite (by omega)
  · exact hfinite

/-- A numeral without fraction and exponent gives a number in range. -/
lemma inRange_integerNumber {negative : Bool} {whole : List Char} {m : Number}
    (h : integerNumber negative whole = some m) : m.InRange := by
  have hlt := gatherWhole_lt whole
  simp only [integerNumber] at h
  split_ifs at h with hplain hminus
  · cases h
    simp only [Number.InRange]
    omega
  · simp only [Nat.pow_eq, Bool.and_eq_true, decide_eq_true_eq] at hminus
    cases h
    simp only [Number.InRange]
    omega
  · obtain ⟨x, hx, rfl⟩ := Option.map_eq_some_iff.1 h
    simp only [Number.InRange, Binary64.isFinite_withSign]
    exact isFinite_of_scale? hlt.le hx

/-- A numeral with a fraction or an exponent gives a number in range. -/
lemma inRange_doubleNumber {negative : Bool} {whole fraction : List Char} {e : Int} {m : Number}
    (h : doubleNumber negative whole fraction e = some m) : m.InRange := by
  have hlt := gatherFraction_lt fraction (gatherWhole_lt whole)
  simp only [doubleNumber] at h
  obtain ⟨x, hx, rfl⟩ := Option.map_eq_some_iff.1 h
  simp only [Number.InRange, Binary64.isFinite_withSign]
  exact isFinite_of_scale? hlt.le hx

/-- Every number that is read is in range. -/
theorem inRange_of_scanNumber? {m : Number} (h : scanNumber? text = some (some m, rest)) :
    m.InRange := by
  simp only [scanNumber?, bind, Option.bind_eq_some_iff] at h
  obtain ⟨⟨whole, cs₁⟩, -, ⟨fraction, cs₂⟩, -, ⟨e, cs₃⟩, -, h⟩ := h
  dsimp only at h
  split at h <;> simp only [Option.some.injEq, Prod.mk.injEq] at h
  · exact inRange_integerNumber h.1
  · exact inRange_doubleNumber h.1

/-! ## What is read back -/

/-- The numbers that are read back from the text that they are written as. -/
def Number.ReadsBack (m : Number) : Prop :=
  scanNumber? m.text = some (some m, [])

/-- Whether a number reads back is decided by reading it. -/
instance (m : Number) : Decidable m.ReadsBack :=
  inferInstanceAs (Decidable (_ = _))

/-- A number that 64 bits hold is gathered as a whole. -/
lemma gatherWhole_eq (h : Nat.ofDigitChars 10 ds 0 < 2 ^ 64) :
    gatherWhole ds = (Nat.ofDigitChars 10 ds 0, 0) := by
  induction ds using List.reverseRecOn with
  | nil => rfl
  | append_singleton ds c ih =>
    rw [Nat.ofDigitChars_append, Nat.ofDigitChars_cons, Nat.ofDigitChars_nil] at h ⊢
    rw [gatherWhole_concat, ih (by omega), if_pos ⟨rfl, by omega⟩, Nat.mul_comm]

/-- The digits of a number are digits. -/
lemma isDigit_toDigits (n : Nat) : ∀ c ∈ Nat.toDigits 10 n, c.isDigit = true :=
  fun _ => Nat.isDigit_of_mem_toDigits (by decide) (by decide)

/-- The digits of a number begin with a zero only if it is zero. -/
lemma eq_zero_of_toDigits_eq_cons {m : Nat} (h : Nat.toDigits 10 m = '0' :: ds) : m = 0 := by
  induction m using Nat.strongRecOn generalizing ds with
  | _ m ih =>
    rcases Nat.lt_or_ge m 10 with hlt | hle
    · rw [Nat.toDigits_of_lt_base hlt] at h
      have := (List.cons.inj h).1
      interval_cases m <;> first | rfl | exact absurd this (by decide)
    · rw [Nat.toDigits_of_base_le (by decide) hle] at h
      obtain ⟨c, cs, hcs⟩ := List.exists_cons_of_ne_nil (Nat.toDigits_ne_nil (n := m / 10) (b := 10))
      rw [hcs, List.cons_append] at h
      have := ih (m / 10) (by omega) (hcs.trans (by rw [(List.cons.inj h).1]))
      omega

/-- The digits of a number are read as a whole number. -/
lemma takeWhole?_toDigits (m : Nat) :
    takeWhole? (Nat.toDigits 10 m) = some (Nat.toDigits 10 m, []) := by
  unfold takeWhole?
  split
  case h_1 ds h =>
    obtain rfl := eq_zero_of_toDigits_eq_cons h
    simp_all
  case h_2 =>
    have hall := isDigit_toDigits m
    simp [List.takeWhile_eq_self_iff.2 hall, List.dropWhile_eq_nil_iff.2 hall]

/-- The integers in range are read back. -/
theorem readsBack_integer {m : Int} (h : (Number.integer m).InRange) :
    (Number.integer m).ReadsBack := by
  simp only [Number.InRange] at h
  have hbound : Nat.ofDigitChars 10 (Nat.toDigits 10 m.natAbs) 0 < 2 ^ 64 := by
    rw [Nat.ofDigitChars_ten_toDigits]
    omega
  have hgather := gatherWhole_eq hbound
  rw [Nat.ofDigitChars_ten_toDigits] at hgather
  have hwhole := takeWhole?_toDigits m.natAbs
  have hplain : takeMinus (Nat.toDigits 10 m.natAbs) = (false, Nat.toDigits 10 m.natAbs) := by
    unfold takeMinus
    split
    · next hcons =>
      exact absurd (isDigit_toDigits m.natAbs '-' (by simp [hcons])) (by decide)
    · rfl
  unfold Number.ReadsBack Number.text scanNumber?
  by_cases hneg : m < 0
  · have hfits : m.natAbs ≤ 0x8000000000000000 := by omega
    simp [hneg, Int.ne_of_lt hneg, takeMinus, hwhole, takeFraction?, takeExponent?, integerNumber,
      hgather, hfits, abs_of_neg]
  · simp [hneg, hplain, hwhole, takeFraction?, takeExponent?, integerNumber, hgather,
      abs_of_nonneg (Int.not_lt.1 hneg)]

end UnitLoader.Json
