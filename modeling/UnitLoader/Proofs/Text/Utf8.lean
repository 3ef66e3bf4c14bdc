import Mathlib.Tactic.Lemma
import Mathlib.Tactic.SplitIfs
import UnitLoader.Text.Utf8

/-!
# UTF-8 is read back

The bytes of a text are decoded to the text, wherever in a longer text they stand. A character has
up to four bytes: the first tells how many follow, and each of the others carries six bits.

## Main results

* `UnitLoader.Text.Utf8.decode_encode` — the bytes of a text are decoded to it.
-/

set_option relaxedAutoImplicit false
set_option autoImplicit false

namespace UnitLoader.Text.Utf8

variable {a b c d n : Nat}

/-! ## Bytes after the first -/

/-- A number below 256 is that of its byte. -/
lemma toNat_ofNat (h : n < 256) : (UInt8.ofNat n).toNat = n :=
  UInt8.toNat_ofNat_of_lt' h

/-- A byte with six bits of a character continues a sequence. -/
lemma isContinuation_ofNat (h : n < 64) : isContinuation (.ofNat (n + 128)) = true := by
  have hn := toNat_ofNat (n := n + 128) (by omega)
  simp only [isContinuation, Bool.and_eq_true, decide_eq_true_eq, UInt8.le_iff_toNat_le, hn,
    UInt8.reduceToNat]
  omega

/-- Such a byte carries the six bits. -/
lemma payload_ofNat (h : n < 64) : payload (.ofNat (n + 128)) = n := by
  rw [payload, toNat_ofNat (by omega)]
  omega

/-- The first two bytes of a character of three or four bytes may stand next to each other: no
character has an overlong form, is a surrogate or is beyond the last code point. -/
lemma isSecond_ofNat (ha : a < 256) (hb : b < 64) (h₀ : a = 0xe0 → 0x20 ≤ b)
    (h₁ : a = 0xed → b < 0x20) (h₂ : a = 0xf0 → 0x10 ≤ b) (h₃ : a = 0xf4 → b < 0x10) :
    isSecond (.ofNat a) (.ofNat (b + 128)) = true := by
  have hn := toNat_ofNat ha
  have hm := toNat_ofNat (n := b + 128) (by omega)
  have hcontinues := isContinuation_ofNat hb
  unfold isSecond
  simp only [← UInt8.toNat_inj, hn, UInt8.reduceToNat]
  split_ifs
  case neg => exact hcontinues
  all_goals
    simp only [Bool.and_eq_true, decide_eq_true_eq, UInt8.le_iff_toNat_le, hm, UInt8.reduceToNat]
    omega

/-! ## Characters by the number of their bytes -/

/-- A sequence of one byte is decoded. -/
lemma decodeFrom_one (index : Nat) (rest : Bytes) (ha : a < 0x80) :
    decodeFrom index (.ofNat a :: rest) = andThen a (decodeFrom (index + 1) rest) := by
  have hn := toNat_ofNat (n := a) (by omega)
  rw [decodeFrom.eq_def]
  simp only [UInt8.lt_iff_toNat_lt, hn, UInt8.reduceToNat, ha, if_true]

/-- A sequence of two bytes is decoded, if one byte would not have done. -/
lemma decodeFrom_two (index : Nat) (rest : Bytes) (ha : 2 ≤ a) (ha' : a < 32) (hb : b < 64) :
    decodeFrom index (.ofNat (a + 192) :: .ofNat (b + 128) :: rest) =
      andThen (a * 64 + b) (decodeFrom (index + 2) rest) := by
  have hn := toNat_ofNat (n := a + 192) (by omega)
  have hfirst : ¬ a + 192 < 128 := by omega
  have hsecond : 194 ≤ a + 192 ∧ a + 192 ≤ 223 := by omega
  have hmod : (a + 192) % 32 = a := by omega
  rw [decodeFrom.eq_def]
  simp only [UInt8.lt_iff_toNat_lt, UInt8.le_iff_toNat_le, hn, UInt8.reduceToNat, hfirst, hsecond,
    hmod, isContinuation_ofNat hb, payload_ofNat hb, if_true, if_false, decide_true, Bool.and_self]

/-- A sequence of three bytes is decoded, if two bytes would not have done and it denotes no
surrogate. -/
lemma decodeFrom_three (index : Nat) (rest : Bytes) (ha : a < 16) (hb : b < 64) (hc : c < 64)
    (hlong : a = 0 → 32 ≤ b) (hsurrogate : a = 13 → b < 32) :
    decodeFrom index (.ofNat (a + 224) :: .ofNat (b + 128) :: .ofNat (c + 128) :: rest) =
      andThen (a * 4096 + b * 64 + c) (decodeFrom (index + 3) rest) := by
  have hn := toNat_ofNat (n := a + 224) (by omega)
  have hfirst : ¬ a + 224 < 128 ∧ ¬ a + 224 ≤ 223 := by omega
  have hthird : 224 ≤ a + 224 ∧ a + 224 ≤ 239 := by omega
  have hmod : (a + 224) % 16 = a := by omega
  have hnext := isSecond_ofNat (a := a + 224) (by omega) hb (by omega) (by omega) (by omega)
    (by omega)
  rw [decodeFrom.eq_def]
  simp only [UInt8.lt_iff_toNat_lt, UInt8.le_iff_toNat_le, hn, UInt8.reduceToNat, hfirst, hthird,
    hmod, hnext, isContinuation_ofNat hc, payload_ofNat hb, payload_ofNat hc, if_true, if_false,
    decide_true, decide_false, Bool.and_self, Bool.and_false, Bool.not_true, Bool.false_eq_true]

/-- A sequence of four bytes is decoded, if three bytes would not have done and it denotes a code
point. -/
lemma decodeFrom_four (index : Nat) (rest : Bytes) (ha : a ≤ 4) (hb : b < 64) (hc : c < 64)
    (hd : d < 64) (hlong : a = 0 → 16 ≤ b) (hlast : a = 4 → b < 16) :
    decodeFrom index (.ofNat (a + 240) :: .ofNat (b + 128) :: .ofNat (c + 128) ::
        .ofNat (d + 128) :: rest) =
      andThen (a * 262144 + b * 4096 + c * 64 + d) (decodeFrom (index + 4) rest) := by
  have hn := toNat_ofNat (n := a + 240) (by omega)
  have hfirst : ¬ a + 240 < 128 ∧ ¬ a + 240 ≤ 223 ∧ ¬ a + 240 ≤ 239 := by omega
  have hfourth : 240 ≤ a + 240 ∧ a + 240 ≤ 244 := by omega
  have hmod : (a + 240) % 8 = a := by omega
  have hnext := isSecond_ofNat (a := a + 240) (by omega) hb (by omega) (by omega) (by omega)
    (by omega)
  rw [decodeFrom.eq_def]
  simp only [UInt8.lt_iff_toNat_lt, UInt8.le_iff_toNat_le, hn, UInt8.reduceToNat, hfirst, hfourth,
    hmod, hnext, isContinuation_ofNat hc, isContinuation_ofNat hd, payload_ofNat hb,
    payload_ofNat hc, payload_ofNat hd, if_true, if_false, decide_true, decide_false,
    Bool.and_self, Bool.and_false, Bool.not_true, Bool.false_eq_true]

/-! ## Texts -/

/-- The bytes of a character are decoded to it. -/
lemma decodeFrom_encodeChar (x : Char) (index : Nat) (rest : Bytes) :
    ∃ next, decodeFrom index (String.utf8EncodeChar x ++ rest) =
      andThen x.toNat (decodeFrom next rest) := by
  have hvalid : x.toNat < 0xd800 ∨ 0xdfff < x.toNat ∧ x.toNat < 0x110000 := x.valid
  unfold String.utf8EncodeChar
  rw [show x.val.toNat = x.toNat from rfl]
  generalize x.toNat = v at hvalid
  dsimp only
  split_ifs
  · exact ⟨index + 1, decodeFrom_one index rest (by omega)⟩
  · refine ⟨index + 2, (decodeFrom_two index rest ?_ ?_ ?_).trans ?_⟩
    case refine_4 => rw [show v / 64 % 32 * 64 + v % 64 = v by omega]
    all_goals omega
  · refine ⟨index + 3, (decodeFrom_three index rest ?_ ?_ ?_ ?_ ?_).trans ?_⟩
    case refine_6 => rw [show v / 4096 % 16 * 4096 + v / 64 % 64 * 64 + v % 64 = v by omega]
    all_goals omega
  · refine ⟨index + 4, (decodeFrom_four index rest ?_ ?_ ?_ ?_ ?_ ?_).trans ?_⟩
    case refine_7 =>
      rw [show v / 262144 % 8 * 262144 + v / 4096 % 64 * 4096 + v / 64 % 64 * 64 + v % 64 = v by
        omega]
    all_goals omega

/-- What a text is encoded as is decoded to it. -/
lemma decodeFrom_encode (text : List Char) (index : Nat) :
    decodeFrom index (encode text) = .ok text := by
  induction text generalizing index with
  | nil => rfl
  | cons x text ih =>
    obtain ⟨next, hnext⟩ := decodeFrom_encodeChar x index (encode text)
    rw [encode, List.flatMap_cons, ← encode, hnext, ih next, andThen, Except.map, Char.ofNat_toNat]

/-- The bytes of a text are decoded to it. -/
theorem decode_encode (text : List Char) : decode (encode text) = .ok text :=
  decodeFrom_encode text 0

end UnitLoader.Text.Utf8
