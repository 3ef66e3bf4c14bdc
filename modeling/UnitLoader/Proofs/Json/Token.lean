import Mathlib.Tactic.Lemma
import Mathlib.Tactic.SplitIfs
import UnitLoader.Proofs.Json.Numeral

/-!
# JSON tokens are read back

The text of a token in front of a longer text is scanned as that token. Only a numeral depends on
what comes after it.

## Main definitions

* `UnitLoader.Json.pieceOf` — the piece of a string that a written character is read as.
* `UnitLoader.Json.Token.ReadsBack` — the tokens that are read back from their text.

## Main results

* `UnitLoader.Json.scanString?_text` — a string ends at its closing quote, with all its characters.
* `UnitLoader.Json.tokens?_text_append` — a token is read back in front of other tokens.
* `UnitLoader.Json.inRange_of_tokens?` — every number among the tokens of a text is in range.
-/

set_option relaxedAutoImplicit false
set_option autoImplicit false

namespace UnitLoader.Json

variable {text rest : List Char} {t : Token} {ts : List Token}

/-! ## Strings -/

/-- The piece that a character of a string is read as: control characters without an escape of their
own are written by their numbers. -/
def pieceOf (c : Char) : StringPiece :=
  if c.toNat < 0x20 ∧ c ∉ ['\x08', '\x0c', '\n', '\r', '\t'] then .unit c.toNat else .char c

/-- The two digits of a control character are read back as its number. -/
lemma hexUnit?_hexPair {n : Nat} (h : n < 0x20) :
    hexUnit? '0' '0' (Nat.digitChar (n / 16)) (Nat.digitChar (n % 16)) = some n := by
  have hall : ∀ n < 0x20,
      hexUnit? '0' '0' (Nat.digitChar (n / 16)) (Nat.digitChar (n % 16)) = some n := by decide
  exact hall n h

/-- A short escape is read as the character that it stands for. -/
lemma scanString?_shortEscape {c e : Char} (hu : c ≠ 'u') (h : shortEscape? c = some e) :
    scanString? ('\\' :: c :: rest) =
      (scanString? rest).map fun (ps, more) => (.char e :: ps, more) := by
  rw [scanString?.eq_def]
  simp [hu, h, Option.map_eq_bind]

/-- A written character is read as its piece. -/
lemma scanString?_escapedChar (c : Char) (rest : List Char) :
    scanString? (escapedChar c ++ rest) =
      (scanString? rest).map fun (ps, more) => (pieceOf c :: ps, more) := by
  unfold escapedChar
  split_ifs with hquote hback hb hf hn hr ht hcontrol
  case pos => subst hquote; exact scanString?_shortEscape (by decide) rfl
  case pos => subst hback; exact scanString?_shortEscape (by decide) rfl
  case pos => subst hb; exact scanString?_shortEscape (by decide) rfl
  case pos => subst hf; exact scanString?_shortEscape (by decide) rfl
  case pos => subst hn; exact scanString?_shortEscape (by decide) rfl
  case pos => subst hr; exact scanString?_shortEscape (by decide) rfl
  case pos => subst ht; exact scanString?_shortEscape (by decide) rfl
  case pos =>
    have hpiece : pieceOf c = .unit c.toNat := by simp [pieceOf, hcontrol, hb, hf, hn, hr, ht]
    simp [hpiece, hexPair, scanString?, hexUnit?_hexPair hcontrol, Option.map_eq_bind]
  case neg =>
    have hpiece : pieceOf c = .char c := by simp [pieceOf, hcontrol]
    rw [hpiece, List.singleton_append, scanString?.eq_def]
    simp [hback, hcontrol, Option.map_eq_bind]

/-- A string is read up to its closing quote. -/
theorem scanString?_text (s rest : List Char) :
    scanString? (s.flatMap escapedChar ++ '"' :: rest) = some (s.map pieceOf, rest) := by
  induction s with
  | nil => simp [scanString?]
  | cons c s ih =>
    rw [List.flatMap_cons, List.append_assoc, scanString?_escapedChar, ih]
    rfl

/-- The pieces of a written text make up the text. -/
lemma textOfPieces?_map_pieceOf (s : List Char) : textOfPieces? (s.map pieceOf) = some s := by
  induction s with
  | nil => rfl
  | cons c s ih =>
    rw [List.map_cons, pieceOf]
    split_ifs with h
    · have hlow : c.toNat < 0xd800 := by omega
      rw [textOfPieces?.eq_def]
      simp [hlow, ih]
    · simp [textOfPieces?, ih]

/-! ## Single tokens -/

/-- The tokens that are read back from the text that they are written as: all but numbers with a
text that denotes another number, and places of what denotes nothing. -/
def Token.ReadsBack : Token → Prop
  | .number n => ∃ m, n = some m ∧ m.ReadsBack
  | .string s => s.isSome
  | _ => True

/-- A numeral begins with a minus or a digit. -/
lemma head_of_scanNumber? {n : Option Number} (h : scanNumber? text = some (n, rest)) :
    ∃ c cs, text = c :: cs ∧ (c = '-' ∨ c.isDigit = true) := by
  simp only [scanNumber?, bind, Option.bind_eq_some_iff] at h
  obtain ⟨⟨whole, cs₁⟩, h, -⟩ := h
  cases text with
  | nil => simp [takeMinus, takeWhole?] at h
  | cons c cs =>
    refine ⟨c, cs, rfl, Decidable.or_iff_not_imp_left.2 fun hminus => ?_⟩
    have htake : takeMinus (c :: cs) = (false, c :: cs) := by
      unfold takeMinus
      split <;> simp_all
    rw [htake] at h
    unfold takeWhole? at h
    split at h
    · simp_all
    · cases hc : c.isDigit <;> simp_all

/-- What begins like a numeral is no other token. -/
lemma scanToken?_numeral {c : Char} {cs : List Char} (h : c = '-' ∨ c.isDigit = true) :
    scanToken? (c :: cs) = (scanNumber? (c :: cs)).map fun (n, rest) => (.number n, rest) := by
  have hpunctuation : punctuation? c = none ∧ c ≠ '"' := by
    have hne (d : Char) (hd : d ≠ '-' ∧ d.isDigit = false) : c ≠ d := by
      rintro rfl
      simp_all
    simp [punctuation?, hne]
  rw [scanToken?, hpunctuation.1]
  simp only [if_neg hpunctuation.2]
  rw [if_pos (by simpa using h)]

/-- A token is scanned from its text; a numeral only if the text after it does not go on like
one. -/
theorem scanToken?_text (ht : t.ReadsBack) (hrest : ∀ n, t = .number n → EndsNumeral rest) :
    scanToken? (t.text ++ rest) = some (t, rest) := by
  cases t with
  | openArray | closeArray | openObject | closeObject | comma | colon | null => rfl
  | bool b => cases b <;> rfl
  | number n =>
    obtain ⟨m, rfl, hm⟩ := ht
    obtain ⟨c, cs, htext, hc⟩ := head_of_scanNumber? hm
    have happend := scanNumber?_append hm (hrest _ rfl)
    rw [Token.text, htext, List.cons_append, scanToken?_numeral hc, ← List.cons_append, ← htext,
      happend]
    rfl
  | string s =>
    obtain ⟨s, rfl⟩ := Option.isSome_iff_exists.1 ht
    have hscan : scanToken? (Token.text (.string (some s)) ++ rest) =
        (scanString? (s.toList.flatMap escapedChar ++ '"' :: rest)).map fun (ps, rest) =>
          (.string ((textOfPieces? ps).map String.ofList), rest) := by
      simp [Token.text, stringText, scanToken?, punctuation?]
    rw [hscan, scanString?_text]
    simp [textOfPieces?_map_pieceOf]

/-! ## All tokens -/

/-- No token begins with a blank. -/
lemma isSpace_eq_false_of_scanToken? {c : Char} {cs : List Char}
    (h : scanToken? (c :: cs) = some (t, rest)) : isSpace c = false := by
  by_contra hspace
  simp only [isSpace, Bool.not_eq_false, Bool.or_eq_true, decide_eq_true_eq] at hspace
  rcases hspace with ((rfl | rfl) | rfl) | rfl <;> cases h

/-- The tokens of a text are the one in front and those after it. -/
lemma tokens?_of_scanToken? (h : scanToken? text = some (t, rest)) :
    tokens? text = (tokens? rest).map (t :: ·) := by
  have hdrop : text.dropWhile isSpace = text := by
    cases text with
    | nil => rfl
    | cons c cs => simp [isSpace_eq_false_of_scanToken? h]
  have hne : text ≠ [] := by
    rintro rfl
    cases h
  rw [tokens?, if_neg (hdrop.symm ▸ hne)]
  split
  case h_1 hscan => simp [hdrop, h] at hscan
  case h_2 hscan =>
    rw [hdrop, h] at hscan
    cases hscan
    rfl

/-- A token is read back in front of other tokens. -/
theorem tokens?_text_append (ht : t.ReadsBack) (hrest : ∀ n, t = .number n → EndsNumeral rest) :
    tokens? (t.text ++ rest) = (tokens? rest).map (t :: ·) :=
  tokens?_of_scanToken? (scanToken?_text ht hrest)

/-- A number that is scanned is in range. -/
lemma inRange_of_scanToken? {n : Number} (h : scanToken? text = some (.number (some n), rest)) :
    n.InRange := by
  unfold scanToken? at h
  split at h
  · cases h
  split at h
  · next hpunctuation =>
    cases h
    simp only [punctuation?] at hpunctuation
    split_ifs at hpunctuation <;> cases hpunctuation
  split_ifs at h
  · simp at h
  · obtain ⟨⟨m, more⟩, hm, heq⟩ := Option.map_eq_some_iff.1 h
    cases heq
    exact inRange_of_scanNumber? hm
  · obtain ⟨u, hu, hword⟩ := List.exists_of_findSome?_eq_some h
    obtain ⟨more, -, heq⟩ := Option.map_eq_some_iff.1 hword
    simp_all

/-- Every number among the tokens of a text is in range. -/
theorem inRange_of_tokens? {n : Number} (h : tokens? text = some ts)
    (hn : .number (some n) ∈ ts) : n.InRange := by
  fun_induction tokens? text generalizing ts with
  | case1 => simp_all
  | case2 => simp at h
  | case3 text _ t rest hscan _ ih =>
    obtain ⟨us, hus, rfl⟩ := Option.map_eq_some_iff.1 h
    rcases List.mem_cons.1 hn with rfl | hn
    · exact inRange_of_scanToken? hscan
    · exact ih hus hn

end UnitLoader.Json
