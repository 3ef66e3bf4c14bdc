import Mathlib.Data.List.TakeWhile
import UnitLoader.Json.Token
import UnitLoader.Toml.Document

/-!
# TOML values are read back

A text is written between quotes, and texts are written between brackets, with a comma and a blank
between two of them. Whatever the texts hold, they are read back in front of anything that does not
go on with a quote.

## Main definitions

* `UnitLoader.Toml.quoted` — how a text is written.
* `UnitLoader.Toml.Told`, `UnitLoader.Toml.Told.written` — texts and lists of texts, and how they are
  written.

## Main results

* `UnitLoader.Toml.text_quoted` — a text is read back.
* `UnitLoader.Toml.value_written` — what is told by an entry is read back.
-/

set_option relaxedAutoImplicit false
set_option autoImplicit false

namespace UnitLoader.Toml

variable {c : Char} {rest : List Char} {size : Nat}

/-! ## Characters of a text -/

/-- A character between quotes: a quote and a backslash are escaped, and so is, by its number, what may
not stand in a text. -/
def escaped (c : Char) : List Char :=
  if c = '"' ∨ c = '\\' then ['\\', c]
  else if isTextChar c then [c]
  else ['\\', 'u', '0', '0'] ++ Json.hexPair c.toNat

/-- Only control characters may not stand in a text. -/
lemma toNat_lt_of_isTextChar (hc : isTextChar c = false) : c.toNat < 128 := by
  by_contra hlarge
  have hspace : ' ' ≤ c := by
    rw [Char.le_def, UInt32.le_iff_toNat_le]
    exact le_trans (by decide) (not_lt.1 hlarge)
  have hne : c ≠ '\x7f' := by
    rintro rfl
    exact hlarge (by decide)
  simp [isTextChar, hspace, hne] at hc

/-- A control character is read back from its number. -/
lemma escape_hexPair (hc : c.toNat < 128) (rest : List Char) :
    escape ('u' :: '0' :: '0' :: (Json.hexPair c.toNat ++ rest)) = some (c, rest) := by
  have hdigits : ∀ n < 128, valueOfDigits 16 ('0' :: '0' :: Json.hexPair n) = n ∧
      (Json.hexPair n).all isHexDigit = true := by decide
  obtain ⟨hvalue, hhex⟩ := hdigits c.toNat hc
  have htake : ('0' :: '0' :: (Json.hexPair c.toNat ++ rest)).take 4 =
      '0' :: '0' :: Json.hexPair c.toNat := rfl
  have hvalid : c.toNat.isValidChar := c.valid
  have hzero : isHexDigit '0' = true := by decide
  rw [escape, codePoint, htake, hvalue]
  simp only [List.all_cons, hzero, hhex, hvalid]
  exact congrArg (fun d => some (d, rest)) (Char.ofNat_toNat c)

/-- An escaped character is read, and the text goes on after it. -/
lemma quotedRest_escape {cs : List Char} (h : escape cs = some (c, rest)) (size : Nat) :
    quotedRest (size + 1) ('\\' :: cs) =
      (quotedRest size rest).map fun (more, rest) => (c :: more, rest) := by
  rw [quotedRest, h, Option.map_eq_bind]
  rfl

/-- A written character is read back, and the text goes on after it. -/
lemma quotedRest_escaped (c : Char) (size : Nat) (rest : List Char) :
    quotedRest (size + 1) (escaped c ++ rest) =
      (quotedRest size rest).map fun (more, rest) => (c :: more, rest) := by
  unfold escaped
  split_ifs with hquote htext
  case pos => exact quotedRest_escape (by rcases hquote with rfl | rfl <;> rfl) size
  case pos =>
    obtain ⟨hquote, hback⟩ := not_or.1 hquote
    rw [List.singleton_append, quotedRest]
    · simp only [htext, Bool.not_true]
      cases quotedRest size rest <;> rfl
    · exact hquote
    · exact hback
  case neg =>
    have hcontrol := toNat_lt_of_isTextChar (Bool.eq_false_iff.2 htext)
    exact quotedRest_escape (escape_hexPair hcontrol rest) size

/-! ## Texts -/

/-- A text between quotes. -/
def quoted (text : String) : List Char :=
  '"' :: (text.toList.flatMap escaped ++ ['"'])

/-- The rest of a text is read up to its closing quote. -/
lemma quotedRest_flatMap {text : List Char} (hsize : text.length < size) (rest : List Char) :
    quotedRest size (text.flatMap escaped ++ '"' :: rest) = some (text, rest) := by
  induction text generalizing size with
  | nil =>
    obtain ⟨size, rfl⟩ := Nat.exists_eq_add_one.2 hsize
    rfl
  | cons c text ih =>
    obtain ⟨size, rfl⟩ := Nat.exists_eq_add_one.2 (Nat.zero_lt_of_lt hsize)
    rw [List.flatMap_cons, List.append_assoc, quotedRest_escaped,
      ih (Nat.lt_of_succ_lt_succ hsize)]
    rfl

/-- No written character begins with a quote. -/
lemma head?_escaped (c : Char) : (escaped c).head? ≠ some '"' := by
  unfold escaped
  split_ifs with hquote
  · simp
  · simp [(not_or.1 hquote).1]
  · simp

/-- Escaping does not make a text shorter. -/
lemma length_le_length_flatMap (text : List Char) :
    text.length ≤ (text.flatMap escaped).length := by
  induction text with
  | nil => exact Nat.le_refl 0
  | cons c text ih =>
    have hne : escaped c ≠ [] := by
      unfold escaped
      split_ifs <;> simp
    have hpos := List.length_pos_iff.2 hne
    rw [List.flatMap_cons, List.length_append, List.length_cons]
    omega

/-- Between quotes that close at once, or that do not, there is no text of several lines. -/
lemma ne_three_quotes (text : List Char) (hrest : rest.head? ≠ some '"') (more : List Char) :
    text.flatMap escaped ++ '"' :: rest ≠ '"' :: '"' :: more := by
  intro he
  cases text with
  | nil =>
    obtain rfl : rest = '"' :: more := (List.cons.inj he).2
    exact hrest rfl
  | cons c text =>
    obtain ⟨d, ds, hd⟩ : ∃ d ds, escaped c = d :: ds := by
      unfold escaped
      split_ifs <;> exact ⟨_, _, rfl⟩
    have hhead := head?_escaped c
    rw [List.flatMap_cons, hd] at he
    rw [hd, (List.cons.inj he).1] at hhead
    exact hhead rfl

/-- A text is read back, unless another quote follows: then it could be one of several lines. -/
theorem text_quoted (s : String) (hrest : rest.head? ≠ some '"') :
    text (quoted s ++ rest) = some (s, rest) := by
  have hinput : quoted s ++ rest = '"' :: (s.toList.flatMap escaped ++ '"' :: rest) := by
    simp [quoted]
  have hline : lineText (quoted s ++ rest) = some (s.toList, rest) := by
    have hlength := length_le_length_flatMap s.toList
    rw [hinput, lineText]
    refine quotedRest_flatMap ?_ rest
    rw [List.length_append, List.length_cons]
    omega
  unfold text
  split
  · next he => exact absurd (List.cons.inj (hinput.symm.trans he)).2 (ne_three_quotes _ hrest _)
  · next he => exact absurd (List.cons.inj (hinput.symm.trans he)).1 (by decide)
  · simp [hline]

/-! ## Texts between brackets -/

/-- Texts with a comma and a blank between two of them. -/
def listed : List String → List Char
  | [] => []
  | [s] => quoted s
  | s :: ss => quoted s ++ ',' :: ' ' :: listed ss

/-- A character that is no blank and begins neither a comment nor the end of a line. -/
def isSolid (c : Char) : Bool :=
  !isSpace c && c ≠ '#' && c ≠ '\n' && c ≠ '\r'

/-- Blanks in front of something else are skipped. -/
lemma skipSpace_append {blanks : List Char} (hblanks : ∀ b ∈ blanks, isSpace b)
    (hc : isSpace c = false) (rest : List Char) : skipSpace (blanks ++ c :: rest) = c :: rest := by
  rw [skipSpace, List.dropWhile_append_of_pos hblanks, List.dropWhile_cons_of_neg (by simp [hc])]

/-- Blanks are skipped up to the first character that is not. -/
lemma skipBlank_append {blanks : List Char} (hblanks : ∀ b ∈ blanks, isSpace b)
    (hc : isSolid c = true) (rest : List Char) : skipBlank (blanks ++ c :: rest) = c :: rest := by
  simp only [isSolid, Bool.and_eq_true, Bool.not_eq_true', decide_eq_true_eq] at hc
  obtain ⟨⟨⟨hspace, hcomment⟩, hfeed⟩, hreturn⟩ := hc
  have hlength : (blanks ++ c :: rest).length = (blanks ++ rest).length + 1 := by
    simp only [List.length_append, List.length_cons]
    omega
  have hnewline : newline (c :: rest) = none := by
    unfold newline
    split <;> simp_all
  have hskip : skipComment (c :: rest) = c :: rest := by
    unfold skipComment
    split <;> simp_all
  rw [skipBlank, hlength, skipLines, skipSpace_append hblanks hspace rest, hskip]
  dsimp only
  rw [hnewline]

/-- A quote begins a value that is a text. -/
lemma value_of_text {input : List Char} {s : String} (h : text ('"' :: input) = some (s, rest))
    (depth : Nat) : value depth ('"' :: input) = some (.text s, rest) := by
  cases depth <;> simp [value, scalar, h]

/-- A text is read back as a value. -/
lemma value_quoted (depth : Nat) (s : String) (hrest : rest.head? ≠ some '"') :
    value depth (quoted s ++ rest) = some (.text s, rest) :=
  value_of_text (text_quoted s hrest) depth

/-- An item is read up to the comma or the bracket that follows it. -/
lemma arrayItems_quoted (depth size : Nat) (s : String) {blanks : List Char}
    (hblanks : ∀ b ∈ blanks, isSpace b)
    (hc : isSolid c = true) (hquote : c ≠ '"') (rest : List Char) :
    arrayItems (value depth) (size + 1) (blanks ++ (quoted s ++ c :: rest)) =
      if c = ',' then
        (arrayItems (value depth) size rest).map fun (vs, rest) => (.text s :: vs, rest)
      else if c = ']' then some ([.text s], rest)
      else none := by
  have hvalue : value depth (quoted s ++ c :: rest) = some (.text s, c :: rest) :=
    value_quoted depth s (by simpa using hquote)
  -- The character after the item is solid, so that it is the next thing to be read.
  have hafter : skipBlank (c :: rest) = c :: rest :=
    skipBlank_append (List.forall_mem_nil _) hc rest
  have hbefore : skipBlank (blanks ++ (quoted s ++ c :: rest)) = quoted s ++ c :: rest :=
    skipBlank_append hblanks (by decide) _
  rw [arrayItems, hbefore]
  split
  · next he => exact absurd (List.cons.inj he).1 (by decide)
  · rw [hvalue]
    simp only [Option.bind_eq_bind, Option.bind_some, hafter]
    split
    · next he =>
      obtain ⟨rfl, rfl⟩ := List.cons.inj he
      rw [if_pos rfl]
      cases arrayItems (value depth) size _ <;> rfl
    · next he =>
      obtain ⟨rfl, rfl⟩ := List.cons.inj he
      rfl
    · next hcomma hbracket =>
      have hcomma' : c ≠ ',' := fun he => hcomma rest (he ▸ rfl)
      have hbracket' : c ≠ ']' := fun he => hbracket rest (he ▸ rfl)
      rw [if_neg hcomma', if_neg hbracket']

/-- Texts are read back up to their closing bracket. -/
lemma arrayItems_listed (depth : Nat) {ss : List String} (hsize : ss.length < size)
    {blanks : List Char} (hblanks : ∀ b ∈ blanks, isSpace b) (rest : List Char) :
    arrayItems (value depth) size (blanks ++ (listed ss ++ ']' :: rest)) =
      some (ss.map .text, rest) := by
  induction ss generalizing size blanks with
  | nil =>
    obtain ⟨size, rfl⟩ := Nat.exists_eq_add_one.2 hsize
    rw [arrayItems, listed, List.nil_append, skipBlank_append hblanks (by decide) rest]
    rfl
  | cons s ss ih =>
    obtain ⟨size, rfl⟩ := Nat.exists_eq_add_one.2 (Nat.zero_lt_of_lt hsize)
    cases ss with
    | nil => exact arrayItems_quoted depth size s hblanks (by decide) (by decide) rest
    | cons s' ss =>
      have hblank : ∀ b ∈ [' '], isSpace b = true := List.forall_mem_singleton.2 rfl
      have hmore := ih (Nat.lt_of_succ_lt_succ hsize) hblank
      have hlisted : listed (s :: s' :: ss) ++ ']' :: rest =
          quoted s ++ ',' :: ([' '] ++ (listed (s' :: ss) ++ ']' :: rest)) := by
        simp [listed]
      rw [hlisted, arrayItems_quoted depth size s hblanks (by decide) (by decide), if_pos rfl,
        hmore]
      rfl

/-! ## What entries tell -/

/-- What an entry tells: a text or several. -/
inductive Told where
  | text (text : String)
  | texts (texts : List String)
  deriving DecidableEq, Repr

/-- The value of an entry. -/
def Told.value : Told → Value
  | .text s => .text s
  | .texts ss => .array (ss.map .text)

/-- How the value of an entry is written. -/
def Told.written : Told → List Char
  | .text s => quoted s
  | .texts ss => '[' :: (listed ss ++ [']'])

/-- A list of texts is at least as long as it has texts. -/
lemma length_le_length_listed (ss : List String) : ss.length ≤ (listed ss).length := by
  induction ss with
  | nil => exact Nat.le_refl 0
  | cons s ss ih =>
    cases ss with
    | nil => simp [listed, quoted]
    | cons s' ss =>
      have hlisted : listed (s :: s' :: ss) = quoted s ++ ',' :: ' ' :: listed (s' :: ss) := rfl
      simp only [hlisted, List.length_append, List.length_cons] at ih ⊢
      omega

/-- After a bracket there are the items of an array. -/
lemma value_of_arrayItems {depth : Nat} {input : List Char} {vs : List Value}
    (h : arrayItems (value depth) (input.length + 1) input = some (vs, rest)) :
    value (depth + 1) ('[' :: input) = some (.array vs, rest) := by
  simp [value, h]

/-- What is told by an entry is read back, unless a quote follows. -/
theorem value_written (t : Told) (hrest : rest.head? ≠ some '"') :
    value maxDepth (t.written ++ rest) = some (t.value, rest) := by
  cases t with
  | text s => exact value_quoted maxDepth s hrest
  | texts ss =>
    have hlength := length_le_length_listed ss
    have hsize : ss.length < (listed ss ++ ']' :: rest).length + 1 := by
      rw [List.length_append]
      omega
    have hinput : (Told.texts ss).written ++ rest = '[' :: (listed ss ++ ']' :: rest) := by
      simp [Told.written]
    rw [hinput]
    exact value_of_arrayItems (arrayItems_listed 78 hsize (List.forall_mem_nil _) rest)

end UnitLoader.Toml
