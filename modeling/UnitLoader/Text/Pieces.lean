import UnitLoader.Text.Character

/-!
# Cutting text into pieces

Texts are cut as lists of characters: at every separator, at the first occurrence of a mark, and
free of the blanks around them.

## Main definitions

* `UnitLoader.Text.pieces`: the pieces between the separators; there is always at least one.
* `UnitLoader.Text.joinWith`: pieces put together again with the separator between them.
* `UnitLoader.Text.splitOnce?`: what stands before and after the first occurrence of a mark.
* `UnitLoader.Text.trim`: a text without the blanks around it.

## Main results

* `UnitLoader.Text.joinWith_pieces`: joining the pieces of a text gives the text.
* `UnitLoader.Text.pieces_append_sep`: the pieces of two texts with a separator between them.
* `UnitLoader.Text.eq_of_splitOnce?`: the two parts and the mark make up the text.
-/

namespace UnitLoader.Text

/-! ## Separators -/

/-- The first piece of a text and the pieces after it. -/
def cut (sep : Char) : List Char → List Char × List (List Char)
  | [] => ([], [])
  | c :: cs =>
    let (p, ps) := cut sep cs
    if c = sep then ([], p :: ps) else (c :: p, ps)

/-- The pieces of a text between the occurrences of a separator. The empty text has one piece, the
empty one. -/
def pieces (sep : Char) (text : List Char) : List (List Char) :=
  let (p, ps) := cut sep text
  p :: ps

/-- Pieces put together with a separator between every two. -/
def joinWith (sep : Char) : List (List Char) → List Char
  | [] => []
  | [p] => p
  | p :: q :: ps => p ++ sep :: joinWith sep (q :: ps)

variable {sep : Char}

/-- An empty text has one piece, which is empty. -/
@[simp]
theorem pieces_nil : pieces sep [] = [[]] := rfl

/-- There is always a first piece. -/
theorem pieces_ne_nil (text : List Char) : pieces sep text ≠ [] := by
  simp [pieces]

/-- A separator at the beginning ends an empty piece. -/
@[simp]
theorem pieces_cons_sep (text : List Char) : pieces sep (sep :: text) = [] :: pieces sep text := by
  simp [pieces, cut]

/-- Any other character at the beginning belongs to the first piece. -/
theorem pieces_cons_of_ne {c : Char} (h : c ≠ sep) (text : List Char) :
    pieces sep (c :: text) = (c :: (cut sep text).1) :: (cut sep text).2 := by
  simp [pieces, cut, h]

/-- A piece is joined to the pieces of a text by a separator in front of the text. -/
@[simp]
theorem joinWith_cons_pieces (p : List Char) (text : List Char) :
    joinWith sep (p :: pieces sep text) = p ++ sep :: joinWith sep (pieces sep text) := rfl

/-- Joining the pieces of a text gives the text back. -/
theorem joinWith_pieces (text : List Char) : joinWith sep (pieces sep text) = text := by
  induction text with
  | nil => rfl
  | cons c cs ih =>
    by_cases h : c = sep
    · subst h
      simp [ih]
    · rw [pieces_cons_of_ne h]
      rw [pieces] at ih
      rcases hc : cut sep cs with ⟨p, _ | ⟨q, ps⟩⟩ <;> simp_all [joinWith]

/-- A separator between two texts ends the last piece of the first. -/
theorem pieces_append_sep (a b : List Char) :
    pieces sep (a ++ sep :: b) = pieces sep a ++ pieces sep b := by
  induction a with
  | nil => simp
  | cons c cs ih =>
    by_cases h : c = sep
    · subst h
      simp [ih]
    · simp only [List.cons_append, pieces_cons_of_ne h]
      simp only [pieces] at ih ⊢
      simp_all

/-! ## Marks -/

/-- What stands before and after the first occurrence of a mark. -/
def splitOnce? (mark : List Char) : List Char → Option (List Char × List Char)
  | [] => if mark = [] then some ([], []) else none
  | c :: cs =>
    match mark.isPrefixOf? (c :: cs) with
    | some rest => some ([], rest)
    | none => (splitOnce? mark cs).map fun (before, after) => (c :: before, after)

/-- A mark with a character in it is not at the beginning of an empty text. -/
theorem isPrefixOf?_cons_nil (m : Char) (ms : List Char) : (m :: ms).isPrefixOf? [] = none := rfl

/-- A mark is at the beginning of a text if it is so character by character. -/
theorem isPrefixOf?_cons_cons (m c : Char) (ms cs : List Char) :
    (m :: ms).isPrefixOf? (c :: cs) = if m == c then ms.isPrefixOf? cs else none := rfl

/-- A text that begins with a mark is the mark and what is left of it. -/
theorem isPrefixOf?_eq_some {mark text rest : List Char} (h : mark.isPrefixOf? text = some rest) :
    text = mark ++ rest := by
  induction mark generalizing text with
  | nil => exact Option.some.inj h
  | cons m ms ih =>
    cases text with
    | nil => simp [isPrefixOf?_cons_nil] at h
    | cons c cs =>
      rw [isPrefixOf?_cons_cons] at h
      split at h
      · next hm => rw [ih h, eq_of_beq hm, List.cons_append]
      · simp at h

/-- The part before the mark, the mark and the part after it make up the text. -/
theorem eq_of_splitOnce? {mark text before after : List Char}
    (h : splitOnce? mark text = some (before, after)) : text = before ++ mark ++ after := by
  induction text generalizing before with
  | nil =>
    by_cases hm : mark = []
    · simp_all [splitOnce?]
    · simp [splitOnce?, hm] at h
  | cons c cs ih =>
    rw [splitOnce?] at h
    split at h
    · next rest hr =>
      simp only [Option.some.injEq, Prod.mk.injEq] at h
      obtain ⟨rfl, rfl⟩ := h
      simpa using isPrefixOf?_eq_some hr
    · obtain ⟨⟨b, a⟩, hs, hp⟩ := Option.map_eq_some_iff.1 h
      simp only [Prod.mk.injEq] at hp
      obtain ⟨rfl, rfl⟩ := hp
      simp [ih hs]

/-! ## Blanks -/

/-- A text without the blanks at its beginning. -/
def trimStart (text : List Char) : List Char :=
  text.dropWhile isBlank

/-- A text without the blanks at its end. -/
def trimEnd (text : List Char) : List Char :=
  (text.reverse.dropWhile isBlank).reverse

/-- A text without the blanks around it. -/
def trim (text : List Char) : List Char :=
  trimEnd (trimStart text)

end UnitLoader.Text
