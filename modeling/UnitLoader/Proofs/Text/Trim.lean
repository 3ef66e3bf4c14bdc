import Mathlib.Data.List.Induction
import Mathlib.Data.List.TakeWhile
import UnitLoader.Proofs.UnitName

/-!
# Blanks around texts

Blanks at the ends of a text are lost when it is trimmed, and so are those around its pieces when
these are.

## Main results

* `UnitLoader.Text.trim_cons`, `UnitLoader.Text.trim_concat` — one blank at an end does not matter.
* `UnitLoader.Text.trimEnd_append` — blanks are lost at the end of a text, whatever is before it.
* `UnitLoader.Text.map_trim_pieces_trim` — blanks around a text are blanks around its pieces.
-/

set_option relaxedAutoImplicit false
set_option autoImplicit false

namespace UnitLoader.Text

variable {c sep : Char} {text before : List Char}

/-! ## One blank -/

/-- A blank at the beginning is trimmed. -/
lemma trimStart_cons (hc : isBlank c = true) : trimStart (c :: text) = trimStart text :=
  List.dropWhile_cons_of_pos hc

/-- A blank in front of a text is lost. -/
lemma trim_cons (hc : isBlank c = true) : trim (c :: text) = trim text := by
  rw [trim, trimStart_cons hc, trim]

/-- A blank at the end is trimmed. -/
lemma trimEnd_concat (hc : isBlank c = true) : trimEnd (text ++ [c]) = trimEnd text := by
  rw [trimEnd, List.reverse_concat, List.dropWhile_cons_of_pos hc, trimEnd]

/-- A blank after a text is lost. -/
lemma trim_concat (hc : isBlank c = true) : trim (text ++ [c]) = trim text := by
  rw [trim, trim, trimStart, trimStart, List.dropWhile_append]
  split
  · next hnil =>
    rw [List.isEmpty_iff.1 hnil, List.dropWhile_cons_of_pos hc, List.dropWhile_nil]
  · exact trimEnd_concat hc

/-! ## Texts without blanks at their ends -/

/-- Nothing is trimmed at the beginning if there is no blank. -/
lemma trimStart_eq_self (h : ∀ c ∈ text.head?, isBlank c = false) : trimStart text = text := by
  cases text with
  | nil => rfl
  | cons c text => exact List.dropWhile_cons_of_neg (by simp [h c rfl])

/-- Nothing is trimmed at the end if there is no blank. -/
lemma trimEnd_eq_self (h : ∀ c ∈ text.getLast?, isBlank c = false) : trimEnd text = text := by
  have hreverse : trimStart text.reverse = text.reverse :=
    trimStart_eq_self (by rwa [List.head?_reverse])
  rw [trimEnd, ← trimStart, hreverse, List.reverse_reverse]

/-- A text without blanks at its ends stays as it is. -/
lemma trim_eq_self (hhead : ∀ c ∈ text.head?, isBlank c = false)
    (hlast : ∀ c ∈ text.getLast?, isBlank c = false) : trim text = text := by
  rw [trim, trimStart_eq_self hhead, trimEnd_eq_self hlast]

/-- A text between two characters that are no blanks stays as it is. -/
lemma trim_between {d : Char} (hc : isBlank c = false) (hd : isBlank d = false) :
    trim (c :: text ++ [d]) = c :: text ++ [d] :=
  trim_eq_self (by simpa using hc) (by rw [List.getLast?_concat]; simpa using hd)

/-! ## All blanks at an end -/

/-- Only blanks are lost at the end of a text. -/
lemma exists_trimEnd_append (text : List Char) :
    ∃ after, text = trimEnd text ++ after ∧ ∀ c ∈ after, isBlank c = true := by
  refine ⟨(text.reverse.takeWhile isBlank).reverse, ?_, fun c hc => ?_⟩
  · rw [trimEnd, ← List.reverse_append, List.takeWhile_append_dropWhile, List.reverse_reverse]
  · exact List.mem_takeWhile_imp (List.mem_reverse.1 hc)

/-- Only blanks are lost at the ends of a text. -/
lemma exists_append_trim_append (text : List Char) :
    ∃ before after, text = before ++ trim text ++ after ∧ (∀ c ∈ before, isBlank c = true) ∧
      ∀ c ∈ after, isBlank c = true := by
  obtain ⟨after, hafter, hblanks⟩ := exists_trimEnd_append (trimStart text)
  refine ⟨text.takeWhile isBlank, after, ?_, fun c hc => List.mem_takeWhile_imp hc, hblanks⟩
  rw [List.append_assoc, trim, ← hafter, trimStart, List.takeWhile_append_dropWhile]

/-- Blanks behind a text are trimmed. -/
lemma trim_append_blanks {after : List Char} (h : ∀ c ∈ after, isBlank c = true) :
    trim (text ++ after) = trim text := by
  induction after using List.reverseRecOn with
  | nil => rw [List.append_nil]
  | append_singleton after c ih =>
    rw [← List.append_assoc, trim_concat (h c (by simp)), ih fun d hd => h d (by simp [hd])]

/-- A text may be trimmed at its end first. -/
lemma trim_trimEnd (text : List Char) : trim (trimEnd text) = trim text := by
  obtain ⟨after, htext, hblanks⟩ := exists_trimEnd_append text
  conv_rhs => rw [htext, trim_append_blanks hblanks]

/-- A text that does not end in blanks only is trimmed at its end apart from what is before it. -/
lemma trimEnd_append (hne : trimEnd text ≠ []) :
    trimEnd (before ++ text) = before ++ trimEnd text := by
  have hreverse : text.reverse.dropWhile isBlank ≠ [] := fun hnil => hne (by
    rw [trimEnd, hnil]
    rfl)
  rw [trimEnd, List.reverse_append, List.dropWhile_append, if_neg (by simpa using hreverse),
    List.reverse_append, List.reverse_reverse, trimEnd]

/-! ## Blanks around pieces -/

/-- A character in front of a text, other than the separator, belongs to the first piece. -/
lemma pieces_cons_of_pieces {p : List Char} {ps : List (List Char)} (hsep : c ≠ sep)
    (h : pieces sep text = p :: ps) : pieces sep (c :: text) = (c :: p) :: ps := by
  obtain ⟨hp, hps⟩ := List.cons.inj h
  rw [pieces_cons_of_ne hsep, hp, hps]

/-- A character after a text that is no separator goes on with the last piece. -/
lemma exists_pieces_concat (hsep : c ≠ sep) (text : List Char) :
    ∃ ps p, pieces sep text = ps ++ [p] ∧ pieces sep (text ++ [c]) = ps ++ [p ++ [c]] := by
  induction text with
  | nil => exact ⟨[], [], rfl, pieces_cons_of_pieces hsep rfl⟩
  | cons d text ih =>
    obtain ⟨ps, p, htext, hconcat⟩ := ih
    rw [List.cons_append]
    by_cases hd : d = sep
    · subst hd
      exact ⟨[] :: ps, p, by rw [pieces_cons_sep, htext]; rfl,
        by rw [pieces_cons_sep, hconcat]; rfl⟩
    · cases ps with
      | nil => exact ⟨[], d :: p, pieces_cons_of_pieces hd htext, pieces_cons_of_pieces hd hconcat⟩
      | cons q ps =>
        exact ⟨(d :: q) :: ps, p, pieces_cons_of_pieces hd htext, pieces_cons_of_pieces hd hconcat⟩

section Pieces

variable (hsep : isBlank sep = false)

include hsep

/-- Blanks behind a text do not matter for its pieces, once they are trimmed. -/
lemma map_trim_pieces_append_blanks {after : List Char} (h : ∀ c ∈ after, isBlank c = true) :
    (pieces sep (text ++ after)).map trim = (pieces sep text).map trim := by
  induction after using List.reverseRecOn with
  | nil => rw [List.append_nil]
  | append_singleton after c ih =>
    have hc : isBlank c = true := h c (by simp)
    have hne : c ≠ sep := fun he => by simp [he, hsep] at hc
    obtain ⟨ps, p, htext, hconcat⟩ := exists_pieces_concat hne (text ++ after)
    rw [← List.append_assoc, hconcat, ← ih fun d hd => h d (by simp [hd]), htext, List.map_append,
      List.map_append, List.map_singleton, List.map_singleton, trim_concat hc]

/-- Blanks in front of a text do not matter for its pieces, once they are trimmed. -/
lemma map_trim_pieces_blanks_append (h : ∀ c ∈ before, isBlank c = true) :
    (pieces sep (before ++ text)).map trim = (pieces sep text).map trim := by
  induction before with
  | nil => rfl
  | cons c before ih =>
    obtain ⟨hc, hbefore⟩ := List.forall_mem_cons.1 h
    have hne : c ≠ sep := fun he => by simp [he, hsep] at hc
    rw [← ih hbefore, List.cons_append, pieces_cons_of_pieces hne rfl, List.map_cons, trim_cons hc]
    rfl

/-- Blanks around a text are blanks around its pieces. -/
lemma map_trim_pieces_trim (text : List Char) :
    (pieces sep (trim text)).map trim = (pieces sep text).map trim := by
  obtain ⟨before, after, htext, hbefore, hafter⟩ := exists_append_trim_append text
  conv_rhs => rw [htext, map_trim_pieces_append_blanks hsep hafter,
    map_trim_pieces_blanks_append hsep hbefore]

/-- Pieces are read back from the text that they make up, apart from the blanks around them. -/
lemma map_trim_pieces_trim_joinWith {ps : List (List Char)} (hne : ps ≠ [])
    (h : ∀ p ∈ ps, sep ∉ p) : (pieces sep (trim (joinWith sep ps))).map trim = ps.map trim := by
  rw [map_trim_pieces_trim hsep, pieces_joinWith hne h]

end Pieces

end UnitLoader.Text
