import Mathlib.Tactic.Lemma
import UnitLoader.Proofs.Json.Reader
import UnitLoader.Proofs.Text.Utf8

/-!
# JSON is read back

Of all values only infinities and NaNs are not written as what they are: they are written `null`.
What is written is read back, if each of its numbers is.

## Main definitions

* `UnitLoader.Json.written` — what a value is written as.
* `UnitLoader.Json.Holds` — the items of an array, and the values of the fields of an object.
* `UnitLoader.Json.IsLegible` — the values of which every token is read back.

## Main results

* `UnitLoader.Json.print_written` — a value and what it is written as have the same text.
* `UnitLoader.Json.read?_print` — what is written is read back.
-/

set_option relaxedAutoImplicit false
set_option autoImplicit false

namespace UnitLoader.Json

variable {t : Token}

/-! ## What is written -/

mutual

/-- What a value is written as: an infinity or a NaN is written `null`. -/
def written : Json → Json
  | .number (some (.double x)) => if x.isFinite then .number (some (.double x)) else .null
  | .array items => .array (writtenItems items)
  | .object fields => .object (writtenFields fields)
  | j => j

/-- What values are written as. -/
def writtenItems : List Json → List Json
  | [] => []
  | j :: js => written j :: writtenItems js

/-- What fields are written as. -/
def writtenFields : List (Option String × Json) → List (Option String × Json)
  | [] => []
  | (key, j) :: fields => (key, written j) :: writtenFields fields

end

/-- Items are written one by one. -/
lemma writtenItems_eq_map (items : List Json) : writtenItems items = items.map written := by
  induction items with
  | nil => rfl
  | cons j items ih => rw [writtenItems, ih, List.map_cons]

mutual

/-- What a value is written as has the same text. -/
lemma flatMap_text_written (j : Json) :
    j.written.toTokens.flatMap Token.text = j.toTokens.flatMap Token.text := by
  match j with
  | .null | .bool _ | .string _ | .number none | .number (some (.integer _)) => rfl
  | .number (some (.double x)) =>
    rw [written]
    split
    · rfl
    · next h => simp [toTokens, Token.text, Number.text, h]
  | .array items => simp [written, toTokens, flatMap_text_writtenItems items]
  | .object fields => simp [written, toTokens, flatMap_text_writtenFields fields]

/-- What items are written as has the same text. -/
lemma flatMap_text_writtenItems (items : List Json) :
    (itemTokens (writtenItems items)).flatMap Token.text =
      (itemTokens items).flatMap Token.text := by
  match items with
  | [] => rfl
  | [j] => exact flatMap_text_written j
  | j :: k :: items =>
    have ih := flatMap_text_writtenItems (k :: items)
    simp only [writtenItems] at ih
    simp [writtenItems, itemTokens, flatMap_text_written j, ih]

/-- What fields are written as has the same text. -/
lemma flatMap_text_writtenFields (fields : List (Option String × Json)) :
    (fieldTokens (writtenFields fields)).flatMap Token.text =
      (fieldTokens fields).flatMap Token.text := by
  match fields with
  | [] => rfl
  | [(key, j)] => simp [writtenFields, fieldTokens, flatMap_text_written j]
  | (key, j) :: (key', k) :: fields =>
    have ih := flatMap_text_writtenFields ((key', k) :: fields)
    simp only [writtenFields] at ih
    simp [writtenFields, fieldTokens, flatMap_text_written j, ih]

end

/-- Both are the same text. -/
lemma print_written (j : Json) : j.written.print = j.print :=
  flatMap_text_written j

mutual

/-- What is written nests as deep. -/
lemma depth_written (j : Json) : j.written.depth = j.depth := by
  match j with
  | .null | .bool _ | .string _ | .number none | .number (some (.integer _)) => rfl
  | .number (some (.double x)) =>
    rw [written]
    split <;> rfl
  | .array items => rw [written, depth, depth, itemsDepth_written items]
  | .object fields => rw [written, depth, depth, fieldsDepth_written fields]

/-- Items are as deep as they are written. -/
lemma itemsDepth_written (items : List Json) :
    itemsDepth (writtenItems items) = itemsDepth items := by
  match items with
  | [] => rfl
  | j :: items =>
    rw [writtenItems, itemsDepth, itemsDepth, depth_written j, itemsDepth_written items]

/-- Fields are as deep as they are written. -/
lemma fieldsDepth_written (fields : List (Option String × Json)) :
    fieldsDepth (writtenFields fields) = fieldsDepth fields := by
  match fields with
  | [] => rfl
  | (key, j) :: fields =>
    rw [writtenFields, fieldsDepth, fieldsDepth, depth_written j, fieldsDepth_written fields]

end

/-! ## Parts of values -/

/-- A value is an item of an array, or stands in a field of an object. -/
inductive Holds : Json → Json → Prop
  | item {items : List Json} {j : Json} (h : j ∈ items) : Holds (.array items) j
  | field {fields : List (Option String × Json)} {key : Option String} {j : Json}
    (h : (key, j) ∈ fields) : Holds (.object fields) j

/-- The tokens of an item stand between the brackets. -/
lemma mem_itemTokens {j : Json} (ht : t ∈ j.toTokens) :
    ∀ {items : List Json}, j ∈ items → t ∈ itemTokens items
  | [_], h => by
    rw [List.mem_singleton] at h
    exact h ▸ ht
  | k :: l :: items, h => by
    rw [itemTokens, List.mem_append]
    rcases List.mem_cons.1 h with rfl | h
    · exact .inl ht
    · exact .inr (List.mem_cons_of_mem _ (mem_itemTokens ht h))

/-- Between the brackets stand the tokens of items, and commas. -/
lemma of_mem_itemTokens : ∀ {items : List Json}, t ∈ itemTokens items →
    t = .comma ∨ ∃ j ∈ items, t ∈ j.toTokens
  | [j], h => .inr ⟨j, List.mem_singleton_self j, h⟩
  | j :: k :: items, h => by
    rw [itemTokens, List.mem_append, List.mem_cons] at h
    rcases h with h | h | h
    · exact .inr ⟨j, List.mem_cons_self, h⟩
    · exact .inl h
    · exact (of_mem_itemTokens h).imp_right fun ⟨l, hl, h⟩ => ⟨l, List.mem_cons_of_mem _ hl, h⟩

/-- The tokens of the value of a field stand between the braces. -/
lemma mem_fieldTokens {key : Option String} {j : Json} (ht : t ∈ j.toTokens) :
    ∀ {fields : List (Option String × Json)}, (key, j) ∈ fields → t ∈ fieldTokens fields
  | [(_, _)], h => by
    cases List.mem_singleton.1 h
    exact List.mem_cons_of_mem _ (List.mem_cons_of_mem _ ht)
  | (_, _) :: f :: fields, h => by
    rw [fieldTokens, List.mem_append]
    rcases List.mem_cons.1 h with h | h
    · cases h
      exact .inl (List.mem_cons_of_mem _ (List.mem_cons_of_mem _ ht))
    · exact .inr (List.mem_cons_of_mem _ (mem_fieldTokens ht h))

/-- Between the braces stand keys, the tokens of values, commas and colons. -/
lemma of_mem_fieldTokens : ∀ {fields : List (Option String × Json)}, t ∈ fieldTokens fields →
    t = .comma ∨ t = .colon ∨ ∃ f ∈ fields, t = .string f.1 ∨ t ∈ f.2.toTokens
  | [(key, j)], h => by
    rw [fieldTokens, List.mem_cons, List.mem_cons] at h
    rcases h with h | h | h
    · exact .inr (.inr ⟨(key, j), List.mem_cons_self, .inl h⟩)
    · exact .inr (.inl h)
    · exact .inr (.inr ⟨(key, j), List.mem_cons_self, .inr h⟩)
  | (key, j) :: f :: fields, h => by
    rw [fieldTokens, List.mem_append, List.mem_cons, List.mem_cons, List.mem_cons] at h
    rcases h with (h | h | h) | h | h
    · exact .inr (.inr ⟨(key, j), List.mem_cons_self, .inl h⟩)
    · exact .inr (.inl h)
    · exact .inr (.inr ⟨(key, j), List.mem_cons_self, .inr h⟩)
    · exact .inl h
    · exact (of_mem_fieldTokens h).imp_right
        (Or.imp_right fun ⟨g, hg, h⟩ => ⟨g, List.mem_cons_of_mem _ hg, h⟩)

/-- The tokens of a part are tokens of the whole. -/
lemma Holds.mem_toTokens {j k : Json} (h : j.Holds k) : ∀ u ∈ k.toTokens, u ∈ j.toTokens := by
  intro u hu
  cases h with
  | item h => simp [toTokens, mem_itemTokens hu h]
  | field h => simp [toTokens, mem_fieldTokens hu h]

/-- Items are as deep as the deepest of them. -/
lemma itemsDepth_le_iff {items : List Json} {n : Nat} :
    itemsDepth items ≤ n ↔ ∀ j ∈ items, j.depth ≤ n := by
  induction items with
  | nil => simp [itemsDepth]
  | cons j items ih => rw [itemsDepth, Nat.max_le, ih, List.forall_mem_cons]

/-- No field is deeper than the fields together. -/
lemma depth_le_fieldsDepth {fields : List (Option String × Json)} {key : Option String} {j : Json}
    (h : (key, j) ∈ fields) : j.depth ≤ fieldsDepth fields := by
  induction fields with
  | nil => simp at h
  | cons f fields ih =>
    rcases List.mem_cons.1 h with rfl | h
    · exact Nat.le_max_left ..
    · exact Nat.le_trans (ih h) (Nat.le_max_right ..)

/-- Items are readable if each of them is. -/
lemma areReadable_eq_all (items : List Json) : areReadable items = items.all isReadable := by
  induction items with
  | nil => rfl
  | cons j items ih => rw [areReadable, ih, List.all_cons]

/-- The whole is deeper than a part. -/
lemma Holds.depth_lt {j k : Json} (h : j.Holds k) : k.depth < j.depth := by
  cases h with
  | item h => exact Nat.lt_succ_of_le (itemsDepth_le_iff.1 (Nat.le_refl _) k h)
  | field h => exact Nat.lt_succ_of_le (depth_le_fieldsDepth h)

/-! ## Values that are read back -/

/-- Every token of the value is read back from its text. -/
def IsLegible (j : Json) : Prop :=
  ∀ t ∈ j.toTokens, t.ReadsBack

/-- An array of legible items is legible. -/
lemma isLegible_array {items : List Json} (h : ∀ j ∈ items, j.IsLegible) :
    (array items).IsLegible := by
  intro t ht
  simp only [toTokens, List.cons_append, List.mem_cons, List.mem_append, List.not_mem_nil,
    or_false] at ht
  rcases ht with rfl | ht | rfl
  · trivial
  · rcases of_mem_itemTokens ht with rfl | ⟨j, hj, ht⟩
    · trivial
    · exact h j hj t ht
  · trivial

/-- An object is legible if its keys denote texts and its values are legible. -/
lemma isLegible_object {fields : List (Option String × Json)}
    (h : ∀ f ∈ fields, f.1.isSome ∧ f.2.IsLegible) : (object fields).IsLegible := by
  intro t ht
  simp only [toTokens, List.cons_append, List.mem_cons, List.mem_append, List.not_mem_nil,
    or_false] at ht
  rcases ht with rfl | ht | rfl
  · trivial
  · rcases of_mem_fieldTokens ht with rfl | rfl | ⟨f, hf, rfl | ht⟩
    · trivial
    · trivial
    · exact (h f hf).1
    · exact (h f hf).2 t ht
  · trivial

/-- What is written is read back, if every token of it is. -/
theorem read?_print {j : Json} (h : j.written.IsLegible) : read? j.print = some j.written := by
  have htokens := tokens?_toTokens j.written [] h endsNumeral_nil
  have hnil : tokens? [] = some [] := by rw [tokens?]; rfl
  rw [List.append_nil, hnil, Option.map_some, List.append_nil] at htokens
  rw [← print_written, read?, print, htokens]
  exact ofTokens?_toTokens j.written

/-- The bytes of what is written are read back. -/
theorem readBytes?_encode_print {j : Json} (h : j.written.IsLegible) :
    readBytes? (Text.Utf8.encode j.print) = some j.written := by
  rw [readBytes?, Text.Utf8.decode_encode]
  exact read?_print h

end UnitLoader.Json
