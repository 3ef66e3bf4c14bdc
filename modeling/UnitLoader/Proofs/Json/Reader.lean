import Mathlib.Tactic.Lemma
import Mathlib.Tactic.SplitIfs
import UnitLoader.Json.Reader
import UnitLoader.Proofs.Json.Token

/-!
# Reading of JSON

The tokens of a value are read back from its text if each of them is. The reader of tokens is a
machine with a stack; what it has read at any moment is told by its state, so that a value is read
from its own tokens and from no others.

## Main definitions

* `UnitLoader.Json.Reading.HasRead` — the tokens that a reader has read.

## Main results

* `UnitLoader.Json.tokens?_toTokens` — the tokens of a value are read back from its text.
* `UnitLoader.Json.ofTokens?_eq_some` — a value is read from its tokens, and from no others.
* `UnitLoader.Json.inRange_of_readBytes?` — every number that is read is in range.
-/

set_option relaxedAutoImplicit false
set_option autoImplicit false

namespace UnitLoader.Json

variable {frames : List Frame} {rest : List Char} {ts us : List Token} {t : Token}
  {r r' : Reading}

/-! ## From text to tokens -/

/-- A numeral ends in front of a comma or a closing bracket. -/
lemma endsNumeral_text (ht : t = .comma ∨ t = .closeArray ∨ t = .closeObject) :
    EndsNumeral (t.text ++ rest) := by
  rcases ht with rfl | rfl | rfl <;> simp +decide [EndsNumeral, Token.text]

/-- A token other than a number is read back in front of any text. -/
lemma tokens?_word_append (ht : t.ReadsBack) (hn : ∀ n, t ≠ .number n) :
    tokens? (t.text ++ rest) = (tokens? rest).map (t :: ·) :=
  tokens?_text_append ht fun n h => absurd h (hn n)

mutual

/-- The tokens of a value are read back from its text. -/
lemma tokens?_toTokens (j : Json) (rest : List Char) (h : ∀ t ∈ j.toTokens, t.ReadsBack)
    (hrest : EndsNumeral rest) :
    tokens? (j.toTokens.flatMap Token.text ++ rest) = (tokens? rest).map (j.toTokens ++ ·) := by
  match j with
  | .null | .bool _ | .number _ | .string _ =>
    simp only [toTokens, List.mem_singleton, forall_eq, List.flatMap_singleton] at h ⊢
    exact tokens?_text_append h fun _ _ => hrest
  | .array items =>
    have hitems : ∀ t ∈ itemTokens items, t.ReadsBack := fun t ht => h t (by simp [toTokens, ht])
    simp only [toTokens, List.flatMap_append, List.flatMap_cons, List.flatMap_nil,
      List.append_nil, List.append_assoc, List.cons_append]
    rw [tokens?_word_append (t := .openArray) trivial (by simp), tokens?_itemTokens items _ hitems
      (endsNumeral_text (by simp)), tokens?_word_append (t := .closeArray) trivial (by simp)]
    cases tokens? rest <;> simp
  | .object fields =>
    have hfields : ∀ t ∈ fieldTokens fields, t.ReadsBack := fun t ht => h t (by simp [toTokens, ht])
    simp only [toTokens, List.flatMap_append, List.flatMap_cons, List.flatMap_nil,
      List.append_nil, List.append_assoc, List.cons_append]
    rw [tokens?_word_append (t := .openObject) trivial (by simp), tokens?_fieldTokens fields _
      hfields (endsNumeral_text (by simp)), tokens?_word_append (t := .closeObject) trivial (by simp)]
    cases tokens? rest <;> simp

/-- The tokens of items are read back from their texts. -/
lemma tokens?_itemTokens (items : List Json) (rest : List Char)
    (h : ∀ t ∈ itemTokens items, t.ReadsBack) (hrest : EndsNumeral rest) :
    tokens? ((itemTokens items).flatMap Token.text ++ rest) =
      (tokens? rest).map (itemTokens items ++ ·) := by
  match items with
  | [] => simp [itemTokens]
  | [j] =>
    simp only [itemTokens] at h ⊢
    exact tokens?_toTokens j rest h hrest
  | j :: k :: items =>
    have hhead : ∀ t ∈ j.toTokens, t.ReadsBack := fun t ht => h t (by simp [itemTokens, ht])
    have htail : ∀ t ∈ itemTokens (k :: items), t.ReadsBack :=
      fun t ht => h t (by simp [itemTokens, ht])
    simp only [itemTokens, List.flatMap_append, List.flatMap_cons, List.append_assoc]
    rw [tokens?_toTokens j _ hhead (endsNumeral_text (by simp)),
      tokens?_word_append (t := .comma) trivial (by simp), tokens?_itemTokens (k :: items) rest htail hrest]
    cases tokens? rest <;> simp

/-- The tokens of fields are read back from their texts. -/
lemma tokens?_fieldTokens (fields : List (Option String × Json)) (rest : List Char)
    (h : ∀ t ∈ fieldTokens fields, t.ReadsBack) (hrest : EndsNumeral rest) :
    tokens? ((fieldTokens fields).flatMap Token.text ++ rest) =
      (tokens? rest).map (fieldTokens fields ++ ·) := by
  match fields with
  | [] => simp [fieldTokens]
  | [(key, j)] =>
    have hkey : (Token.string key).ReadsBack := h _ (by simp [fieldTokens])
    have hvalue : ∀ t ∈ j.toTokens, t.ReadsBack := fun t ht => h t (by simp [fieldTokens, ht])
    simp only [fieldTokens, List.flatMap_cons, List.append_assoc]
    rw [tokens?_word_append hkey (by simp), tokens?_word_append (t := .colon) trivial (by simp),
      tokens?_toTokens j rest hvalue hrest]
    cases tokens? rest <;> simp
  | (key, j) :: f :: fields =>
    have hkey : (Token.string key).ReadsBack := h _ (by simp [fieldTokens])
    have hvalue : ∀ t ∈ j.toTokens, t.ReadsBack := fun t ht => h t (by simp [fieldTokens, ht])
    have htail : ∀ t ∈ fieldTokens (f :: fields), t.ReadsBack :=
      fun t ht => h t (by simp [fieldTokens, ht])
    simp only [fieldTokens, List.flatMap_append, List.flatMap_cons, List.append_assoc,
      List.cons_append]
    rw [tokens?_word_append hkey (by simp), tokens?_word_append (t := .colon) trivial (by simp),
      tokens?_toTokens j _ hvalue (endsNumeral_text (by simp)),
      tokens?_word_append (t := .comma) trivial (by simp), tokens?_fieldTokens (f :: fields) rest htail hrest]
    cases tokens? rest <;> simp

end

/-! ## From tokens to values -/

/-- Where an array may end, its first item may begin instead. -/
lemma foldlM_firstItem (j : Json) (items : List Json) (frames : List Frame) (ts : List Token) :
    (itemTokens (j :: items) ++ ts).foldlM Reading.next? ⟨frames, .firstItem⟩ =
      (itemTokens (j :: items) ++ ts).foldlM Reading.next? ⟨frames, .value⟩ := by
  cases items <;> cases j <;> rfl

mutual

/-- From the tokens of a value the reader gets to where the value is complete. -/
lemma foldlM_toTokens (j : Json) (frames : List Frame) (ts : List Token) :
    (j.toTokens ++ ts).foldlM Reading.next? ⟨frames, .value⟩ =
      (complete? frames j).bind fun r => ts.foldlM Reading.next? r := by
  match j with
  | .null | .bool _ | .number _ | .string _ | .array [] | .object [] => rfl
  | .array (j :: items) =>
    have hopen : (toTokens (.array (j :: items)) ++ ts).foldlM Reading.next? ⟨frames, .value⟩ =
        (itemTokens (j :: items) ++ .closeArray :: ts).foldlM Reading.next?
          ⟨.array [] :: frames, .firstItem⟩ := by
      simp only [toTokens, List.cons_append, List.append_assoc, List.nil_append]
      rfl
    rw [hopen, foldlM_firstItem]
    exact foldlM_itemTokens (j :: items) [] frames ts (by simp)
  | .object ((key, j) :: fields) =>
    have hopen : (toTokens (.object ((key, j) :: fields)) ++ ts).foldlM Reading.next?
          ⟨frames, .value⟩ =
        (fieldTokens ((key, j) :: fields) ++ .closeObject :: ts).foldlM Reading.next?
          ⟨.object [] :: frames, .key⟩ := by
      simp only [toTokens, List.cons_append, List.append_assoc, List.nil_append]
      cases fields <;> rfl
    rw [hopen]
    exact foldlM_fieldTokens ((key, j) :: fields) [] frames ts (by simp)

/-- Reading the tokens of items completes the array that they are in. -/
lemma foldlM_itemTokens (items before : List Json) (frames : List Frame) (ts : List Token)
    (hne : items ≠ []) :
    (itemTokens items ++ .closeArray :: ts).foldlM Reading.next?
        ⟨.array before :: frames, .value⟩ =
      (complete? frames (.array (before.reverse ++ items))).bind
        fun r => ts.foldlM Reading.next? r := by
  match items with
  | [] => exact absurd rfl hne
  | [j] =>
    rw [itemTokens, foldlM_toTokens j]
    change (complete? frames (.array (j :: before).reverse)).bind _ = _
    rw [List.reverse_cons]
  | j :: k :: items =>
    rw [itemTokens, List.append_assoc, foldlM_toTokens j]
    refine (foldlM_itemTokens (k :: items) (j :: before) frames ts (by simp)).trans ?_
    rw [List.reverse_cons, List.append_assoc, List.singleton_append]

/-- Reading the tokens of fields completes the object that they are in. -/
lemma foldlM_fieldTokens (fields before : List (Option String × Json)) (frames : List Frame)
    (ts : List Token) (hne : fields ≠ []) :
    (fieldTokens fields ++ .closeObject :: ts).foldlM Reading.next?
        ⟨.object before :: frames, .key⟩ =
      (complete? frames (.object (before.reverse ++ fields))).bind
        fun r => ts.foldlM Reading.next? r := by
  have hkey (key : Option String) (us : List Token) :
      (.string key :: .colon :: us).foldlM Reading.next? ⟨.object before :: frames, .key⟩ =
        us.foldlM Reading.next? ⟨.field key :: .object before :: frames, .value⟩ := rfl
  match fields with
  | [] => exact absurd rfl hne
  | [(key, j)] =>
    rw [fieldTokens, List.cons_append, List.cons_append, hkey, foldlM_toTokens j]
    change (complete? frames (.object ((key, j) :: before).reverse)).bind _ = _
    rw [List.reverse_cons]
  | (key, j) :: f :: fields =>
    simp only [fieldTokens, List.cons_append, List.append_assoc]
    rw [hkey, foldlM_toTokens j]
    refine (foldlM_fieldTokens (f :: fields) ((key, j) :: before) frames ts (by simp)).trans ?_
    rw [List.reverse_cons, List.append_assoc, List.singleton_append]

end

/-- A value is read from its tokens. -/
lemma ofTokens?_toTokens (j : Json) : ofTokens? j.toTokens = some j := by
  have h := foldlM_toTokens j [] []
  rw [List.append_nil] at h
  rw [ofTokens?, h]
  rfl

/-! ## What a reader has read -/

/-- The tokens by which an array or an object is opened and gets its parts, each with the comma after
it, or by which a field is begun. -/
def Frame.tokens : Frame → List Token
  | .array items => .openArray :: items.reverse.flatMap fun j => j.toTokens ++ [.comma]
  | .object fields => .openObject ::
      fields.reverse.flatMap fun f => .string f.1 :: .colon :: f.2.toTokens ++ [.comma]
  | .field key => [.string key, .colon]

/-- The tokens of all that is open, the outermost first. -/
def openTokens (frames : List Frame) : List Token :=
  frames.reverse.flatMap Frame.tokens

/-- The tokens of all that is open end with those of the innermost. -/
lemma openTokens_cons (f : Frame) (frames : List Frame) :
    openTokens (f :: frames) = openTokens frames ++ f.tokens := by
  simp [openTokens]

/-- What the reader has read when it has come to a state. After a part of an array or an object the
comma is still missing. -/
inductive Reading.HasRead : List Token → Reading → Prop
  | value (frames : List Frame) : HasRead (openTokens frames) ⟨frames, .value⟩
  | firstItem (frames : List Frame) :
    HasRead (openTokens (.array [] :: frames)) ⟨.array [] :: frames, .firstItem⟩
  | afterItem (j : Json) (items : List Json) (frames : List Frame) :
    HasRead (openTokens (.array items :: frames) ++ j.toTokens)
      ⟨.array (j :: items) :: frames, .afterItem⟩
  | firstKey (frames : List Frame) :
    HasRead (openTokens (.object [] :: frames)) ⟨.object [] :: frames, .firstKey⟩
  | key (frames : List Frame) : HasRead (openTokens frames) ⟨frames, .key⟩
  | colon (key : Option String) (frames : List Frame) :
    HasRead (openTokens frames ++ [.string key]) ⟨frames, .colon key⟩
  | afterField (key : Option String) (j : Json) (fields : List (Option String × Json))
      (frames : List Frame) :
    HasRead (openTokens (.field key :: .object fields :: frames) ++ j.toTokens)
      ⟨.object ((key, j) :: fields) :: frames, .afterField⟩
  | nothing (j : Json) : HasRead j.toTokens ⟨[], .nothing j⟩

open Reading (HasRead)

/-- The tokens of items and one more have a comma in between. -/
lemma itemTokens_concat (items : List Json) (j : Json) :
    itemTokens (items ++ [j]) =
      (items.flatMap fun k => k.toTokens ++ [.comma]) ++ j.toTokens := by
  induction items with
  | nil => rfl
  | cons k items ih =>
    obtain ⟨l, more, hmore⟩ := List.exists_cons_of_ne_nil (l := items ++ [j]) (by simp)
    rw [List.cons_append, hmore, itemTokens, ← hmore, ih]
    simp

/-- The tokens of fields and one more have a comma in between. -/
lemma fieldTokens_concat (fields : List (Option String × Json)) (key : Option String) (j : Json) :
    fieldTokens (fields ++ [(key, j)]) =
      (fields.flatMap fun f => .string f.1 :: .colon :: f.2.toTokens ++ [.comma]) ++
        .string key :: .colon :: j.toTokens := by
  induction fields with
  | nil => rfl
  | cons f fields ih =>
    obtain ⟨l, more, hmore⟩ := List.exists_cons_of_ne_nil (l := fields ++ [(key, j)]) (by simp)
    rw [List.cons_append, hmore, fieldTokens, ← hmore, ih]
    simp

/-- When a value is complete, its tokens have been read after those of what is around it. -/
lemma hasRead_complete? {j : Json} (h : complete? frames j = some r) :
    HasRead (openTokens frames ++ j.toTokens) r := by
  unfold complete? at h
  split at h <;> cases h
  case h_1 => exact .nothing j
  case h_2 items frames => exact .afterItem j items frames
  case h_3 key fields frames => exact .afterField key j fields frames

/-- What begins a value has been read with it. -/
lemma hasRead_beginValue? (h : beginValue? frames t = some r) :
    HasRead (openTokens frames ++ [t]) r := by
  unfold beginValue? at h
  split at h
  case h_1 =>
    cases h
    simpa [openTokens_cons, Frame.tokens] using HasRead.firstItem frames
  case h_2 =>
    cases h
    simpa [openTokens_cons, Frame.tokens] using HasRead.firstKey frames
  case h_7 => cases h
  all_goals exact hasRead_complete? h

/-- The end of an array is read behind the tokens of its items. -/
lemma hasRead_endArray {items : List Json} (h : endValue? (.array items :: frames) t = some r) :
    HasRead (openTokens frames ++ .openArray :: itemTokens items.reverse ++ [t]) r := by
  unfold endValue? at h
  split at h
  case h_1 heq =>
    cases heq
    simpa [toTokens] using hasRead_complete? h
  case h_2 heq => cases heq
  case h_3 => cases h

/-- The end of an object is read behind the tokens of its fields. -/
lemma hasRead_endObject {fields : List (Option String × Json)}
    (h : endValue? (.object fields :: frames) t = some r) :
    HasRead (openTokens frames ++ .openObject :: fieldTokens fields.reverse ++ [t]) r := by
  unfold endValue? at h
  split at h
  case h_1 heq => cases heq
  case h_2 heq =>
    cases heq
    simpa [toTokens] using hasRead_complete? h
  case h_3 => cases h

/-- One more token is read. -/
theorem Reading.HasRead.next (h : HasRead ts r) (hnext : r.next? t = some r') :
    HasRead (ts ++ [t]) r' := by
  unfold Reading.next? at hnext
  -- One case for each state of the reader, with the tokens that lead to it.
  cases h with
  | value frames => exact hasRead_beginValue? hnext
  | firstItem frames =>
    dsimp only at hnext
    split at hnext
    · simpa [openTokens_cons, Frame.tokens, itemTokens] using hasRead_endArray hnext
    · exact hasRead_beginValue? hnext
  | afterItem j items frames =>
    dsimp only at hnext
    split at hnext
    · next hcomma =>
      cases hnext
      simpa [openTokens_cons, Frame.tokens, hcomma] using HasRead.value (.array (j :: items) :: frames)
    · simpa [openTokens_cons, Frame.tokens, itemTokens_concat] using hasRead_endArray hnext
  | firstKey frames =>
    dsimp only at hnext
    split at hnext
    · cases hnext
      exact .colon _ _
    · simpa [openTokens_cons, Frame.tokens, fieldTokens] using hasRead_endObject hnext
  | key frames =>
    dsimp only at hnext
    split at hnext <;> cases hnext
    exact .colon _ _
  | colon key frames =>
    dsimp only at hnext
    split at hnext <;> cases hnext
    next hcolon =>
    simpa [openTokens_cons, Frame.tokens, hcolon] using HasRead.value (.field key :: frames)
  | afterField key j fields frames =>
    dsimp only at hnext
    split at hnext
    · next hcomma =>
      cases hnext
      simpa [openTokens_cons, Frame.tokens, hcomma] using
        HasRead.key (.object ((key, j) :: fields) :: frames)
    · simpa [openTokens_cons, Frame.tokens, fieldTokens_concat] using hasRead_endObject hnext
  | nothing j => cases hnext

/-- A reader that goes on has read what it had read and what it was given. -/
lemma Reading.HasRead.foldlM (h : HasRead ts r) (hrun : us.foldlM Reading.next? r = some r') :
    HasRead (ts ++ us) r' := by
  induction us generalizing ts r with
  | nil =>
    cases hrun
    simpa using h
  | cons u us ih =>
    obtain ⟨m, hm, hrun⟩ := Option.bind_eq_some_iff.1 hrun
    simpa using ih (h.next hm) hrun

/-- A value is read from its tokens, and from no others. -/
theorem ofTokens?_eq_some {j : Json} : ofTokens? ts = some j ↔ ts = j.toTokens := by
  refine ⟨fun h => ?_, fun h => h ▸ ofTokens?_toTokens j⟩
  obtain ⟨r, hr, h⟩ := Option.bind_eq_some_iff.1 h
  have hread : HasRead ts r := (HasRead.value []).foldlM hr
  split at h
  · next hexpected =>
    cases h
    cases hread <;> cases hexpected
    rfl
  · cases h

/-- Every number that is read is in range. -/
lemma inRange_of_read? {text : List Char} {j : Json} {n : Number} (h : read? text = some j)
    (hn : .number (some n) ∈ j.toTokens) : n.InRange := by
  obtain ⟨ts, hts, h⟩ := Option.bind_eq_some_iff.1 h
  rw [ofTokens?_eq_some] at h
  exact inRange_of_tokens? hts (h ▸ hn)

/-- Every number that is read is in range. -/
theorem inRange_of_readBytes? {bytes : Bytes} {j : Json} {n : Number}
    (h : readBytes? bytes = some j) (hn : .number (some n) ∈ j.toTokens) : n.InRange := by
  unfold readBytes? at h
  split at h <;> exact inRange_of_read? h hn

end UnitLoader.Json
