import UnitLoader.Proofs.Program.Names
import UnitLoader.Proofs.Text.Trim

/-!
# Assignments of literals

A literal is read back from the way it is written, and so is an assignment of it. It is otherwise
for the three words that other statements begin with. In a list, this is said of items in whose
texts there is no comma.

## Main definitions

* `UnitLoader.Value.IsWritten` — how literals are written.
* `UnitLoader.Value.HasComma` — literals in whose text there is a comma.
* `UnitLoader.reservedWords` — the words that statements other than assignments begin with.

## Main results

* `UnitLoader.Value.IsWritten.parseExpr` — literals are read back.
* `UnitLoader.Program.parse_assignment_iff` — assignments of literals are read back, unless their
  target is a reserved word.
-/

set_option relaxedAutoImplicit false
set_option autoImplicit false

namespace UnitLoader

open Text

/-! ## How literals are written -/

/-- How a literal is written: by a word, in decimal digits, between quotes, or as items between
brackets with commas between them, with any blanks around it that do not end the line. -/
inductive Value.IsWritten : Value → List Char → Prop
  | none : IsWritten .none "none".toList
  | true : IsWritten (.bool true) "true".toList
  | false : IsWritten (.bool false) "false".toList
  | int (n : Int64) : IsWritten (.int n) (toString n).toList
  | str {s : String} (hquote : '"' ∉ s.toList) (hline : '\n' ∉ s.toList) :
      IsWritten (.str s) ('"' :: s.toList ++ ['"'])
  | list {items : List (Value × List Char)} (h : ∀ i ∈ items, IsWritten i.1 i.2) :
      IsWritten (.list (items.map (·.1))) ('[' :: joinWith ',' (items.map (·.2)) ++ [']'])
  | blankBefore {v : Value} {text : List Char} {c : Char} (hc : isBlank c = Bool.true)
      (hline : c ≠ '\n') (h : IsWritten v text) : IsWritten v (c :: text)
  | blankAfter {v : Value} {text : List Char} {c : Char} (hc : isBlank c = Bool.true)
      (hline : c ≠ '\n') (h : IsWritten v text) : IsWritten v (text ++ [c])

/-- There is a comma in the text of a literal: in a string, or between items of a list. -/
inductive Value.HasComma : Value → Prop
  | str {s : String} (h : ',' ∈ s.toList) : HasComma (.str s)
  | between {items : List Value} (h : 2 ≤ items.length) : HasComma (.list items)
  | item {items : List Value} {v : Value} (hv : v ∈ items) (h : HasComma v) :
      HasComma (.list items)

/-- The items of a list. -/
def Value.items : Value → List Value
  | .list items => items
  | _ => []

/-- The items of a list without commas have none. -/
lemma Value.not_hasComma_of_mem_items {v w : Value} (h : ¬ v.HasComma) (hw : w ∈ v.items) :
    ¬ w.HasComma := by
  cases v with
  | list items => exact fun hcomma => h (.item hw hcomma)
  | _ => cases hw

/-! ## Decimal digits -/

section Digits

variable {c : Char} {n : Int64} {text : List Char}

/-- A digit is no blank. -/
lemma isBlank_of_isDigit (h : c.isDigit = true) : isBlank c = false := by
  simp only [Char.isDigit, Bool.and_eq_true, decide_eq_true_eq, UInt32.le_iff_toNat_le] at h
  simp only [isBlank, Bool.or_eq_false_iff, Bool.and_eq_false_iff, decide_eq_false_iff_not,
    beq_eq_false_iff_ne, Char.toNat]
  have hlow : 48 ≤ c.val.toNat := h.1
  have hhigh : c.val.toNat ≤ 57 := h.2
  omega

/-- An integer is written by its digits, after a sign if it is negative. -/
lemma toList_toString (n : Int64) : (toString n).toList =
    (if n.toInt < 0 then ['-'] else []) ++ Nat.toDigits 10 n.toInt.natAbs := by
  have hrepr : toString n = n.toInt.repr := rfl
  rw [hrepr, Int.repr_eq_if]
  by_cases hneg : n.toInt < 0
  · have habs : (-n.toInt).toNat = n.toInt.natAbs := by omega
    rw [if_neg (by omega), if_pos hneg, String.toList_append, Nat.toList_repr, habs]
    rfl
  · have habs : n.toInt.toNat = n.toInt.natAbs := by omega
    rw [if_pos (by omega), if_neg hneg, Nat.toList_repr, habs, List.nil_append]

/-- An integer is written with digits and perhaps a minus. -/
lemma mem_toString (h : c ∈ (toString n).toList) : c = '-' ∨ c.isDigit = true := by
  rw [toList_toString, List.mem_append] at h
  rcases h with h | h
  · split at h
    · exact .inl (List.mem_singleton.1 h)
    · cases h
  · exact .inr (Nat.isDigit_of_mem_toDigits (by decide) (by decide) h)

/-- The digits of a number denote that number. -/
lemma natOfDigits_toDigits (m : ℕ) : Numeral.natOfDigits (Nat.toDigits 10 m) = m := by
  have hfold : Numeral.natOfDigits (Nat.toDigits 10 m) =
      Nat.ofDigitChars 10 (Nat.toDigits 10 m) 0 := by
    simp only [Numeral.natOfDigits, Nat.ofDigitChars, Nat.mul_comm]
  rw [hfold, Nat.ofDigitChars_ten_toDigits]

/-- The text of an integer begins with a minus if it is negative, and goes on with the digits of its
absolute value. -/
lemma takeSign_toString (n : Int64) :
    Numeral.takeSign (toString n).toList =
      (decide (n.toInt < 0), Nat.toDigits 10 n.toInt.natAbs) := by
  rw [toList_toString]
  by_cases hneg : n.toInt < 0
  · simp [hneg, Numeral.takeSign]
  · have hdigit : ∀ c ∈ Nat.toDigits 10 n.toInt.natAbs, c.isDigit = true := fun c hc =>
      Nat.isDigit_of_mem_toDigits (by decide) (by decide) hc
    simp only [hneg, if_false, List.nil_append, decide_false]
    unfold Numeral.takeSign
    split
    · next hcons => exact absurd (hdigit '-' (by simp [hcons])) (by decide)
    · next hcons => exact absurd (hdigit '+' (by simp [hcons])) (by decide)
    · rfl

/-- Integers of 64 bits are read back. -/
lemma readInt64?_toString (n : Int64) : Numeral.readInt64? (toString n).toList = some n := by
  have hdigit : (Nat.toDigits 10 n.toInt.natAbs).all Char.isDigit = true :=
    List.all_eq_true.2 fun c hc => Nat.isDigit_of_mem_toDigits (by decide) (by decide) hc
  have hvalue : (if decide (n.toInt < 0) = true then -(n.toInt.natAbs : ℤ) else n.toInt.natAbs) =
      n.toInt := by
    simp only [decide_eq_true_eq]
    split <;> omega
  rw [Numeral.readInt64?, takeSign_toString]
  simp only [natOfDigits_toDigits, hdigit, hvalue, n.minValue_le_toInt, n.toInt_le,
    Nat.toDigits_ne_nil, Int64.ofInt_toInt, ne_eq, not_false_eq_true, decide_true, Bool.and_self,
    if_true]

/-- What is read as an integer is neither a string nor a word. -/
lemma parseScalar?_of_readInt64? (h : Numeral.readInt64? text = some n) :
    parseScalar? text = some (.int n) := by
  have hstring : parseString? text = none := by
    unfold parseString?
    split
    · next cs =>
      have hnone : Numeral.readInt64? ('"' :: cs) = none := by
        simp [Numeral.readInt64?, Numeral.takeSign]
      simp [hnone] at h
    · rfl
  have hword : parseWord? text = none := by
    unfold parseWord?
    split_ifs with htrue hfalse hnone
    · rw [htrue] at h
      cases h
    · rw [hfalse] at h
      cases h
    · rw [hnone] at h
      cases h
    · rfl
  simp [parseScalar?, hstring, hword, h]

end Digits

/-! ## Expressions -/

section Expressions

variable {v : Value} {text inner : List Char}

/-- An empty text is no expression. -/
lemma parseExpr_nil : parseExpr [] = .error .missingValue := by
  rw [parseExpr]
  rfl

/-- A scalar is an expression. -/
lemma parseExpr_of_parseScalar? (h : parseScalar? text = some v) :
    parseExpr text = .ok (.literal v) := by
  have hne : text ≠ [] := by
    rintro rfl
    cases h
  rw [parseExpr, if_neg hne, h]

/-- A string between quotes is read back. -/
lemma parseScalar?_quoted {s : String} (hquote : '"' ∉ s.toList) :
    parseScalar? ('"' :: s.toList ++ ['"']) = some (.str s) := by
  have hstring : parseString? ('"' :: s.toList ++ ['"']) = some s := by
    simp [parseString?, hquote]
  rw [parseScalar?, hstring]
  rfl

/-- A list is no scalar. -/
lemma parseScalar?_bracket (cs : List Char) : parseScalar? ('[' :: cs) = none := by
  simp [parseScalar?, parseString?, parseWord?, Numeral.readInt64?, Numeral.readDecimal?,
    Numeral.takeSign]

/-- What is between brackets is found between them. -/
lemma bracketed?_eq (inner : List Char) : bracketed? ('[' :: inner ++ [']']) = some inner := by
  simp [bracketed?]

/-- Mapping a list with its membership proofs is mapping the list. -/
lemma mapM_attach {α β ε : Type} (f : α → Except ε β) (xs : List α) :
    xs.attach.mapM (fun x => f x.1) = xs.mapM f := by
  conv_rhs => rw [← List.attach_map_subtype_val xs, List.mapM_map]
  rfl

/-- An item of a list has to be a literal. -/
def parseItem (text : List Char) : Except ParseFault Value := do
  match ← parseExpr text with
  | .literal v => .ok v
  | .name n => .error (.nameInList n)

/-- A text between brackets is read item by item. -/
lemma parseExpr_bracketed (inner : List Char) :
    parseExpr ('[' :: inner ++ [']']) =
      if trim inner = [] then .ok (.literal (.list []))
      else ((pieces ',' (trim inner)).mapM fun item => parseItem (trim item)).map
        fun items => .literal (.list items) := by
  have hbracketed := bracketed?_eq inner
  rw [List.cons_append] at hbracketed ⊢
  have hmap {α β : Type} (x : Except ParseFault α) (f : α → β) :
      (x >>= fun a => pure (f a)) = x.map f := by cases x <;> rfl
  rw [parseExpr, if_neg (List.cons_ne_nil _ _), parseScalar?_bracket]
  dsimp only
  split
  · next inner' hinner =>
    obtain rfl := Option.some.inj (hinner.symm.trans hbracketed)
    rw [← mapM_attach fun item => parseItem (trim item)]
    split
    · rfl
    · exact hmap _ _
  · next hnone =>
    rw [hbracketed] at hnone
    cases hnone

/-- A literal expression is an item. -/
lemma parseItem_of_parseExpr (h : parseExpr text = .ok (.literal v)) : parseItem text = .ok v := by
  rw [parseItem, h]
  rfl

/-- If each item is read, so is the list. -/
lemma mapM_eq_ok {α β ε : Type} {f : α → Except ε β} {g : α → β} {xs : List α}
    (h : ∀ x ∈ xs, f x = .ok (g x)) : xs.mapM f = .ok (xs.map g) := by
  induction xs with
  | nil => rfl
  | cons x xs ih =>
    obtain ⟨hx, hxs⟩ := List.forall_mem_cons.1 h
    rw [List.mapM_cons, hx, ih hxs]
    rfl

/-- A list is read back if its items are, and there are no commas but those between them. -/
lemma parseExpr_list {items : List (Value × List Char)} (hcomma : ∀ i ∈ items, ',' ∉ i.2)
    (h : ∀ i ∈ items, parseExpr (trim i.2) = .ok (.literal i.1)) :
    parseExpr ('[' :: joinWith ',' (items.map (·.2)) ++ [']']) =
      .ok (.literal (.list (items.map (·.1)))) := by
  rw [parseExpr_bracketed]
  by_cases hitems : items = []
  · subst hitems
    rfl
  have htexts : ∀ p ∈ items.map (·.2), ',' ∉ p := fun p hp => by
    obtain ⟨i, hi, rfl⟩ := List.mem_map.1 hp
    exact hcomma i hi
  have htrimmed := map_trim_pieces_trim_joinWith (by decide : isBlank ',' = false)
    (by simpa using hitems) htexts
  generalize trim (joinWith ',' (items.map (·.2))) = inner at htrimmed ⊢
  have hread : ((pieces ',' inner).mapM fun item => parseItem (trim item)) =
      .ok (items.map (·.1)) :=
    calc _ = ((pieces ',' inner).map trim).mapM parseItem := by rw [List.mapM_map]; rfl
      _ = items.mapM fun i => parseItem (trim i.2) := by
        rw [htrimmed, List.map_map, List.mapM_map]
        rfl
      _ = _ := mapM_eq_ok fun i hi => parseItem_of_parseExpr (h i hi)
  have hne : inner ≠ [] := by
    rintro rfl
    have hempty : parseItem [] = .error .missingValue := by
      rw [parseItem, parseExpr_nil]
      rfl
    rw [pieces_nil, List.mapM_cons, show trim [] = [] from rfl, hempty] at hread
    cases hread
  rw [if_neg hne, hread]
  rfl

end Expressions

/-! ## Literals -/

/-- What stands in joined pieces stands in one of them, or it is the separator. -/
lemma Text.mem_joinWith {c sep : Char} {ps : List (List Char)} (h : c ∈ joinWith sep ps) :
    (c = sep ∧ 2 ≤ ps.length) ∨ ∃ p ∈ ps, c ∈ p := by
  induction ps with
  | nil => cases h
  | cons p ps ih =>
    cases ps with
    | nil => exact .inr ⟨p, List.mem_singleton_self p, h⟩
    | cons q ps =>
      rw [joinWith, List.mem_append, List.mem_cons] at h
      rcases h with h | h | h
      · exact .inr ⟨p, List.mem_cons_self .., h⟩
      · exact .inl ⟨h, by simp⟩
      · rcases ih h with ⟨hsep, -⟩ | ⟨r, hr, hc⟩
        · exact .inl ⟨hsep, by simp⟩
        · exact .inr ⟨r, List.mem_cons_of_mem p hr, hc⟩

namespace Value.IsWritten

variable {v : Value} {text : List Char}

/-- There is no newline in what a value is written as. -/
lemma newline_not_mem (h : v.IsWritten text) : '\n' ∉ text := by
  induction h with
  | none | true | false => decide
  | int n =>
    intro hmem
    rcases mem_toString hmem with hc | hc <;> revert hc <;> decide
  | str hquote hline => simpa using hline
  | @list items h ih =>
    intro hmem
    have hmem : '\n' ∈ joinWith ',' (items.map (·.2)) := by simpa using hmem
    rcases mem_joinWith hmem with ⟨hc, -⟩ | ⟨p, hp, hc⟩
    · revert hc
      decide
    · obtain ⟨i, hi, rfl⟩ := List.mem_map.1 hp
      exact ih i hi hc
  | blankBefore hc hline _ ih => simpa [Ne.symm hline] using ih
  | blankAfter hc hline _ ih => simpa [Ne.symm hline] using ih

/-- A comma in the text of a literal stands in a string or between items. -/
lemma hasComma (h : v.IsWritten text) (hcomma : ',' ∈ text) : v.HasComma := by
  induction h with
  | none | true | false => exact absurd hcomma (by decide)
  | int n => rcases mem_toString hcomma with hc | hc <;> exact absurd hc (by decide)
  | str hquote hline => exact .str (by simpa using hcomma)
  | @list items h ih =>
    have hcomma : ',' ∈ joinWith ',' (items.map (·.2)) := by simpa using hcomma
    rcases mem_joinWith hcomma with ⟨-, hlength⟩ | ⟨p, hp, hc⟩
    · exact .between (by simpa using hlength)
    · obtain ⟨i, hi, rfl⟩ := List.mem_map.1 hp
      exact .item (List.mem_map_of_mem hi) (ih i hi hc)
  | @blankBefore _ _ c hc _ _ ih =>
    have hne : ',' ≠ c := by
      rintro rfl
      exact absurd hc (by decide)
    exact ih (by simpa [hne] using hcomma)
  | @blankAfter _ _ c hc _ _ ih =>
    have hne : ',' ≠ c := by
      rintro rfl
      exact absurd hc (by decide)
    exact ih (by simpa [hne] using hcomma)

/-- **Literals are read back** from the way they are written, if no item of a list has a comma.

**Proof sketch.** By induction on how the literal is written. The text of a list is cut at its
commas; these are only those between its items, so that each piece is the text of an item with
blanks around it. -/
theorem parseExpr (h : v.IsWritten text) (hitems : ∀ w ∈ v.items, ¬ w.HasComma) :
    parseExpr (trim text) = .ok (.literal v) := by
  induction h with
  | none | true | false => exact parseExpr_of_parseScalar? rfl
  | int n =>
    have hblank : ∀ c ∈ (toString n).toList, isBlank c = Bool.false := fun c hc => by
      rcases mem_toString hc with rfl | hc
      · decide
      · exact isBlank_of_isDigit hc
    rw [trim_eq_self (fun c hc => hblank c (List.mem_of_mem_head? hc))
      fun c hc => hblank c (List.mem_of_mem_getLast? hc)]
    exact parseExpr_of_parseScalar? (parseScalar?_of_readInt64? (readInt64?_toString n))
  | str hquote hline =>
    rw [trim_between (by decide) (by decide)]
    exact parseExpr_of_parseScalar? (parseScalar?_quoted hquote)
  | @list items h ih =>
    have hitem : ∀ i ∈ items, ¬ i.1.HasComma := fun i hi => hitems i.1 (List.mem_map_of_mem hi)
    rw [trim_between (by decide) (by decide)]
    exact parseExpr_list (fun i hi hcomma => hitem i hi ((h i hi).hasComma hcomma)) fun i hi =>
      ih i hi fun w hw => not_hasComma_of_mem_items (hitem i hi) hw
  | blankBefore hc _ _ ih => rw [trim_cons hc, ih hitems]
  | blankAfter hc _ _ ih => rw [trim_concat hc, ih hitems]

end Value.IsWritten

/-! ## Lines -/

section Lines

variable {sep : Char} {t : String} {target before text : List Char} {v : Value}

/-- What stands before the first blank of a line is the word that it begins with. -/
lemma afterWord?_append_blank (word : String) (hword : word.toList.any isBlank = false)
    (htarget : ∀ c ∈ target, isBlank c = false) (text : List Char) :
    afterWord? word (target ++ ' ' :: text) =
      if target = word.toList then some (trim text) else none := by
  unfold afterWord?
  -- By induction on the letters of the word, along with the characters in front of the blank.
  generalize word.toList = letters at hword
  induction letters generalizing target with
  | nil =>
    cases target with
    | nil =>
      simp only [List.isPrefixOf?, List.nil_append, if_true]
      rw [if_pos (by decide), trim_cons (by decide)]
    | cons c target =>
      simp only [List.isPrefixOf?, List.cons_append, htarget c (List.mem_cons_self ..),
        reduceCtorEq, Bool.false_eq_true, if_false]
  | cons d letters ih =>
    obtain ⟨hd, hletters⟩ := Bool.or_eq_false_iff.1 (List.any_cons ▸ hword)
    cases target with
    | nil =>
      have hne : d ≠ ' ' := by
        rintro rfl
        exact absurd hd (by decide)
      rw [List.nil_append, isPrefixOf?_cons_cons, if_neg (by simpa using hne),
        if_neg (List.cons_ne_nil d letters).symm]
    | cons c target =>
      replace htarget := (List.forall_mem_cons.1 htarget).2
      rw [List.cons_append, isPrefixOf?_cons_cons]
      by_cases hc : d = c
      · subst hc
        simpa using ih htarget hletters
      · rw [if_neg (by simpa using hc), if_neg fun h => hc (List.cons.inj h).1.symm]

/-- A text is split at the first separator. -/
lemma splitOnce?_append (h : sep ∉ before) (text : List Char) :
    splitOnce? [sep] (before ++ sep :: text) = some (before, text) := by
  induction before with
  | nil => simp [splitOnce?, List.isPrefixOf?]
  | cons c before ih =>
    obtain ⟨hc, hbefore⟩ := not_or.1 (List.mem_cons.not.1 h)
    rw [List.cons_append, splitOnce?, isPrefixOf?_cons_cons, if_neg (by simpa using hc),
      ih hbefore]
    rfl

/-- Which statement a line is depends on what stands before its first blank. -/
lemma parseStatement_append_blank (h : ∀ c ∈ t.toList, isBlank c = false) (text : List Char) :
    parseStatement (t.toList ++ ' ' :: text) =
      if t = "import" then parseImport (trim text)
      else if t = "from" then parseFromImport (trim text)
      else if t = "raise" then
        .ok (.raise ((parseString? (trim text)).getD (String.ofList (trim text))))
      else parseAssignment (t.toList ++ ' ' :: text) := by
  simp only [parseStatement, afterWord?_append_blank "import" (by decide) h,
    afterWord?_append_blank "from" (by decide) h, afterWord?_append_blank "raise" (by decide) h,
    String.toList_inj]
  split_ifs <;> rfl

/-- A text of one line is read as one statement, unless it is skipped. -/
lemma Program.parse_line (hline : '\n' ∉ text) (hskipped : isSkipped (trim text) = false) :
    Program.parse text =
      match parseStatement (trim text) with
      | .error fault => .error ⟨1, fault⟩
      | .ok s => .ok ⟨[s]⟩ := by
  rw [Program.parse, pieces_eq_singleton hline, parseLines, if_neg (by simp [hskipped])]
  cases parseStatement (trim text) <;> rfl

end Lines

/-! ## Assignments -/

/-- The words that statements other than assignments begin with. -/
def reservedWords : List String :=
  ["import", "from", "raise"]

section Assignments

variable {t target : String} {text : List Char} {value : Expr} {v : Value}

/-- No other character is in an identifier. -/
lemma not_mem_of_isIdentifier {c : Char} (h : isIdentifier t.toList)
    (hc : isIdentifierChar c = false) : c ∉ t.toList := fun hmem => by
  rw [isIdentifierChar_of_mem h hmem] at hc
  cases hc

/-- There are no blanks in an identifier. -/
lemma isBlank_of_isIdentifier (h : isIdentifier t.toList) : ∀ c ∈ t.toList, isBlank c = false :=
  fun c hc => by
    have hchar := (isSegmentChar_of_isIdentifierChar (isIdentifierChar_of_mem h hc)).2
    simp only [Bool.and_eq_true, Bool.not_eq_true'] at hchar
    exact hchar.2

/-- A target and an expression around an equals sign are an assignment. -/
lemma parseAssignment_append_equals (ht : isIdentifier t.toList) (text : List Char) :
    parseAssignment (t.toList ++ ' ' :: '=' :: text) = (parseExpr (trim text)).map (.assign t) := by
  have hmark : '=' ∉ t.toList ++ [' '] := by
    simpa using not_mem_of_isIdentifier ht (c := '=') (by decide)
  have hsplit : splitOnce? ['='] (t.toList ++ ' ' :: '=' :: text) =
      some (t.toList ++ [' '], text) := by
    simpa using splitOnce?_append hmark text
  have hblank := isBlank_of_isIdentifier ht
  have htrim : trim (t.toList ++ [' ']) = t.toList := by
    rw [trim_concat (by decide), trim_eq_self (fun c hc => hblank c (List.mem_of_mem_head? hc))
      fun c hc => hblank c (List.mem_of_mem_getLast? hc)]
  rw [parseAssignment, hsplit]
  simp only [htrim, parseIdentifier, ht, if_true, String.ofList_toList]
  cases parseExpr (trim text) <;> rfl

/-- An import is no assignment. -/
lemma parseImport_ne_assign : parseImport text ≠ .ok (.assign target value) := fun h => by
  rw [parseImport] at h
  split at h
  · obtain ⟨_, -, h⟩ := Outcome.bind_eq_ok.1 h
    obtain ⟨_, -, h⟩ := Outcome.bind_eq_ok.1 h
    cases h
  · obtain ⟨_, -, h⟩ := Outcome.map_eq_ok.1 h
    cases h

/-- An import of names from a unit is no assignment. -/
lemma parseFromImport_ne_assign : parseFromImport text ≠ .ok (.assign target value) := fun h => by
  rw [parseFromImport] at h
  split at h
  · cases h
  · obtain ⟨_, -, h⟩ := Outcome.bind_eq_ok.1 h
    obtain ⟨_, -, h⟩ := Outcome.bind_eq_ok.1 h
    cases h

/-- A line with an equals sign after an identifier is an assignment, unless the identifier is
reserved. -/
lemma parseStatement_eq_assign_iff (ht : isIdentifier t.toList)
    (h : parseExpr (trim text) = .ok value) :
    parseStatement (t.toList ++ ' ' :: '=' :: text) = .ok (.assign t value) ↔
      t ∉ reservedWords := by
  rw [parseStatement_append_blank (isBlank_of_isIdentifier ht), reservedWords]
  split_ifs with himport hfrom hraise
  · simp [himport, parseImport_ne_assign]
  · simp [hfrom, parseFromImport_ne_assign]
  · simp [hraise]
  · simp [himport, hfrom, hraise, parseAssignment_append_equals ht, h, Except.map]

/-- An identifier has a first letter. -/
lemma exists_cons_of_isIdentifier (h : isIdentifier t.toList) :
    ∃ c letters, t.toList = c :: letters := by
  cases hletters : t.toList with
  | nil => simp [hletters, isIdentifier] at h
  | cons c letters => exact ⟨c, letters, rfl⟩

/-- A line that begins with an identifier is not skipped. -/
lemma isSkipped_identifier_append (ht : isIdentifier t.toList) (text : List Char) :
    isSkipped (t.toList ++ text) = false := by
  have hcomment := not_mem_of_isIdentifier ht (c := '#') (by decide)
  obtain ⟨c, letters, hletters⟩ := exists_cons_of_isIdentifier ht
  have hne : c ≠ '#' := by
    rintro rfl
    exact hcomment (by simp [hletters])
  simpa [isSkipped, hletters] using hne

/-- Blanks are only lost at the end of a line that begins with an identifier. -/
lemma trim_identifier_append (ht : isIdentifier t.toList) (hne : trimEnd text ≠ []) :
    trim (t.toList ++ text) = t.toList ++ trimEnd text := by
  have hhead : ∀ c ∈ (t.toList ++ text).head?, isBlank c = false := fun c hc => by
    obtain ⟨d, letters, hletters⟩ := exists_cons_of_isIdentifier ht
    obtain rfl : d = c := by simpa [hletters] using hc
    exact isBlank_of_isIdentifier ht d (by simp [hletters])
  rw [trim, trimStart_eq_self hhead, trimEnd_append hne]

/-- **Assignments of literals are read back**, unless their target is reserved.

**Proof sketch.** Blanks are lost at the end of the line only, and there they are lost from the
literal, which is read back all the same. The line is told apart by what stands before its first
blank, and this is the target. -/
theorem Program.parse_assignment_iff (ht : isIdentifier t.toList) (hv : v.IsWritten text)
    (hitems : ∀ w ∈ v.items, ¬ w.HasComma) :
    Program.parse (t.toList ++ " = ".toList ++ text) = .ok ⟨[.assign t (.literal v)]⟩ ↔
      t ∉ reservedWords := by
  have hread : parseExpr (trim (trimEnd text)) = .ok (.literal v) := by
    rw [trim_trimEnd, hv.parseExpr hitems]
  have hne : trimEnd text ≠ [] := fun hnil => by
    rw [hnil, show trim [] = [] from rfl, parseExpr_nil] at hread
    cases hread
  have hequals : trimEnd (" = ".toList ++ text) = ' ' :: '=' :: ' ' :: trimEnd text :=
    trimEnd_append hne
  have htrim : trim (t.toList ++ (" = ".toList ++ text)) =
      t.toList ++ ' ' :: '=' :: ' ' :: trimEnd text := by
    rw [trim_identifier_append ht (hequals ▸ List.cons_ne_nil _ _), hequals]
  have hline : '\n' ∉ t.toList ++ (" = ".toList ++ text) := by
    have htarget := not_mem_of_isIdentifier ht (c := '\n') (by decide)
    have hspaces : '\n' ∉ " = ".toList := by decide
    simp only [List.mem_append, not_or]
    exact ⟨htarget, hspaces, hv.newline_not_mem⟩
  have hskipped := isSkipped_identifier_append ht (' ' :: '=' :: ' ' :: trimEnd text)
  have hstatement : parseStatement (t.toList ++ ' ' :: '=' :: ' ' :: trimEnd text) =
      .ok (.assign t (.literal v)) ↔ t ∉ reservedWords :=
    parseStatement_eq_assign_iff ht (by rw [trim_cons (by decide), hread])
  rw [List.append_assoc, Program.parse_line hline (by rw [htrim, hskipped]), htrim, ← hstatement]
  cases parseStatement (t.toList ++ ' ' :: '=' :: ' ' :: trimEnd text) <;> simp

/-- A list in a list is written with blanks wherever there may be some. -/
lemma isWritten_names :
    Value.IsWritten (.list [.none, .int (-3), .list [.str "a = b"], .bool true])
      "[none, -3 ,\t[\"a = b\"], true]".toList := by
  have hint : Value.IsWritten (.int (-3)) "-3".toList := .int (-3)
  have hstr : Value.IsWritten (.str "a = b") "\"a = b\"".toList := .str (by decide) (by decide)
  have hlist : Value.IsWritten (.list [.str "a = b"]) "[\"a = b\"]".toList :=
    @Value.IsWritten.list [(_, "\"a = b\"".toList)] (List.forall_mem_singleton.2 hstr)
  have hitems : ∀ i ∈ [(.none, "none".toList), (.int (-3), " -3 ".toList),
      (.list [.str "a = b"], "\t[\"a = b\"]".toList), (.bool true, " true".toList)],
      Value.IsWritten i.1 i.2 := by
    simp only [List.forall_mem_cons, List.not_mem_nil, false_imp_iff, implies_true, and_true]
    exact ⟨.none, .blankBefore (by decide) (by decide) (hint.blankAfter (c := ' ') (by decide)
      (by decide)), hlist.blankBefore (by decide) (by decide),
      .blankBefore (by decide) (by decide) .true⟩
  exact .list hitems

/-- A list of items of all kinds is assigned to a name that is no reserved word. -/
theorem Program.parse_assignment_names :
    isIdentifier "from_".toList ∧
      (∀ w ∈ (Value.list [.none, .int (-3), .list [.str "a = b"], .bool true]).items,
        ¬ w.HasComma) ∧
      Program.parse "from_ = [none, -3 ,\t[\"a = b\"], true]".toList =
        .ok ⟨[.assign "from_" (.literal (.list [.none, .int (-3), .list [.str "a = b"],
          .bool true]))]⟩ := by
  have ht : isIdentifier "from_".toList := by decide
  have hitems : ∀ w ∈ (Value.list [.none, .int (-3), .list [.str "a = b"], .bool true]).items,
      ¬ w.HasComma := by
    simp only [Value.items, List.forall_mem_cons, List.not_mem_nil, false_imp_iff, implies_true,
      and_true]
    refine ⟨nofun, nofun, fun hlist => ?_, nofun⟩
    cases hlist with
    | between h => exact absurd h (by decide)
    | item hv h =>
      obtain rfl := List.mem_singleton.1 hv
      cases h with
      | str h => exact absurd h (by decide)
  exact ⟨ht, hitems, (Program.parse_assignment_iff ht isWritten_names hitems).2 (by decide)⟩

/-- A number is not assigned to a reserved word: the rest of the line is a message. Nor is a list
read back whose item is a string with a comma: the list is cut there. -/
theorem Program.parse_assignment_otherwise :
    (isIdentifier "raise".toList ∧ Value.IsWritten (.int 1) "1".toList ∧
      Program.parse "raise = 1".toList = .ok ⟨[.raise "= 1"]⟩ ∧
      Program.parse "raise = 1".toList ≠ .ok ⟨[.assign "raise" (.literal (.int 1))]⟩) ∧
    isIdentifier "t".toList ∧ Value.IsWritten (.list [.str "a,b"]) "[\"a,b\"]".toList ∧
      Program.parse "t = [\"a,b\"]".toList = .error ⟨1, .invalidIdentifier "\"a".toList⟩ := by
  have hraise : Program.parse "raise = 1".toList = .ok ⟨[.raise "= 1"]⟩ := by rfl
  have hitem : Value.IsWritten (.str "a,b") "\"a,b\"".toList := .str (by decide) (by decide)
  have hcut : parseItem "\"a".toList = .error (.invalidIdentifier "\"a".toList) := by
    rw [parseItem, parseExpr]
    rfl
  have hlist : parseExpr "[\"a,b\"]".toList = .error (.invalidIdentifier "\"a".toList) := by
    have hpieces : pieces ',' (trim "\"a,b\"".toList) = ["\"a".toList, "b\"".toList] := by decide
    have hread := parseExpr_bracketed "\"a,b\"".toList
    rw [hpieces, List.mapM_cons, show trim "\"a".toList = "\"a".toList by decide, hcut] at hread
    exact hread
  have hstatement : parseStatement "t = [\"a,b\"]".toList =
      .error (.invalidIdentifier "\"a".toList) :=
    calc _ = parseAssignment ("t".toList ++ ' ' :: '=' :: " [\"a,b\"]".toList) := by rfl
      _ = _ := by
        rw [parseAssignment_append_equals (by decide),
          show trim " [\"a,b\"]".toList = "[\"a,b\"]".toList by decide, hlist]
        rfl
  refine ⟨⟨by decide, .int 1, hraise, ?_⟩, by decide,
    @Value.IsWritten.list [(_, "\"a,b\"".toList)] (List.forall_mem_singleton.2 hitem), ?_⟩
  · rw [hraise]
    simp
  · rw [Program.parse_line (by decide) (by decide),
      show trim "t = [\"a,b\"]".toList = "t = [\"a,b\"]".toList by decide, hstatement]

end Assignments

end UnitLoader
