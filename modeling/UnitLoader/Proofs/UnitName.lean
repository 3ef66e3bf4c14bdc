import Mathlib.Data.List.Basic
import UnitLoader.Program.Mention

/-!
# Lineages of unit names

The segments of a name make up the name, and the names of the units around it come from its
beginnings. Going to the unit around a unit therefore goes one step down its lineage.

## Main results

* `UnitLoader.UnitName.segments_ofSegments` — segments are read back from the name they make up.
* `UnitLoader.UnitName.ancestors_eq` — the ancestors of a unit are the lineage of the unit around
  it.
* `UnitLoader.UnitName.lineage_subset` — a lineage holds the lineages of its members.
* `UnitLoader.UnitName.child_short` — a unit is the child of the unit around it.
-/

set_option relaxedAutoImplicit false
set_option autoImplicit false

namespace UnitLoader

namespace Text

variable {sep : Char}

/-- A piece holds no separator. -/
lemma not_mem_of_mem_pieces {text p : List Char} (h : p ∈ pieces sep text) : sep ∉ p := by
  induction text generalizing p with
  | nil =>
    obtain rfl : p = [] := by simpa using h
    simp
  | cons c cs ih =>
    by_cases hc : c = sep
    · subst hc
      rw [pieces_cons_sep, List.mem_cons] at h
      rcases h with rfl | h
      · simp
      · exact ih h
    · rw [pieces_cons_of_ne hc, List.mem_cons] at h
      have hcut : pieces sep cs = (cut sep cs).1 :: (cut sep cs).2 := rfl
      rcases h with rfl | h
      · have hp := ih (p := (cut sep cs).1) (by simp [hcut])
        simp [hp, Ne.symm hc]
      · exact ih (by simp [hcut, h])

/-- A text without separators is one piece. -/
lemma pieces_eq_singleton {text : List Char} (h : sep ∉ text) : pieces sep text = [text] := by
  induction text with
  | nil => rfl
  | cons c cs ih =>
    rw [List.mem_cons, not_or] at h
    have hcs := ih h.2
    rw [pieces_cons_of_ne (Ne.symm h.1)]
    simp only [pieces, List.cons.injEq] at hcs
    rw [hcs.1, hcs.2]

/-- Pieces without separators are read back from the text that they make up. -/
lemma pieces_joinWith {ps : List (List Char)} (hne : ps ≠ []) (h : ∀ p ∈ ps, sep ∉ p) :
    pieces sep (joinWith sep ps) = ps := by
  induction ps with
  | nil => exact absurd rfl hne
  | cons p ps ih =>
    have hp := pieces_eq_singleton (h p (List.mem_cons_self ..))
    cases ps with
    | nil => exact hp
    | cons q ps =>
      rw [joinWith, pieces_append_sep, hp,
        ih (List.cons_ne_nil q ps) fun r hr => h r (List.mem_cons_of_mem _ hr)]
      rfl

/-- The last piece comes after a separator. -/
lemma joinWith_append_singleton {ps : List (List Char)} (hne : ps ≠ []) (p : List Char) :
    joinWith sep (ps ++ [p]) = joinWith sep ps ++ sep :: p := by
  induction ps with
  | nil => exact absurd rfl hne
  | cons q ps ih =>
    cases ps with
    | nil => rfl
    | cons r ps =>
      have hr := ih (List.cons_ne_nil r ps)
      simp only [List.cons_append] at hr ⊢
      rw [joinWith, hr, joinWith, List.append_assoc, List.cons_append]

end Text

namespace UnitName

/-! ## Segments -/

/-- A name has a segment. -/
lemma segments_ne_nil (name : String) : segments name ≠ [] :=
  Text.pieces_ne_nil _

/-- No dot is in a segment. -/
lemma dot_not_mem_of_mem_segments {name : String} {s : List Char} (h : s ∈ segments name) :
    '.' ∉ s :=
  Text.not_mem_of_mem_pieces h

/-- A name is made up of its segments. -/
@[simp]
lemma ofSegments_segments (name : String) : ofSegments (segments name) = name := by
  rw [ofSegments, segments, Text.joinWith_pieces, String.ofList_toList]

/-- Segments without dots are read back from the name that they make up. -/
lemma segments_ofSegments {ss : List (List Char)} (hne : ss ≠ []) (h : ∀ s ∈ ss, '.' ∉ s) :
    segments (ofSegments ss) = ss := by
  rw [ofSegments, segments, String.toList_ofList, Text.pieces_joinWith hne h]

/-- The unit around a unit has all of its segments but the last. -/
lemma segments_of_parent? {name p : String} (h : parent? name = some p) :
    segments p = (segments name).dropLast := by
  unfold parent? at h
  split at h
  · simp at h
  · next hne =>
    obtain rfl := Option.some.inj h
    exact segments_ofSegments hne fun s hs => dot_not_mem_of_mem_segments
      (List.dropLast_subset _ hs)

/-- A name without a unit around it is one segment. -/
lemma dropLast_segments_of_parent? {name : String} (h : parent? name = none) :
    (segments name).dropLast = [] := by
  unfold parent? at h
  split at h
  · assumption
  · simp at h

/-- The unit around an importable unit is importable. -/
lemma isImportable_of_parent? {name p : String} (h : parent? name = some p)
    (hi : isImportable name) : isImportable p := by
  rw [isImportable, List.all_eq_true] at hi ⊢
  rw [segments_of_parent? h]
  exact fun s hs => hi s (List.dropLast_subset _ hs)

/-- The last segment comes after the others. -/
lemma dropLast_append_getLastD (name : String) :
    (segments name).dropLast ++ [(segments name).getLastD []] = segments name := by
  rw [List.getLastD_eq_getLast?, List.getLast?_eq_some_getLast (segments_ne_nil name)]
  exact List.dropLast_append_getLast (segments_ne_nil name)

/-- A unit is the child of the unit around it with its short name. -/
lemma child_short {name p : String} (h : parent? name = some p) : child p (short name) = name := by
  have hp := segments_of_parent? h
  have hpne : (segments name).dropLast ≠ [] := hp ▸ segments_ne_nil p
  apply String.toList_injective
  calc (child p (short name)).toList
      = p.toList ++ '.' :: (segments name).getLastD [] := by
        simp [child, short]
    _ = Text.joinWith '.' (segments p) ++ '.' :: (segments name).getLastD [] := by
        rw [show Text.joinWith '.' (segments p) = p.toList from Text.joinWith_pieces _]
    _ = Text.joinWith '.' (segments name) := by
        rw [hp, ← Text.joinWith_append_singleton hpne, dropLast_append_getLastD]
    _ = name.toList := Text.joinWith_pieces _

/-! ## Lineages -/

/-- A lineage begins with the unit itself. -/
lemma lineage_eq (name : String) : lineage name = name :: ancestors name := by
  have hl : lineage name = lineageOf (segments name).reverse := rfl
  rw [ancestors, hl]
  cases h : (segments name).reverse with
  | nil => simp [segments_ne_nil] at h
  | cons s around => rw [lineageOf, ← h, List.reverse_reverse, ofSegments_segments, List.tail_cons]

/-- A unit is in its own lineage. -/
lemma self_mem_lineage (name : String) : name ∈ lineage name := by
  simp [lineage_eq]

/-- The ancestors of a unit are the lineage of the unit around it. -/
lemma ancestors_eq (name : String) :
    ancestors name = match parent? name with
      | none => []
      | some p => lineage p := by
  have htail : ancestors name = lineageOf (segments name).dropLast.reverse := by
    rw [ancestors, lineage, ← List.tail_reverse]
    cases (segments name).reverse with
    | nil => rfl
    | cons s around => rfl
  rw [htail]
  cases h : parent? name with
  | none => rw [dropLast_segments_of_parent? h]; rfl
  | some p =>
    show _ = lineageOf (segments p).reverse
    rw [segments_of_parent? h]

/-- The lineage of a unit goes on with that of the unit around it. -/
lemma lineage_of_parent? {name p : String} (h : parent? name = some p) :
    lineage name = name :: lineage p := by
  rw [lineage_eq, ancestors_eq, h]

/-- A unit that is not inside of another is alone in its lineage. -/
lemma lineage_of_outermost {name : String} (h : parent? name = none) : lineage name = [name] := by
  rw [lineage_eq, ancestors_eq, h]

/-- A name without ancestors has no parent. -/
lemma parent?_of_ancestors_nil {name : String} (h : ancestors name = []) :
    parent? name = none := by
  rw [ancestors_eq] at h
  cases hp : parent? name with
  | none => rfl
  | some p => simp [hp, lineage_eq] at h

/-- The first of the ancestors is the unit around, and the others are its ancestors. -/
lemma parent?_of_ancestors_cons {name p : String} {around : List String}
    (h : ancestors name = p :: around) : parent? name = some p ∧ ancestors p = around := by
  rw [ancestors_eq] at h
  cases hp : parent? name with
  | none => simp [hp] at h
  | some q =>
    simp only [hp, lineage_eq, List.cons.injEq] at h
    obtain ⟨rfl, h⟩ := h
    exact ⟨rfl, h⟩

/-- The first segment alone is the outermost of a lineage. -/
lemma top_mem_lineage (name : String) : top name ∈ lineage name := by
  have hne := segments_ne_nil name
  have hmem : ∀ r : List (List Char), ∀ hr : r ≠ [], ofSegments [r.getLast hr] ∈ lineageOf r := by
    intro r
    induction r with
    | nil => exact fun hr => absurd rfl hr
    | cons s around ih =>
      intro hr
      cases around with
      | nil => simp [lineageOf]
      | cons s' around =>
        rw [List.getLast_cons (List.cons_ne_nil s' around), lineageOf]
        exact List.mem_cons_of_mem _ (ih _)
  have htop : top name = ofSegments [(segments name).head hne] := by
    rw [top, List.headD_eq_head?_getD, List.head?_eq_some_head hne]
    rfl
  have hlast := hmem (segments name).reverse (by simpa using hne)
  rw [List.getLast_reverse] at hlast
  rw [htop]
  exact hlast

/-- A lineage holds the lineages of its members. -/
lemma lineage_subset {m name : String} (h : m ∈ lineage name) : lineage m ⊆ lineage name := by
  have hsub : ∀ r : List (List Char), (∀ s ∈ r, '.' ∉ s) → m ∈ lineageOf r →
      lineage m ⊆ lineageOf r := by
    intro r hr hm
    induction r with
    | nil => simp [lineageOf] at hm
    | cons s around ih =>
      rw [lineageOf, List.mem_cons] at hm
      rcases hm with rfl | hm
      · rw [lineage, segments_ofSegments (by simp) (by simpa [or_comm] using hr),
          List.reverse_reverse]
        exact fun _ hk => hk
      · exact fun k hk => List.mem_cons_of_mem _
          (ih (fun t ht => hr t (List.mem_cons_of_mem _ ht)) hm hk)
  exact hsub _ (fun s hs => dot_not_mem_of_mem_segments (List.mem_reverse.1 hs)) h

/-- The unit around a unit is in its lineage. -/
lemma parent?_mem_lineage {name p : String} (h : parent? name = some p) : p ∈ lineage name := by
  rw [lineage_of_parent? h]
  exact List.mem_cons_of_mem _ (self_mem_lineage p)

/-- The units around one that can be imported can be imported. -/
lemma isImportable_of_mem_lineage {m name : String} (h : m ∈ lineage name)
    (hi : isImportable name) : isImportable m := by
  generalize haround : ancestors name = around
  induction around generalizing name with
  | nil =>
    rw [lineage_of_outermost (parent?_of_ancestors_nil haround), List.mem_singleton] at h
    exact h ▸ hi
  | cons p around ih =>
    obtain ⟨hp, haround'⟩ := parent?_of_ancestors_cons haround
    rw [lineage_of_parent? hp, List.mem_cons] at h
    rcases h with rfl | h
    · exact hi
    · exact ih h (isImportable_of_parent? hp hi) haround'

/-! ## Closures -/

/-- What is in the closure of names is in the lineage of one. -/
lemma mem_closure_iff {names : List String} {m : String} :
    m ∈ closure names ↔ ∃ name ∈ names, m ∈ lineage name := by
  simp [closure]

/-- A closure holds the lineages of its members. -/
lemma lineage_subset_closure {names : List String} {m : String} (h : m ∈ closure names) :
    lineage m ⊆ closure names := by
  obtain ⟨name, hn, hm⟩ := mem_closure_iff.1 h
  exact fun k hk => mem_closure_iff.2 ⟨name, hn, lineage_subset hm hk⟩

end UnitName

end UnitLoader
