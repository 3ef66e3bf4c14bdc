import UnitLoader.Path
import UnitLoader.Proofs.UnitName

/-!
# Normal forms of paths

What a path leads to is given by names that are taken one after the other. They are ordinary names
without slashes, whatever the path, and they are read back from the text that they make up.

## Main definitions

* `UnitLoader.Path.IsName` — the names that a normal form is made of.

## Main results

* `UnitLoader.Path.isName_of_relativeTo?` — the way to what a path names is made of names.
* `UnitLoader.Path.segments_relativeText` — a way is read back from its text.
* `UnitLoader.Path.normal?_absoluteText` — so are the names of an absolute path.
* `UnitLoader.Path.join_absoluteText` — the text of an absolute path is continued by a relative one.
-/

set_option relaxedAutoImplicit false
set_option autoImplicit false

namespace UnitLoader.Path

open Text

/-- An ordinary name without a slash. -/
def IsName (s : String) : Prop :=
  isOrdinary s ∧ '/' ∉ s.toList

variable {s path : String} {names segs parts : List String}

/-- A name is no filler: it leads on. -/
lemma IsName.isFiller_eq (h : IsName s) : isFiller s = false := by
  have ho := h.1
  rw [isOrdinary, Bool.and_eq_true] at ho
  simpa using ho.1

/-- A name does not lead up. -/
lemma IsName.ne_dots (h : IsName s) : s ≠ ".." := by
  have ho := h.1
  rw [isOrdinary, Bool.and_eq_true] at ho
  simpa using ho.2

/-- A name is not empty. -/
lemma IsName.ne_empty (h : IsName s) : s ≠ "" := by
  have hf := h.isFiller_eq
  rw [isFiller, Bool.or_eq_false_iff] at hf
  simpa using hf.1

/-! ## What normal forms are made of -/

/-- There is no slash in a segment of a path. -/
lemma slash_not_mem_of_mem_segments (h : s ∈ segments path) : '/' ∉ s.toList := by
  obtain ⟨p, hp, rfl⟩ := List.mem_map.1 h
  rw [String.toList_ofList]
  exact not_mem_of_mem_pieces hp

/-- The names that are left of segments are among these. -/
lemma mem_of_resolve? (h : resolve? names segs = some parts) (hs : s ∈ parts) :
    s ∈ names ∨ s ∈ segs := by
  induction segs generalizing names with
  | nil =>
    simp only [resolve?, Option.some.injEq] at h
    subst h
    exact .inl (List.mem_reverse.1 hs)
  | cons seg segs ih =>
    simp only [resolve?] at h
    split at h
    · exact (ih h).imp_right (List.mem_cons_of_mem seg)
    · split at h
      · cases names with
        | nil => cases h
        | cons n names =>
          exact (ih h).imp (List.mem_cons_of_mem n) (List.mem_cons_of_mem seg)
      · rcases ih h with hs | hs
        · rcases List.mem_cons.1 hs with rfl | hs
          · exact .inr (List.mem_cons_self ..)
          · exact .inl hs
        · exact .inr (List.mem_cons_of_mem seg hs)

/-- A normal form is made of names. -/
lemma isName_of_normal? {n : Normal} (h : normal? path = .ok n) : ∀ s ∈ n.parts, IsName s := by
  intro s hs
  unfold normal? at h
  split at h
  · next parts hr =>
    obtain rfl := Except.ok.inj h
    have ho : isOrdinary s := isOrdinary_of_mem_resolve? (by simp) hr s hs
    have hseg : s ∈ segments path := (mem_of_resolve? hr hs).resolve_left (by simp)
    exact ⟨ho, slash_not_mem_of_mem_segments hseg⟩
  · cases h

/-- What a path is relative to a directory: a relative path is its normal form, and from an absolute
one the directory is taken off. -/
lemma relativeTo?_eq (directory : List String) (path : String) :
    relativeTo? directory path =
      if path = "" then .error .empty
      else match normal? path with
        | .error e => .error e
        | .ok n =>
          if n.absolute then
            match directory.isPrefixOf? n.parts with
            | some rest => .ok rest
            | none => .error (.notBeneath path (absoluteText directory))
          else .ok n.parts := by
  unfold relativeTo?
  split
  · rfl
  · cases normal? path with
    | error e => rfl
    | ok n =>
      obtain ⟨absolute, parts⟩ := n
      cases absolute
      · rfl
      · simp only [bind, Except.bind, if_true]
        cases directory.isPrefixOf? parts <;> rfl

/-- The way from a directory to what a path names is made of names. -/
lemma isName_of_relativeTo? {directory : List String}
    (h : relativeTo? directory path = .ok parts) : ∀ s ∈ parts, IsName s := by
  rw [relativeTo?_eq] at h
  split at h
  · cases h
  · cases hn : normal? path with
    | error e =>
      rw [hn] at h
      cases h
    | ok n =>
      have hnames := isName_of_normal? hn
      rw [hn] at h
      dsimp only at h
      split at h
      · split at h
        · next rest hrest =>
          obtain rfl := Except.ok.inj h
          intro s hs
          rw [List.isPrefixOf?_eq_some_iff_append_eq] at hrest
          exact hnames s (hrest ▸ List.mem_append_right directory hs)
        · cases h
      · obtain rfl := Except.ok.inj h
        exact hnames

/-! ## Reading names back -/

/-- Names that are joined with slashes are the segments of the result. -/
lemma segments_joinNames (hne : names ≠ []) (h : ∀ s ∈ names, '/' ∉ s.toList) :
    segments (joinNames names) = names := by
  have hmap : names.map String.toList ≠ [] := by simpa using hne
  rw [segments, joinNames, String.toList_ofList, pieces_joinWith hmap, List.map_map]
  · exact List.map_id'' (fun _ => String.ofList_toList) names
  · intro p hp
    obtain ⟨s, hs, rfl⟩ := List.mem_map.1 hp
    exact h s hs

/-- A way is read back from its text; the text of no way is a filler. -/
lemma segments_relativeText (h : ∀ s ∈ parts, IsName s) :
    segments (relativeText parts) = if parts = [] then ["."] else parts := by
  unfold relativeText
  split
  · decide
  · next hne => exact segments_joinNames hne fun s hs => (h s hs).2

/-- A name has a character in it. -/
lemma IsName.toList_ne_nil (h : IsName s) : s.toList ≠ [] := by
  rw [ne_eq, String.toList_eq_nil_iff]
  exact h.ne_empty

/-- A path that begins with a name is relative. -/
lemma IsName.isAbsolute_append (h : IsName s) (rest : String) : isAbsolute (s ++ rest) = false := by
  obtain ⟨c, cs, hc⟩ := List.exists_cons_of_ne_nil h.toList_ne_nil
  have hslash : c ≠ '/' := by
    rintro rfl
    exact h.2 (hc ▸ List.mem_cons_self ..)
  simp [isAbsolute, String.toList_append, hc, hslash]

/-- Joined names begin with the first of them. -/
lemma joinNames_cons (s : String) (names : List String) :
    ∃ rest, joinNames (s :: names) = s ++ rest := by
  cases names with
  | nil => exact ⟨"", String.toList_injective (by simp [joinNames, joinWith])⟩
  | cons n names =>
    exact ⟨"/" ++ joinNames (n :: names), String.toList_injective (by simp [joinNames, joinWith])⟩

/-- The text of a way is a relative path. -/
lemma isAbsolute_relativeText (h : ∀ s ∈ parts, IsName s) :
    isAbsolute (relativeText parts) = false := by
  cases parts with
  | nil => decide
  | cons s parts =>
    obtain ⟨rest, hrest⟩ := joinNames_cons s parts
    rw [relativeText, if_neg (List.cons_ne_nil s parts), hrest]
    exact (h s (List.mem_cons_self ..)).isAbsolute_append rest

/-- The relative path of names is not empty. It is a dot if there are no names. -/
lemma relativeText_ne_empty (h : ∀ s ∈ parts, IsName s) : relativeText parts ≠ "" := by
  intro he
  have hsegments := segments_relativeText h
  rw [he] at hsegments
  split at hsegments
  · exact absurd hsegments (by decide)
  · obtain rfl : parts = [""] := hsegments.symm.trans rfl
    exact (h "" (List.mem_cons_self ..)).ne_empty rfl

/-- The relative path of one name is that name. -/
lemma relativeText_singleton (s : String) : relativeText [s] = s :=
  String.toList_injective (by simp [relativeText, joinNames, joinWith])

/-! ## Absolute paths -/

/-- Names are taken as they are. -/
lemma resolve?_of_isName (before : List String) (h : ∀ s ∈ names, IsName s) :
    resolve? before names = some (before.reverse ++ names) := by
  induction names generalizing before with
  | nil => simp [resolve?]
  | cons s names ih =>
    have hs := h s (List.mem_cons_self ..)
    rw [resolve?.eq_def]
    dsimp only
    rw [if_neg (by simp [hs.isFiller_eq]), if_neg hs.ne_dots,
      ih _ fun s' hs' => h s' (List.mem_cons_of_mem s hs'), List.reverse_cons, List.append_assoc,
      List.singleton_append]

/-- The absolute path of names is absolute. -/
lemma isAbsolute_absoluteText (names : List String) : isAbsolute (absoluteText names) = true := by
  simp [isAbsolute, absoluteText, String.toList_append]

/-- The absolute path of names is not empty. -/
lemma absoluteText_ne_empty (names : List String) : absoluteText names ≠ "" := by
  simp [absoluteText]

/-- In front of its names, an absolute path has an empty segment. -/
lemma segments_absoluteText (names : List String) :
    segments (absoluteText names) = "" :: segments (joinNames names) := by
  simp [segments, absoluteText, String.toList_append]

/-- The names of an absolute path are read back from its text. -/
theorem normal?_absoluteText (h : ∀ s ∈ names, IsName s) :
    normal? (absoluteText names) = .ok ⟨true, names⟩ := by
  have hresolve : resolve? [] (segments (joinNames names)) = some names := by
    cases names with
    | nil => decide
    | cons s names =>
      rw [segments_joinNames (List.cons_ne_nil s names) fun s' hs' => (h s' hs').2,
        resolve?_of_isName [] h]
      rfl
  rw [normal?, segments_absoluteText, resolve?, if_pos (by decide), hresolve,
    isAbsolute_absoluteText]

/-- The way from a directory to an absolute path leads there. -/
lemma append_of_relativeTo?_absoluteText {directory : List String} (h : ∀ s ∈ names, IsName s)
    (hr : relativeTo? directory (absoluteText names) = .ok parts) : directory ++ parts = names := by
  rw [relativeTo?_eq, normal?_absoluteText h] at hr
  split at hr
  · cases hr
  · dsimp only at hr
    rw [if_pos rfl] at hr
    split at hr
    · next rest hrest =>
      obtain rfl := Except.ok.inj hr
      rwa [List.isPrefixOf?_eq_some_iff_append_eq] at hrest
    · cases hr

/-- A name does not end in a slash. -/
lemma getLast?_ne_slash (h : IsName s) : s.toList.getLast? ≠ some '/' := by
  intro hl
  exact h.2 (List.mem_of_getLast? hl)

/-- A path taken from where a name leads. -/
lemma join_of_isName (h : IsName s) (hp : isAbsolute path = false) :
    join s path = s ++ "/" ++ path := by
  rw [join, if_neg (by simp [hp]), if_neg]
  simp [h.ne_empty, getLast?_ne_slash h]

/-- Below a directory that is not the root, a name is put behind the path after a slash. -/
lemma absoluteText_append_singleton (hne : names ≠ []) (s : String) :
    absoluteText (names ++ [s]) = absoluteText names ++ "/" ++ s := by
  apply String.toList_injective
  simp [absoluteText, joinNames, joinWith_append_singleton, hne]

/-- The text of an absolute path ends in its last name. -/
lemma exists_absoluteText_concat (names : List String) (s : String) :
    ∃ before, absoluteText (names ++ [s]) = before ++ s := by
  cases names with
  | nil => exact ⟨"/", String.toList_injective (by simp [absoluteText, joinNames, joinWith])⟩
  | cons n names => exact ⟨_, absoluteText_append_singleton (List.cons_ne_nil n names) s⟩

/-- A path that begins with a name, taken from an absolute path, goes on from there. -/
lemma join_absoluteText (h : ∀ n ∈ names, IsName n) (hs : IsName s) (rest : String) :
    join (absoluteText names) (s ++ rest) = absoluteText (names ++ [s]) ++ rest := by
  rw [join, if_neg (by simp [hs.isAbsolute_append])]
  rcases List.eq_nil_or_concat names with rfl | ⟨before, n, hnames⟩
  · rw [if_pos (by decide)]
    apply String.toList_injective
    simp [absoluteText, joinNames, joinWith]
  · rw [List.concat_eq_append] at hnames
    have hn : IsName n := h n (by simp [hnames])
    obtain ⟨text, htext⟩ := exists_absoluteText_concat before n
    rw [← hnames] at htext
    have hlast : (absoluteText names).toList.getLast? = n.toList.getLast? := by
      rw [htext, String.toList_append, List.getLast?_append_of_ne_nil _ hn.toList_ne_nil]
    rw [if_neg (by simp [absoluteText_ne_empty, hlast, getLast?_ne_slash hn]),
      absoluteText_append_singleton (by simp [hnames]), String.append_assoc, String.append_assoc,
      String.append_assoc]

end UnitLoader.Path
