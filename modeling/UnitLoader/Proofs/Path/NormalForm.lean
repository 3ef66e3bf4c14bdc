import Mathlib.Data.List.Infix
import UnitLoader.Proofs.Suffix

/-!
# What segments come to

Segments come to names when the fillers among them are dropped and every two dots are dropped
together with an ordinary name before them, in whatever order. Whether they come to any names can be
told by counting: on no part of the way may there be more steps up than steps down.

## Main definitions

* `UnitLoader.Path.ComeTo` — the names that segments come to.
* `UnitLoader.Path.StaysBeneath` — segments never lead up above where they begin.

## Main results

* `UnitLoader.Path.resolve?_eq_some_iff` — the names of a normal form are those that the segments
  come to.
* `UnitLoader.Path.exists_resolve?_iff` — there is a normal form if the segments stay beneath where
  they begin.
* `UnitLoader.Path.normal?_join` — a path taken from where another leads has the names of both.
-/

set_option relaxedAutoImplicit false
set_option autoImplicit false

namespace UnitLoader.Path

variable {names segs parts before after base : List String} {s path : String}

/-- Segments come to ordinary names: fillers are dropped, and so are two dots with an ordinary name
before them. -/
inductive ComeTo : List String → List String → Prop
  | names {parts : List String} (h : ∀ s ∈ parts, isOrdinary s) : ComeTo parts parts
  | filler {before after parts : List String} {s : String} (hs : isFiller s)
      (h : ComeTo (before ++ after) parts) : ComeTo (before ++ s :: after) parts
  | back {before after parts : List String} {s : String} (hs : isOrdinary s)
      (h : ComeTo (before ++ after) parts) : ComeTo (before ++ s :: ".." :: after) parts

/-- On no part of the way from its beginning do segments go up more often than down. -/
def StaysBeneath (segs : List String) : Prop :=
  ∀ before, before <+: segs → before.count ".." ≤ before.countP isOrdinary

/-! ## One segment -/

/-- A segment is a filler, two dots, or an ordinary name. -/
lemma segment_cases (s : String) :
    (isFiller s = true ∧ s ≠ ".." ∧ isOrdinary s = false) ∨ s = ".." ∨
      (isFiller s = false ∧ s ≠ ".." ∧ isOrdinary s = true) := by
  by_cases hdots : s = ".."
  · exact .inr (.inl hdots)
  · cases hfiller : isFiller s with
    | true => exact .inl ⟨rfl, hdots, by simp [isOrdinary, hfiller]⟩
    | false => exact .inr (.inr ⟨rfl, hdots, by simp [isOrdinary, hfiller, hdots]⟩)

/-- A filler leads on from where it is. -/
lemma resolve?_filler (hs : isFiller s = true) (names segs : List String) :
    resolve? names (s :: segs) = resolve? names segs := by
  rw [resolve?.eq_def]
  exact if_pos hs

/-- An ordinary segment leads down, to a directory of its name. -/
lemma resolve?_ordinary (hs : isOrdinary s = true) (names segs : List String) :
    resolve? names (s :: segs) = resolve? (s :: names) segs := by
  rcases segment_cases s with ⟨-, -, hnot⟩ | rfl | ⟨hfiller, hdots, -⟩
  · simp [hs] at hnot
  · cases hs
  · rw [resolve?.eq_def]
    simp [hfiller, hdots]

/-- Two dots lead up from a directory, and nowhere from where there is nothing above. -/
lemma resolve?_dots (names segs : List String) :
    resolve? names (".." :: segs) = match names with
      | [] => none
      | _ :: names => resolve? names segs := by
  rw [resolve?.eq_def]
  rfl

/-! ## What segments come to -/

/-- Ordinary segments lead all the way down. -/
lemma resolve?_of_isOrdinary (names : List String) (h : ∀ s ∈ parts, isOrdinary s) :
    resolve? names parts = some (names.reverse ++ parts) := by
  induction parts generalizing names with
  | nil => simp [resolve?]
  | cons s parts ih =>
    obtain ⟨hs, hparts⟩ := List.forall_mem_cons.1 h
    rw [resolve?_ordinary hs, ih _ hparts]
    simp

/-- What segments lead to, taken as a stack of names, is what the names and they come to. -/
lemma comeTo_of_resolve? (hn : ∀ n ∈ names, isOrdinary n) (h : resolve? names segs = some parts) :
    ComeTo (names.reverse ++ segs) parts := by
  induction segs generalizing names with
  | nil =>
    obtain rfl : names.reverse = parts := Option.some.inj h
    rw [List.append_nil]
    exact .names fun s hs => hn s (List.mem_reverse.1 hs)
  | cons s segs ih =>
    rcases segment_cases s with ⟨hfiller, -, -⟩ | rfl | ⟨-, -, hordinary⟩
    · rw [resolve?_filler hfiller] at h
      exact .filler hfiller (ih hn h)
    · rw [resolve?_dots] at h
      cases names with
      | nil => cases h
      | cons n names =>
        -- The names come last first, so the one that is taken back is the first of them.
        obtain ⟨hname, hn⟩ := List.forall_mem_cons.1 hn
        rw [List.reverse_cons, List.append_assoc]
        exact .back hname (ih hn h)
    · rw [resolve?_ordinary hordinary] at h
      have hcome := ih (List.forall_mem_cons.2 ⟨hordinary, hn⟩) h
      rwa [List.reverse_cons, List.append_assoc] at hcome

/-- The names of a normal form are those that the segments come to. -/
theorem resolve?_eq_some_iff : resolve? [] segs = some parts ↔ ComeTo segs parts := by
  refine ⟨fun h => comeTo_of_resolve? (by simp) h, fun h => ?_⟩
  induction h with
  | names h => exact resolve?_of_isOrdinary [] h
  | filler hs _ ih =>
    rw [resolve?_append] at ih ⊢
    simpa only [resolve?_filler hs] using ih
  | back hs _ ih =>
    rw [resolve?_append] at ih ⊢
    simpa only [resolve?_ordinary hs, resolve?_dots] using ih

/-! ## Whether segments come to anything -/

/-- What holds of all beginnings of a list holds of the empty one and, one segment longer, of those
of its rest. -/
lemma forall_prefix_cons {P : List String → Prop} :
    (∀ before, before <+: s :: segs → P before) ↔
      P [] ∧ ∀ before, before <+: segs → P (s :: before) := by
  simp only [List.prefix_cons_iff, forall_eq_or_imp, forall_exists_index, and_imp]
  refine and_congr_right' ⟨fun h before hb => h _ before rfl hb, fun h long before he hb => ?_⟩
  rw [he]
  exact h before hb

/-- Segments lead somewhere if, at no point of the way, there were more steps up than down. -/
lemma isSome_resolve?_iff (names segs : List String) :
    (resolve? names segs).isSome ↔
      ∀ before, before <+: segs → before.count ".." ≤ names.length + before.countP isOrdinary := by
  induction segs generalizing names with
  | nil => simp [resolve?]
  | cons s segs ih =>
    rw [forall_prefix_cons, List.count_nil, and_iff_right (Nat.zero_le _)]
    rcases segment_cases s with ⟨hfiller, hdots, hnot⟩ | rfl | ⟨-, hdots, hordinary⟩
    · rw [resolve?_filler hfiller, ih]
      simp [hdots, hnot]
    · have hnot : isOrdinary ".." = false := by decide
      rw [resolve?_dots]
      cases names with
      | nil =>
        constructor
        · intro h
          cases h
        · intro h
          simpa [hnot] using h [] List.nil_prefix
      | cons n names =>
        rw [ih]
        refine forall₂_congr fun before _ => ?_
        rw [List.count_cons_self, List.countP_cons_of_neg (by simp [hnot]), List.length_cons]
        omega
    · rw [resolve?_ordinary hordinary, ih]
      refine forall₂_congr fun before _ => ?_
      rw [List.count_cons_of_ne hdots, List.countP_cons_of_pos hordinary, List.length_cons]
      omega

/-- There is a normal form if the segments stay beneath where they begin, and only then. -/
theorem exists_resolve?_iff : (∃ parts, resolve? [] segs = some parts) ↔ StaysBeneath segs := by
  rw [← Option.isSome_iff_exists, isSome_resolve?_iff]
  simp [StaysBeneath]

/-! ## Paths taken one from the other -/

/-- A normal form consists of what the segments lead to and of whether the path is absolute. -/
lemma normal?_eq_ok_iff {n : Normal} :
    normal? path = .ok n ↔
      resolve? [] (segments path) = some n.parts ∧ isAbsolute path = n.absolute := by
  obtain ⟨absolute, parts⟩ := n
  rw [normal?]
  cases resolve? [] (segments path) with
  | none => simp
  | some parts' => simp [and_comm]

/-- Names that some segments begin with are kept by segments that take none of them back. -/
lemma resolve?_append_names (more : List String) (h : resolve? names segs = some parts) :
    resolve? (names ++ more) segs = some (more.reverse ++ parts) := by
  induction segs generalizing names with
  | nil =>
    obtain rfl : names.reverse = parts := Option.some.inj h
    simp [resolve?]
  | cons s segs ih =>
    rcases segment_cases s with ⟨hfiller, -, -⟩ | rfl | ⟨-, -, hordinary⟩
    · rw [resolve?_filler hfiller] at h ⊢
      exact ih h
    · rw [resolve?_dots] at h
      cases names with
      | nil => cases h
      | cons n names =>
        rw [List.cons_append, resolve?_dots]
        exact ih h
    · rw [resolve?_ordinary hordinary] at h ⊢
      exact ih h

/-- The segments of a path taken from where another leads are those of both, up to an empty one. -/
lemma resolve?_segments_join {base path : String} (hbase : base ≠ "")
    (hpath : isAbsolute path = false) :
    resolve? [] (segments (join base path)) = resolve? [] (segments base ++ segments path) := by
  rw [join, if_neg (by simp [hpath])]
  by_cases hslash : base.toList.getLast? = some '/'
  · rw [if_pos (by simp [hslash])]
    obtain ⟨text, htext⟩ := List.getLast?_eq_some_iff.1 hslash
    have hsplit : base = String.ofList text ++ "/" ++ "" :=
      String.toList_injective (by simp [htext])
    have hjoin : base ++ path = String.ofList text ++ "/" ++ path := by
      rw [hsplit, String.append_empty]
    have hempty : segments "" = [""] := by decide
    rw [hjoin, hsplit, segments_append_slash, segments_append_slash, hempty, List.append_assoc,
      resolve?_append, resolve?_append, List.singleton_append]
    simp only [resolve?_filler (s := "") (by decide)]
  · rw [if_neg (by simp [hbase, hslash]), segments_append_slash]

/-- A relative path joined to another is as absolute as that one. -/
lemma isAbsolute_join {base path : String} (hbase : base ≠ "") (hpath : isAbsolute path = false) :
    isAbsolute (join base path) = isAbsolute base := by
  have hhead (rest : String) : isAbsolute (base ++ rest) = isAbsolute base := by
    rw [isAbsolute, isAbsolute, String.toList_append,
      List.head?_append_of_ne_nil _ (by simpa using hbase)]
  rw [join, if_neg (by simp [hpath])]
  split
  · exact hhead path
  · rw [String.append_assoc]
    exact hhead _

/-- A path joined to one that is not empty is not empty. -/
lemma join_ne_empty {base path : String} (hbase : base ≠ "") : join base path ≠ "" := by
  rw [join]
  split
  · next habsolute =>
    rintro rfl
    simp [isAbsolute] at habsolute
  · split <;> simp [hbase]

/-- A path taken from where another leads has the names of both. -/
theorem normal?_join {base path : String} {absolute : Bool} {before way : List String}
    (hne : base ≠ "") (hbase : normal? base = .ok ⟨absolute, before⟩)
    (hpath : normal? path = .ok ⟨false, way⟩) :
    normal? (join base path) = .ok ⟨absolute, before ++ way⟩ := by
  rw [normal?_eq_ok_iff] at hbase hpath ⊢
  obtain ⟨hbase, habsolute⟩ := hbase
  obtain ⟨hpath, hrelative⟩ := hpath
  have hkept := resolve?_append_names before.reverse hpath
  rw [List.nil_append, List.reverse_reverse] at hkept
  rw [resolve?_segments_join hne hrelative, resolve?_append, hbase, Option.bind_some, hkept,
    isAbsolute_join hne hrelative]
  exact ⟨rfl, habsolute⟩

end UnitLoader.Path
