import Mathlib.Data.List.TakeWhile
import UnitLoader.Proofs.Handle
import UnitLoader.Suffix

/-!
# Paths with another suffix

A path whose last name has a suffix is the path before that name and a stem with the suffix. With
another suffix after the stem it names something in the same directory, whatever fillers and dots
there are in the path.

## Main definitions

* `UnitLoader.Path.named` — the segments of a path that are no fillers.
* `UnitLoader.Path.kept` — what a path before a last name keeps of its segments.

## Main results

* `UnitLoader.Path.split?_join_of_split?` — with another last name a path is taken apart again.
* `UnitLoader.Path.normal?_join_of_split?` — with another last name a path differs in that name.
* `UnitLoader.Path.relativeTo?_join_of_split?` — and so does the way to what it names.
* `UnitLoader.Handle.relative_replaceSuffix?` — what a path with another suffix names is beside what
  the path names.
-/

set_option relaxedAutoImplicit false
set_option autoImplicit false

namespace UnitLoader

namespace Path

open Text

variable {s path base before name name' : String}
  {names segs more parts directory way : List String}

/-! ## Fillers -/

/-- The segments of a path that are no fillers. -/
def named (path : String) : List String :=
  (segments path).filter (!isFiller ·)

/-- Fillers do not matter for what segments lead to. -/
lemma resolve?_filter (names segs : List String) :
    resolve? names (segs.filter (!isFiller ·)) = resolve? names segs := by
  induction segs generalizing names with
  | nil => rfl
  | cons s segs ih =>
    by_cases hs : isFiller s
    · rw [List.filter_cons_of_neg (by simp [hs]), ih]
      conv_rhs => rw [resolve?.eq_def]
      simp [hs]
    · rw [List.filter_cons_of_pos (by simp [hs])]
      rw [resolve?.eq_def, resolve?.eq_def names (s :: segs)]
      simp only [hs, ih]

/-- Fillers do not matter for the normal form of a path. -/
lemma normal?_eq_named (path : String) :
    normal? path = match resolve? [] (named path) with
      | some parts => .ok ⟨isAbsolute path, parts⟩
      | none => .error (.escapes path) := by
  rw [named, resolve?_filter]
  rfl

/-- Only fillers are dropped from the end of segments. -/
lemma exists_dropFillers_append (segs : List String) :
    ∃ fillers, segs = dropFillers segs ++ fillers ∧ ∀ f ∈ fillers, isFiller f := by
  refine ⟨(segs.reverse.takeWhile isFiller).reverse, ?_, fun f hf => ?_⟩
  · rw [dropFillers, ← List.reverse_append, List.takeWhile_append_dropWhile, List.reverse_reverse]
  · exact List.mem_takeWhile_imp (List.mem_reverse.1 hf)

/-- No segment but fillers is lost when those at the end are dropped. -/
lemma filter_dropFillers (segs : List String) :
    (dropFillers segs).filter (!isFiller ·) = segs.filter (!isFiller ·) := by
  obtain ⟨fillers, hsegs, hfillers⟩ := exists_dropFillers_append segs
  have hnil : fillers.filter (!isFiller ·) = [] :=
    List.filter_eq_nil_iff.2 fun f hf => by simp [hfillers f hf]
  conv_rhs => rw [hsegs, List.filter_append, hnil, List.append_nil]

/-- What is last without the fillers at the end is no filler. -/
lemma isFiller_of_dropFillers_eq_concat (h : dropFillers segs = names ++ [s]) :
    isFiller s = false := by
  have hreverse : segs.reverse.dropWhile isFiller = s :: names.reverse := by
    rw [← List.reverse_reverse (List.dropWhile _ _), ← dropFillers, h]
    simp
  have hhead := List.head?_dropWhile_not isFiller segs.reverse
  rw [hreverse] at hhead
  simpa using hhead

/-! ## Joined paths -/

/-- A slash between two texts is between their segments. -/
lemma segments_append_slash (a b : String) : segments (a ++ "/" ++ b) = segments a ++ segments b := by
  simp [segments, String.toList_append, pieces_append_sep]

/-- A text without a slash is one segment. -/
lemma segments_of_not_mem (h : '/' ∉ s.toList) : segments s = [s] := by
  have hone := segments_joinNames (List.cons_ne_nil s []) (by simpa using h)
  rwa [joinNames, List.map_singleton, joinWith, String.ofList_toList] at hone

/-- An absolute path has an empty segment at its front, and more. -/
lemma isAbsolute_iff (path : String) :
    isAbsolute path ↔ (segments path).head? = some "" ∧ (segments path).length ≠ 1 := by
  rw [isAbsolute, segments]
  cases path.toList with
  | nil => simp
  | cons c cs =>
    by_cases hc : c = '/'
    · subst hc
      have hne : pieces '/' cs ≠ [] := pieces_ne_nil cs
      simp [hne]
    · rw [pieces_cons_of_ne hc]
      simp [hc]

/-- A relative path that is joined to nothing stays as it is. -/
lemma join_empty (h : isAbsolute path = false) : join "" path = path := by
  rw [join, if_neg (by simp [h]), if_pos (by simp)]
  simp

/-- The segments of a name after segments that do not end in an empty one. -/
lemma segments_join_joinNames (hn : IsName name') (hne : segs ≠ [])
    (hslash : ∀ s ∈ segs, '/' ∉ s.toList) (hends : ∀ before, segs ≠ before ++ [""]) :
    segments (join (joinNames segs) name') = segs ++ [name'] := by
  have hrelative : isAbsolute name' = false := by simpa using hn.isAbsolute_append ""
  have hbase : segments (joinNames segs) = segs := segments_joinNames hne hslash
  have hempty : joinNames segs ≠ "" := fun he => hends [] (by rw [← hbase, he]; rfl)
  have hnoSlash : (joinNames segs).toList.getLast? ≠ some '/' := fun he => by
    obtain ⟨text, htext⟩ := List.getLast?_eq_some_iff.1 he
    have hsplit : joinNames segs = String.ofList text ++ "/" ++ "" :=
      String.toList_injective (by simp [htext])
    exact hends _ (by rw [← hbase, hsplit, segments_append_slash]; rfl)
  rw [join, if_neg (by simp [hrelative]), if_neg (by simp [hempty, hnoSlash]),
    segments_append_slash, hbase, segments_of_not_mem hn.2]

/-! ## Segments before a last name -/

/-- What is kept of segments in front of a last name: fillers at their end are lost, but for the
first segment. -/
def kept (segs : List String) : List String :=
  if dropFillers segs = [] then segs.take 1 else dropFillers segs

/-- Nothing is dropped if the last segment is no filler. -/
lemma dropFillers_concat (hname : isFiller name = false) (segs : List String) :
    dropFillers (segs ++ [name]) = segs ++ [name] := by
  simp [dropFillers, hname]

/-- Without the fillers at the end the last segment is not empty. -/
lemma dropFillers_ne_concat_empty (before : List String) : dropFillers segs ≠ before ++ [""] :=
  fun he => absurd (isFiller_of_dropFillers_eq_concat he) (by decide)

/-- Nothing is left without the fillers at the end if all segments are fillers. -/
lemma dropFillers_eq_nil_iff : dropFillers segs = [] ↔ ∀ s ∈ segs, isFiller s := by
  simp [dropFillers]

/-- Nothing more is lost of what is kept. -/
lemma kept_kept (segs : List String) : kept (kept segs) = kept segs := by
  rcases List.eq_nil_or_concat' (dropFillers segs) with hnil | ⟨before, s, hconcat⟩
  · have hfillers := dropFillers_eq_nil_iff.1 hnil
    have htake : dropFillers (segs.take 1) = [] :=
      dropFillers_eq_nil_iff.2 fun s hs => hfillers s (List.mem_of_mem_take hs)
    rw [kept.eq_def segs, if_pos hnil, kept, if_pos htake, List.take_take]
    rfl
  · have hkept : kept segs = before ++ [s] := by rw [kept, if_neg (by simp [hconcat]), hconcat]
    rw [hkept, kept, dropFillers_concat (isFiller_of_dropFillers_eq_concat hconcat),
      if_neg (by simp)]

/-- Fillers do not matter for what names are kept. -/
lemma filter_kept (segs : List String) :
    (kept segs).filter (!isFiller ·) = segs.filter (!isFiller ·) := by
  rw [kept]
  split
  · next hnil =>
    have hfillers := dropFillers_eq_nil_iff.1 hnil
    rw [List.filter_eq_nil_iff.2 fun s hs => by simp [hfillers s (List.mem_of_mem_take hs)],
      List.filter_eq_nil_iff.2 fun s hs => by simp [hfillers s hs]]
  · exact filter_dropFillers segs

/-- The first segment is always kept. -/
lemma head?_kept (segs : List String) : (kept segs).head? = segs.head? := by
  rw [kept]
  split
  · cases segs <;> rfl
  · next hne =>
    obtain ⟨fillers, hsegs, -⟩ := exists_dropFillers_append segs
    conv_rhs => rw [hsegs, List.head?_append_of_ne_nil _ hne]

/-- What is kept is one of the segments. -/
lemma mem_of_mem_kept {s : String} (h : s ∈ kept segs) : s ∈ segs := by
  obtain ⟨fillers, hsegs, -⟩ := exists_dropFillers_append segs
  rw [kept] at h
  split at h
  · exact List.mem_of_mem_take h
  · exact hsegs ▸ List.mem_append_left fillers h

/-- An empty segment is kept only at the front. -/
lemma kept_eq_of_concat_empty {before : List String} (h : kept segs = before ++ [""]) :
    kept segs = [""] := by
  rw [kept] at h ⊢
  split
  · next hnil =>
    rw [if_pos hnil] at h
    have hlength := congrArg List.length h
    rw [List.length_take, List.length_append, List.length_singleton] at hlength
    obtain rfl : before = [] := List.eq_nil_of_length_eq_zero (by omega)
    exact h
  · next hne =>
    rw [if_neg hne] at h
    exact absurd h (dropFillers_ne_concat_empty before)

/-- A path whose first segments are followed by a name is absolute if the first of these is
empty. -/
lemma isAbsolute_iff_head? (hsegs : segments path = segs ++ name :: more)
    (hname : isFiller name = false) : isAbsolute path = true ↔ segs.head? = some "" := by
  rw [isAbsolute_iff, hsegs]
  cases segs with
  | nil =>
    have hne : name ≠ "" := by
      rintro rfl
      cases hname
    simp [hne]
  | cons s segs => simp

/-- The text of the segments that a path begins with is that of those that are kept. -/
lemma beginning_eq (hsegs : segments path = segs ++ name :: more) (hname : isFiller name = false) :
    beginning path segs = if kept segs = [""] then "/" else joinNames (kept segs) := by
  have habsolute := isAbsolute_iff_head? hsegs hname
  rw [beginning, kept]
  split
  · next hnil =>
    rw [if_pos hnil]
    cases segs with
    | nil =>
      rw [if_neg (by simp [habsolute])]
      decide
    | cons s segs =>
      have hs : isFiller s = true := dropFillers_eq_nil_iff.1 hnil s (List.mem_cons_self ..)
      rw [isFiller, Bool.or_eq_true, decide_eq_true_eq, decide_eq_true_eq] at hs
      rcases hs with rfl | rfl
      · rw [if_pos (habsolute.2 rfl)]
        rfl
      · rw [if_neg (by simp [habsolute]), List.take_succ_cons, List.take_zero]
        rfl
  · next hne =>
    have hone : dropFillers segs ≠ [""] := dropFillers_ne_concat_empty []
    rw [if_neg hne, if_neg hone]

/-- A name after the segments that a path begins with. -/
lemma segments_join_beginning (hn : IsName name') (hsegs : segments path = segs ++ name :: more)
    (hname : isFiller name = false) :
    segments (join (beginning path segs) name') = kept segs ++ [name'] := by
  have hrelative : isAbsolute name' = false := by simpa using hn.isAbsolute_append ""
  rw [beginning_eq hsegs hname]
  split
  · next hroot =>
    have hjoin : join "/" name' = "" ++ "/" ++ name' := by
      rw [join, if_neg (by simp [hrelative]), if_pos (by decide)]
      rfl
    rw [hjoin, segments_append_slash, segments_of_not_mem hn.2, hroot]
    rfl
  · next hroot =>
    by_cases hnil : kept segs = []
    · have hempty : joinNames [] = "" := by decide
      rw [hnil, hempty, join_empty hrelative, segments_of_not_mem hn.2]
      rfl
    · refine segments_join_joinNames hn hnil (fun s hs => ?_) fun before he =>
        hroot (kept_eq_of_concat_empty he)
      exact slash_not_mem_of_mem_segments (hsegs ▸ List.mem_append_left _ (mem_of_mem_kept hs))

/-- The last name of a path stands after the segments that it begins with, and fillers may follow. -/
lemma exists_of_split? (h : split? path = some (base, name)) :
    ∃ segs fillers, segments path = segs ++ name :: fillers ∧ isFiller name = false ∧
      name ≠ ".." ∧ (∀ f ∈ fillers, isFiller f) ∧ base = beginning path segs := by
  unfold split? at h
  split at h
  · cases h
  · next name before hreverse =>
    split at h
    · cases h
    · next hdots =>
      obtain ⟨rfl, rfl⟩ := Prod.mk.inj (Option.some.inj h)
      have hkept : dropFillers (segments path) = before.reverse ++ [name] := by
        rw [← List.reverse_reverse (dropFillers _), hreverse, List.reverse_cons]
      obtain ⟨fillers, hsegs, hfillers⟩ := exists_dropFillers_append (segments path)
      rw [hkept, List.append_assoc] at hsegs
      exact ⟨before.reverse, fillers, hsegs, isFiller_of_dropFillers_eq_concat hkept, hdots,
        hfillers, rfl⟩

/-- With another last name a path is taken apart again, after the same path. -/
theorem split?_join_of_split? (h : split? path = some (base, name)) (hn : IsName name') :
    split? (join base name') = some (base, name') := by
  obtain ⟨segs, fillers, hsegs, hname, -, -, rfl⟩ := exists_of_split? h
  have hjoin := segments_join_beginning hn hsegs hname
  have hbeginning := beginning_eq hjoin hn.isFiller_eq
  rw [kept_kept, ← beginning_eq hsegs hname] at hbeginning
  rw [split?, hjoin, dropFillers_concat hn.isFiller_eq, List.reverse_append]
  simp [hn.ne_dots, hbeginning]

/-- With another last name a path leads to the same directory. -/
lemma named_of_split? (h : split? path = some (base, name)) :
    isFiller name = false ∧ name ≠ ".." ∧ ∃ mid, named path = mid ++ [name] ∧
      ∀ name', IsName name' → named (join base name') = mid ++ [name'] ∧
        isAbsolute (join base name') = isAbsolute path := by
  obtain ⟨segs, fillers, hsegs, hname, hdots, hfillers, rfl⟩ := exists_of_split? h
  have hnone : fillers.filter (!isFiller ·) = [] :=
    List.filter_eq_nil_iff.2 fun f hf => by simp [hfillers f hf]
  refine ⟨hname, hdots, segs.filter (!isFiller ·), ?_, fun name' hn => ?_⟩
  · rw [named, hsegs, List.filter_append, List.filter_cons_of_pos (by simp [hname]), hnone]
  · have hjoin := segments_join_beginning hn hsegs hname
    constructor
    · rw [named, hjoin, List.filter_append, filter_kept, List.filter_singleton, hn.isFiller_eq]
      rfl
    · rw [Bool.eq_iff_iff, isAbsolute_iff_head? hjoin hn.isFiller_eq, head?_kept,
        isAbsolute_iff_head? hsegs hname]

/-- With another last name the normal form of a path differs in that name. -/
lemma normal?_join_of_split? {n : Normal} (h : split? path = some (before, name))
    (hn : normal? path = .ok n) :
    ∃ mid, n.parts = mid ++ [name] ∧ ∀ name', IsName name' →
      normal? (join before name') = .ok ⟨n.absolute, mid ++ [name']⟩ := by
  obtain ⟨hfiller, hdots, mid, hmid, hjoin⟩ := named_of_split? h
  have hlast (s : String) (hs : isFiller s = false) (hd : s ≠ "..") (names : List String) :
      resolve? names [s] = some (names.reverse ++ [s]) := by
    simp [resolve?, hs, hd]
  rw [normal?_eq_named, hmid, resolve?_append] at hn
  cases hr : resolve? [] mid with
  | none =>
    rw [hr] at hn
    cases hn
  | some parts =>
    rw [hr, Option.bind_some, hlast name hfiller hdots] at hn
    obtain rfl := Except.ok.inj hn
    refine ⟨parts, by simp, fun name' hn' => ?_⟩
    obtain ⟨hnamed, habsolute⟩ := hjoin name' hn'
    rw [normal?_eq_named, hnamed, resolve?_append, hr, Option.bind_some,
      hlast name' hn'.isFiller_eq hn'.ne_dots, habsolute]
    simp

/-- With another last name a path names something beside what it named. -/
lemma relativeTo?_join_of_split? (h : split? path = some (before, name))
    (hr : relativeTo? directory path = .ok way) (hne : way ≠ []) :
    ∃ mid, way = mid ++ [name] ∧ ∀ name', IsName name' →
      relativeTo? directory (join before name') = .ok (mid ++ [name']) := by
  rw [relativeTo?_eq] at hr
  split at hr
  · cases hr
  cases hn : normal? path with
  | error e =>
    rw [hn] at hr
    cases hr
  | ok n =>
    obtain ⟨mid, hmid, hjoin⟩ := normal?_join_of_split? h hn
    -- The empty path has no names, but this one has a last one.
    have hempty {name' : String} (hn' : IsName name') : join before name' ≠ "" := fun he => by
      have hnormal := hjoin name' hn'
      have hnone : normal? "" = .ok ⟨false, []⟩ := by decide
      rw [he, hnone] at hnormal
      simpa using congrArg Normal.parts (Except.ok.inj hnormal)
    rw [hn] at hr
    dsimp only at hr
    split at hr
    · next habsolute =>
      split at hr
      · next rest hrest =>
        obtain rfl := Except.ok.inj hr
        rw [List.isPrefixOf?_eq_some_iff_append_eq, hmid] at hrest
        obtain ⟨mid', last, rfl⟩ := (List.eq_nil_or_concat' rest).resolve_left hne
        rw [← List.append_assoc] at hrest
        obtain ⟨hmid', hlast⟩ := List.append_inj' hrest rfl
        obtain rfl := List.singleton_inj.1 hlast
        refine ⟨mid', rfl, fun name' hn' => ?_⟩
        have hprefix : directory.isPrefixOf? (mid ++ [name']) = some (mid' ++ [name']) := by
          rw [List.isPrefixOf?_eq_some_iff_append_eq, ← hmid', List.append_assoc]
        rw [relativeTo?_eq, if_neg (hempty hn'), hjoin name' hn']
        simp [habsolute, hprefix]
      · cases hr
    · next habsolute =>
      obtain rfl := Except.ok.inj hr
      refine ⟨mid, hmid, fun name' hn' => ?_⟩
      rw [relativeTo?_eq, if_neg (hempty hn'), hjoin name' hn']
      simp [habsolute]

end Path

/-! ## Suffixes -/

open UnitLoader.Path (IsName)

variable {suffix text stem path path' old new : String} {way : List String}

/-- A text from which a suffix is stripped is what is left, with that suffix. -/
lemma eq_of_stripSuffix? (h : stripSuffix? suffix text = some stem) : text = stem ++ suffix := by
  obtain ⟨rest, hrest, rfl⟩ := Option.map_eq_some_iff.1 h
  have htext := Text.isPrefixOf?_eq_some hrest
  apply String.toList_injective
  rw [← List.reverse_reverse text.toList, htext]
  simp

/-- A path whose suffix is replaced ends in a name with the old one, and the new path in that name
with the new one. -/
lemma of_replaceSuffix? (h : replaceSuffix? path old new = some path') :
    ∃ before stem, Path.split? path = some (before, stem ++ old) ∧
      path' = Path.join before (stem ++ new) := by
  obtain ⟨⟨before, name⟩, hsplit, h⟩ := Option.bind_eq_some_iff.1 h
  obtain ⟨stem, hstem, hjoin⟩ := Option.bind_eq_some_iff.1 h
  obtain rfl := eq_of_stripSuffix? hstem
  exact ⟨before, stem, hsplit, (Option.some.inj hjoin).symm⟩

/-- A text without slashes that is longer than two dots is a name. -/
lemma Path.isName_of_length (hlong : 2 < text.length) (hslash : '/' ∉ text.toList) :
    IsName text := by
  have hne (s : String) (hs : s.length ≤ 2) : text ≠ s := by
    rintro rfl
    omega
  refine ⟨?_, hslash⟩
  simp [isOrdinary, isFiller, hne "" (by decide), hne "." (by decide), hne ".." (by decide)]

/-- A stem with a suffix that is long enough is a name. -/
lemma Path.isName_append (hstem : '/' ∉ stem.toList) (hslash : '/' ∉ suffix.toList)
    (hlong : 2 < suffix.length) : IsName (stem ++ suffix) :=
  isName_of_length (by rw [String.length_append]; omega)
    (by simp [String.toList_append, hstem, hslash])

/-- A path with another suffix names what is beside what the path names. -/
theorem Handle.relative_replaceSuffix? {h : Handle} (hr : h.relative path = .ok way)
    (hne : way ≠ []) (hreplace : replaceSuffix? path old new = some path')
    (hslash : '/' ∉ new.toList) (hlong : 2 < new.length) :
    ∃ before stem, way = before ++ [stem ++ old] ∧
      h.relative path' = .ok (before ++ [stem ++ new]) := by
  obtain ⟨base, stem, hsplit, rfl⟩ := of_replaceSuffix? hreplace
  obtain ⟨before, rfl, hjoin⟩ :=
    Path.relativeTo?_join_of_split? hsplit (Outcome.mapError_eq_ok.1 hr) hne
  have hstem : '/' ∉ stem.toList := fun hmem =>
    (isName_of_relative hr (stem ++ old) (by simp)).2 (by simp [String.toList_append, hmem])
  refine ⟨before, stem, rfl, ?_⟩
  rw [relative, hjoin _ (Path.isName_append hstem hslash hlong)]
  rfl

end UnitLoader
