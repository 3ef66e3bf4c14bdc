import UnitLoader.Proofs.Path.NormalForm
import UnitLoader.Proofs.Way

/-!
# What paths name beneath a handle

A handle takes a path if the segments stay beneath where they begin and, where the path is absolute,
come to names that begin with those of the handle. What the path names is told by the names that are
left, which make up a path that names the same.

## Main results

* `UnitLoader.Path.relativeTo?_eq_ok_iff` — the way from a directory to what a path names.
* `UnitLoader.Handle.relative_join` — a path beneath what another names.
* `UnitLoader.Handle.Opened.relative_iff_comeTo` — which paths an opened handle takes, and what it
  makes of them.
-/

set_option relaxedAutoImplicit false
set_option autoImplicit false

namespace UnitLoader

open UnitLoader.Path (IsName ComeTo StaysBeneath relativeText)

namespace Path

variable {directory way : List String} {path : String}

/-- The way from a directory to what a path names: the names that its segments come to, less those
of the directory if the path is absolute. -/
theorem relativeTo?_eq_ok_iff :
    relativeTo? directory path = .ok way ↔
      path ≠ "" ∧ normal? path =
        .ok ⟨isAbsolute path, if isAbsolute path then directory ++ way else way⟩ := by
  rw [relativeTo?_eq]
  by_cases hempty : path = ""
  · simp [hempty]
  rw [if_neg hempty, and_iff_right hempty]
  cases hn : normal? path with
  | error e => simp
  | ok n =>
    obtain ⟨-, habsolute⟩ := normal?_eq_ok_iff.1 hn
    obtain ⟨absolute, parts⟩ := n
    obtain rfl : isAbsolute path = absolute := habsolute
    cases isAbsolute path with
    | false => simp
    | true =>
      have hprefix : directory.isPrefixOf? parts = some way ↔ directory ++ way = parts :=
        List.isPrefixOf?_eq_some_iff_append_eq
      dsimp only
      rw [if_pos rfl, if_pos rfl]
      split
      · next rest hrest =>
        rw [hrest] at hprefix
        simpa [eq_comm] using hprefix
      · next hnone =>
        rw [hnone] at hprefix
        simpa [eq_comm] using hprefix

end Path

namespace Handle

variable {h : Handle} {path path' : String} {way way' : List String}

/-- A path names a way from a handle if its normal form is that way, behind the name of the handle
if the path is absolute. -/
lemma relative_eq_ok_iff :
    h.relative path = .ok way ↔
      path ≠ "" ∧ Path.normal? path =
        .ok ⟨Path.isAbsolute path, if Path.isAbsolute path then h.name ++ way else way⟩ := by
  rw [relative, Outcome.mapError_eq_ok, Path.relativeTo?_eq_ok_iff]

/-- What is named from where a relative path leads is named beneath it. -/
theorem relative_join (hp : Path.isAbsolute path = false) (hp' : Path.isAbsolute path' = false)
    (hr : h.relative path = .ok way) (hr' : h.relative path' = .ok way') :
    h.relative (Path.join path path') = .ok (way ++ way') := by
  rw [relative_eq_ok_iff] at hr hr' ⊢
  rw [hp] at hr
  rw [hp'] at hr'
  rw [Path.isAbsolute_join hr.1 hp', hp]
  exact ⟨Path.join_ne_empty hr.1, Path.normal?_join hr.1 hr.2 hr'.2⟩

/-- What is named from where the name of a handle leads is named beneath the handle. -/
lemma relative_join_nameText (hn : ∀ s ∈ h.name, IsName s) (hp : Path.isAbsolute path = false)
    (hr : h.relative path = .ok way) : h.relative (Path.join h.nameText path) = .ok way := by
  rw [relative_eq_ok_iff] at hr ⊢
  rw [hp] at hr
  have hne := Path.absoluteText_ne_empty h.name
  rw [nameText, Path.isAbsolute_join hne hp, Path.isAbsolute_absoluteText]
  exact ⟨Path.join_ne_empty hne, Path.normal?_join hne (Path.normal?_absoluteText hn) hr.2⟩

/-- The segments of a path that a handle takes come to the way, after the names of the handle if the
path is absolute. -/
lemma relative_eq_ok_iff_comeTo :
    h.relative path = .ok way ↔
      path ≠ "" ∧
        ComeTo (Path.segments path) (if Path.isAbsolute path then h.name ++ way else way) := by
  rw [relative_eq_ok_iff, Path.normal?_eq_ok_iff, Path.resolve?_eq_some_iff]
  simp

/-- An opened handle has an absolute name in normal form. It takes a path if the path is not empty,
its segments stay beneath where they begin, and the names that they come to begin with those of the
handle if the path is absolute. What is left of these names are ordinary names that make up a
relative path, or none, for which a dot stands; that path is taken as it is, and the path is taken
in the same way from the name of the handle.

**Proof sketch.** Both halves come from the normal form: names are left of segments if no two dots
lack a name before them, and they are what the segments come to in any order. -/
theorem Opened.relative_iff_comeTo (ho : h.Opened) :
    Path.normal? h.nameText = .ok ⟨true, h.name⟩ ∧
    ∀ path,
      ((∃ way, h.relative path = .ok way) ↔
        path ≠ "" ∧ StaysBeneath (Path.segments path) ∧
          (Path.isAbsolute path → ∃ way, ComeTo (Path.segments path) (h.name ++ way))) ∧
      ∀ way, h.relative path = .ok way →
        ComeTo (Path.segments path) (if Path.isAbsolute path then h.name ++ way else way) ∧
        (∀ s ∈ way, Path.isOrdinary s) ∧
        Path.segments (relativeText way) = (if way = [] then ["."] else way) ∧
        Path.isAbsolute (relativeText way) = false ∧
        h.relative (relativeText way) = .ok way ∧
        (Path.isAbsolute path = false → h.relative (Path.join h.nameText path) = .ok way) := by
  refine ⟨Path.normal?_absoluteText ho.isName, fun path => ⟨?_, fun way hr => ?_⟩⟩
  · simp only [relative_eq_ok_iff_comeTo, exists_and_left]
    refine and_congr_right' ?_
    rw [← Path.exists_resolve?_iff]
    simp only [Path.resolve?_eq_some_iff]
    cases Path.isAbsolute path with
    | false => simp
    | true =>
      simp only [if_true, forall_const]
      exact ⟨fun ⟨way, hway⟩ => ⟨⟨_, hway⟩, way, hway⟩, And.right⟩
  · have hnames := isName_of_relative hr
    exact ⟨(relative_eq_ok_iff_comeTo.1 hr).2, fun s hs => (hnames s hs).1,
      Path.segments_relativeText hnames, Path.isAbsolute_relativeText hnames,
      relative_relativeText hnames, fun hp => relative_join_nameText ho.isName hp hr⟩

/-- A path that leads out of a directory and back into it is taken, and so is its normal form. -/
theorem relative_iff_comeTo_linked :
    let h : Handle := ⟨["out"], some 3, none⟩
    h.Opened ∧ ∃ way, h.relative "/box/..//out/./secret.txt" = .ok way ∧
      ComeTo ["", "box", "..", "", "out", ".", "secret.txt"] (["out"] ++ way) ∧
      h.relative (relativeText way) = .ok way := by
  intro h
  have hroot : openRoot ⟨.linked, Tree.root⟩ "/box/../out" = .ok h := rfl
  have ho : h.Opened := .root hroot
  obtain ⟨way, hway⟩ : ∃ way, h.relative "/box/..//out/./secret.txt" = .ok way :=
    ⟨["secret.txt"], rfl⟩
  obtain ⟨hcome, -, -, -, hagain, -⟩ := (ho.relative_iff_comeTo.2 _).2 way hway
  exact ⟨ho, way, hway, hcome, hagain⟩

end Handle

end UnitLoader
