import UnitLoader.Proofs.Tree

/-!
# Walks step by step

A walk takes one segment after the other. Where a link is met, the segments of its target come
before those that are left, and one link less may be followed.

## Main definitions

* `UnitLoader.Tree.Position` — where a walk is.
* `UnitLoader.Tree.advance` — where it is after the next segment.

## Main results

* `UnitLoader.Tree.walk_cons` — a walk goes on from where its first segment leads.
* `UnitLoader.Tree.walk_induction` — what holds at the end of walks and is passed back by each step
  holds at their beginning.
* `UnitLoader.Tree.walk_of_le` — a walk that does not fail for its links does not depend on them.
-/

set_option relaxedAutoImplicit false
set_option autoImplicit false

namespace UnitLoader.Tree

variable {t : Tree} {links : Nat} {here id : NodeId} {s : String} {rest way before : List String}

/-- Where a walk is: how many links may still be followed, from where, and the segments that are
left. -/
structure Position where
  links : Nat
  here : NodeId
  way : List String

/-- The position after the next segment. -/
def advance (t : Tree) (links : Nat) (here : NodeId) (segment : String) (rest : List String) :
    Except Errno Position :=
  match t.step here segment with
  | .error e => .error e
  | .ok id =>
    match t.node? id, links with
    | some (.link _), 0 => .error .tooManyLinks
    | some (.link target), links + 1 =>
      .ok ⟨links, start here target, Path.segments target ++ rest⟩
    | _, links => .ok ⟨links, id, rest⟩

/-- A segment leads to no node, to a link, or to a node that is none. -/
lemma step_cases (t : Tree) (here : NodeId) (s : String) :
    (∃ e, t.step here s = .error e) ∨
    (∃ id target, t.step here s = .ok id ∧ t.node? id = some (.link target)) ∨
    ∃ id, t.step here s = .ok id ∧ ∀ target, t.node? id ≠ some (.link target) := by
  cases hstep : t.step here s with
  | error e => exact .inl ⟨e, rfl⟩
  | ok id =>
    by_cases hlink : ∃ target, t.node? id = some (.link target)
    · obtain ⟨target, hlink⟩ := hlink
      exact .inr (.inl ⟨id, target, rfl, hlink⟩)
    · exact .inr (.inr ⟨id, rfl, fun target hl => hlink ⟨target, hl⟩⟩)

/-- A walk ends where a segment leads nowhere. -/
lemma advance_of_error {e : Errno} (h : t.step here s = .error e) :
    t.advance links here s rest = .error e := by
  rw [advance, h]

/-- Behind a link a walk goes on with its target, and with one link less to spare. -/
lemma advance_of_link {target : String} (h : t.step here s = .ok id)
    (hlink : t.node? id = some (.link target)) :
    t.advance (links + 1) here s rest =
      .ok ⟨links, start here target, Path.segments target ++ rest⟩ := by
  rw [advance, h]
  dsimp only
  rw [hlink]

/-- With no link to spare a walk ends at a link. -/
lemma advance_zero_of_link {target : String} (h : t.step here s = .ok id)
    (hlink : t.node? id = some (.link target)) :
    t.advance 0 here s rest = .error .tooManyLinks := by
  rw [advance, h]
  dsimp only
  rw [hlink]

/-- A walk goes on from a node that is no link. -/
lemma advance_of_ne_link (h : t.step here s = .ok id)
    (hlink : ∀ target, t.node? id ≠ some (.link target)) :
    t.advance links here s rest = .ok ⟨links, id, rest⟩ := by
  rw [advance, h]
  dsimp only
  split
  · next hl => exact absurd hl (hlink _)
  · next hl => exact absurd hl (hlink _)
  · rfl

/-- No step adds to the links that may be followed. -/
lemma links_le_of_advance {p : Position} (h : t.advance links here s rest = .ok p) :
    p.links ≤ links := by
  rcases t.step_cases here s with ⟨e, hs⟩ | ⟨id, target, hs, hlink⟩ | ⟨id, hs, hlink⟩
  · rw [advance_of_error hs] at h
    cases h
  · cases links with
    | zero =>
      rw [advance_zero_of_link hs hlink] at h
      cases h
    | succ links =>
      rw [advance_of_link hs hlink] at h
      obtain rfl := Except.ok.inj h
      exact Nat.le_succ links
  · rw [advance_of_ne_link hs hlink] at h
    obtain rfl := Except.ok.inj h
    exact Nat.le_refl links

/-- The walk along no segments is at an end. -/
@[simp]
lemma walk_nil (t : Tree) (links : Nat) (here : NodeId) : t.walk links here [] = .ok here := by
  cases links <;> rfl

/-- A walk goes on from where its first segment leads. -/
theorem walk_cons (t : Tree) (links : Nat) (here : NodeId) (s : String) (rest : List String) :
    t.walk links here (s :: rest) =
      (t.advance links here s rest).bind fun p => t.walk p.links p.here p.way := by
  rcases t.step_cases here s with ⟨e, h⟩ | ⟨id, target, h, hlink⟩ | ⟨id, h, hlink⟩
  · rw [advance_of_error h]
    cases links <;> rw [walk, walkWith, h] <;> rfl
  · cases links with
    | zero => rw [advance_zero_of_link h hlink, walk, walkWith, h]; simp only [hlink]; rfl
    | succ links => rw [advance_of_link h hlink, walk, walkWith, h]; simp only [hlink]; rfl
  · rw [advance_of_ne_link h hlink]
    cases links <;>
    · rw [walk, walkWith, h]
      dsimp only
      split
      · next hl => exact absurd hl (hlink _)
      · rfl

/-- What holds of walks without segments, and of a walk if it holds where its first segment leads,
holds of all walks: each segment is the last one or that of a link, of which there are few. -/
theorem walk_induction (t : Tree) {P : Nat → NodeId → List String → Prop}
    (nil : ∀ links here, P links here [])
    (cons : ∀ links here s rest,
      (∀ p, t.advance links here s rest = .ok p → P p.links p.here p.way) → P links here (s :: rest))
    (links : Nat) (here : NodeId) (way : List String) : P links here way := by
  -- The links to spare decrease at a link, and the segments at everything else.
  induction links generalizing here way with
  | zero =>
    induction way generalizing here with
    | nil => exact nil 0 here
    | cons s rest ih =>
      refine cons 0 here s rest fun p hp => ?_
      rcases t.step_cases here s with ⟨e, h⟩ | ⟨id, target, h, hlink⟩ | ⟨id, h, hlink⟩
      · rw [advance_of_error h] at hp
        cases hp
      · rw [advance_zero_of_link h hlink] at hp
        cases hp
      · rw [advance_of_ne_link h hlink] at hp
        obtain rfl := Except.ok.inj hp
        exact ih id
  | succ links ihLinks =>
    induction way generalizing here with
    | nil => exact nil _ here
    | cons s rest ih =>
      refine cons _ here s rest fun p hp => ?_
      rcases t.step_cases here s with ⟨e, h⟩ | ⟨id, target, h, hlink⟩ | ⟨id, h, hlink⟩
      · rw [advance_of_error h] at hp
        cases hp
      · rw [advance_of_link h hlink] at hp
        obtain rfl := Except.ok.inj hp
        exact ihLinks _ _
      · rw [advance_of_ne_link h hlink] at hp
        obtain rfl := Except.ok.inj hp
        exact ih id

/-! ## More segments and more links -/

/-- More segments are left where a step leads if there are more before it. -/
lemma advance_append (t : Tree) (links : Nat) (here : NodeId) (s : String)
    (rest more : List String) :
    t.advance links here s (rest ++ more) =
      (t.advance links here s rest).map fun p => { p with way := p.way ++ more } := by
  rcases t.step_cases here s with ⟨e, h⟩ | ⟨id, target, h, hlink⟩ | ⟨id, h, hlink⟩
  · rw [advance_of_error h, advance_of_error h]
    rfl
  · cases links with
    | zero => rw [advance_zero_of_link h hlink, advance_zero_of_link h hlink]; rfl
    | succ links =>
      rw [advance_of_link h hlink, advance_of_link h hlink, ← List.append_assoc]
      rfl
  · rw [advance_of_ne_link h hlink, advance_of_ne_link h hlink]
    rfl

/-- A walk that does not fail for its links goes on alike with one more to spare. -/
lemma advance_succ (t : Tree) (links : Nat) (here : NodeId) (s : String) (rest : List String) :
    t.advance links here s rest = .error .tooManyLinks ∨
      t.advance (links + 1) here s rest =
        (t.advance links here s rest).map fun p => { p with links := p.links + 1 } := by
  rcases t.step_cases here s with ⟨e, h⟩ | ⟨id, target, h, hlink⟩ | ⟨id, h, hlink⟩
  · rw [advance_of_error h, advance_of_error h]
    exact .inr rfl
  · cases links with
    | zero => exact .inl (advance_zero_of_link h hlink)
    | succ links =>
      rw [advance_of_link h hlink, advance_of_link h hlink]
      exact .inr rfl
  · rw [advance_of_ne_link h hlink, advance_of_ne_link h hlink]
    exact .inr rfl

/-- A walk that does not fail for its links leads to the same with one more to spare. -/
lemma walk_succ (t : Tree) (links : Nat) (here : NodeId) (way : List String) :
    t.walk links here way = .error .tooManyLinks ∨
      t.walk (links + 1) here way = t.walk links here way := by
  induction links, here, way using t.walk_induction with
  | nil links here => simp
  | cons links here s rest ih =>
    rw [walk_cons, walk_cons]
    rcases t.advance_succ links here s rest with h | h
    · rw [h]
      exact .inl rfl
    · rw [h]
      cases hp : t.advance links here s rest with
      | error e => exact .inr rfl
      | ok p => exact ih p hp

/-- A walk that does not fail for its links does not depend on how many there may be. -/
theorem walk_of_le {more : Nat} (hle : links ≤ more)
    (h : t.walk links here way ≠ .error .tooManyLinks) :
    t.walk more here way = t.walk links here way := by
  induction hle with
  | refl => rfl
  | step _ ih =>
    rw [← ih] at h
    exact ((t.walk_succ _ here way).resolve_left h).trans ih

/-- A walk fails before its way is at an end, or goes on from the node that it has come to. -/
theorem walk_append_cases (t : Tree) (links : Nat) (here : NodeId) (before : List String) :
    (∃ e, ∀ rest, t.walk links here (before ++ rest) = .error e) ∨
    ∃ mid left, left ≤ links ∧
      ∀ rest, t.walk links here (before ++ rest) = t.walk left mid rest := by
  induction links, here, before using t.walk_induction with
  | nil links here => exact .inr ⟨here, links, Nat.le_refl _, fun rest => rfl⟩
  | cons links here s before ih =>
    simp only [List.cons_append, walk_cons, advance_append]
    cases hp : t.advance links here s before with
    | error e => exact .inl ⟨e, fun rest => rfl⟩
    | ok p =>
      rcases ih p hp with ⟨e, he⟩ | ⟨mid, left, hleft, hrest⟩
      · exact .inl ⟨e, he⟩
      · exact .inr ⟨mid, left, Nat.le_trans hleft (links_le_of_advance hp), hrest⟩

/-- The last segment of a way that led anywhere leads there by itself. -/
lemma exists_walk_singleton (hle : links ≤ maxLinks)
    (hw : t.walk links here (before ++ [s]) = .ok id) : ∃ mid, t.walk maxLinks mid [s] = .ok id := by
  rcases t.walk_append_cases links here before with ⟨e, he⟩ | ⟨mid, left, hleft, hrest⟩
  · rw [he] at hw
    cases hw
  · rw [hrest] at hw
    exact ⟨mid, (walk_of_le (Nat.le_trans hleft hle) (by rw [hw]; simp)).trans hw⟩

/-- A walk goes on from where the first part of its way leads, with as many links as are left. -/
lemma walk_append_of_walk {mid : NodeId} (h : t.walk links here before = .ok mid) :
    ∃ left, left ≤ links ∧ ∀ rest, t.walk links here (before ++ rest) = t.walk left mid rest := by
  rcases t.walk_append_cases links here before with ⟨e, he⟩ | ⟨mid', left, hle, hrest⟩
  · have hnil := he []
    rw [List.append_nil, h] at hnil
    cases hnil
  · have hnil := hrest []
    rw [List.append_nil, h, walk_nil] at hnil
    obtain rfl := Except.ok.inj hnil
    exact ⟨left, hle, hrest⟩

/-- A way is at an end where its last segment leads from the directory before it. -/
lemma walk_concat_of_step {dir : NodeId} (hw : t.walk links here before = .ok dir)
    (hs : t.step dir s = .ok id) (hlink : ∀ target, t.node? id ≠ some (.link target)) :
    t.walk links here (before ++ [s]) = .ok id := by
  obtain ⟨left, -, hrest⟩ := walk_append_of_walk hw
  rw [hrest, walk_cons, advance_of_ne_link hs hlink]
  exact walk_nil ..

/-- What the path of a way down leads to is at the end of that way. -/
lemma walk_of_resolve (hway : ∀ s ∈ way, Path.IsName s)
    (h : t.resolve here (Path.relativeText way) = .ok id) : t.walk maxLinks here way = .ok id := by
  rw [resolve_relativeText hway] at h
  split_ifs at h with hlong hnil hdir
  · rw [hnil, walk_nil]
    exact h
  · exact h

end UnitLoader.Tree
