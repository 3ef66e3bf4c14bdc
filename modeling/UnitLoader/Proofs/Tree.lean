import UnitLoader.Proofs.Path
import UnitLoader.Tree.Ambient

/-!
# Ways down a tree

A way down goes from a directory through the names of its entries, and never up. The path of such a
way leads to its end, as long as no link is met; what comes after a link is anywhere in the tree.

## Main definitions

* `UnitLoader.Tree.down?` — the node at the end of a way down.
* `UnitLoader.Tree.MeetsLink` — a link is met on a way down.

## Main results

* `UnitLoader.Tree.resolve_relativeText` — the path of a way down is walked name by name.
* `UnitLoader.Tree.down?_or_meetsLink` — such a path leads to the end of the way or meets a link.
-/

set_option relaxedAutoImplicit false
set_option autoImplicit false

namespace UnitLoader.Tree

open UnitLoader.Path (IsName relativeText)

variable {t : Tree} {here id : NodeId} {s : String} {way : List String}

/-- The node at the end of a way down from another. No link is followed. -/
def down? (t : Tree) : NodeId → List String → Option NodeId
  | here, [] => some here
  | here, name :: way =>
    match t.node? here with
    | some (.directory _ entries _) => (entries.get? name).bind (t.down? · way)
    | _ => none

/-- A link is met on a way down. -/
def MeetsLink (t : Tree) (here : NodeId) (way : List String) : Prop :=
  ∃ before id target, before <+: way ∧ t.down? here before = some id ∧
    t.node? id = some (.link target)

/-! ## Paths of ways down -/

/-- A name leads to the entry of a directory. -/
lemma step_of_isName (hs : IsName s) :
    t.step here s = match t.node? here with
      | some (.directory _ entries _) =>
        if maxName < s.utf8ByteSize then .error .nameTooLong
        else match entries.get? s with
          | some id => .ok id
          | none => .error .noEntry
      | _ => .error .notDirectory := by
  rw [step]
  rw [hs.isFiller_eq]
  cases t.node? here with
  | none => rfl
  | some node =>
    cases node with
    | directory parent entries mtime =>
      exact (if_neg Bool.false_ne_true).trans (if_neg hs.ne_dots)
    | _ => rfl

/-- A dot leads from a directory to itself. -/
lemma walk_dot (links : Nat) :
    t.walk links here ["."] = if t.isDirectory here then .ok here else .error .notDirectory := by
  have hwith : ∀ follow, t.walkWith follow here ["."] =
      if t.isDirectory here then .ok here else .error .notDirectory := by
    intro follow
    have hdot : Path.isFiller "." = true := by decide
    rw [walkWith, step, isDirectory]
    cases hnode : t.node? here with
    | none => rfl
    | some node =>
      cases node with
      | directory parent entries mtime => simp [hdot, hnode, walkWith]
      | _ => rfl
  cases links with
  | zero => exact hwith _
  | succ links => exact hwith _

/-- The path of a way down is walked name by name. That of no way leads to a directory itself. -/
lemma resolve_relativeText (hway : ∀ s ∈ way, IsName s) :
    t.resolve here (relativeText way) =
      if maxPath ≤ (relativeText way).utf8ByteSize then .error .nameTooLong
      else if way = [] then (if t.isDirectory here then .ok here else .error .notDirectory)
      else t.walk maxLinks here way := by
  rw [resolve, if_neg (Path.relativeText_ne_empty hway), start,
    Path.isAbsolute_relativeText hway, Path.segments_relativeText hway, if_neg Bool.false_ne_true]
  by_cases hnil : way = []
  · subst hnil
    simp only [if_true, walk_dot]
  · rw [if_neg hnil, if_neg hnil]

/-- A way down from a directory goes on from the entry that its first name leads to. -/
lemma down?_cons {parent : NodeId} {entries : Table NodeId} {mtime : Int}
    (h : t.node? here = some (.directory parent entries mtime)) :
    t.down? here (s :: way) = (entries.get? s).bind (t.down? · way) := by
  rw [down?, h]

/-- A way down begins with the entry that its first name leads to. -/
lemma down?_cons_of_step {next : NodeId} (hs : IsName s) (h : t.step here s = .ok next) :
    t.down? here (s :: way) = t.down? next way := by
  rw [step_of_isName hs] at h
  split at h
  · next parent entries mtime hnode =>
    rw [down?_cons hnode]
    split at h
    · cases h
    · split at h
      · next id hentry =>
        obtain rfl := Except.ok.inj h
        simp [hentry]
      · cases h
  · cases h

/-- A link that is met further down is met on the whole way. -/
lemma MeetsLink.cons {next : NodeId} (h : ∀ way, t.down? here (s :: way) = t.down? next way)
    (hm : t.MeetsLink next way) : t.MeetsLink here (s :: way) := by
  obtain ⟨before, id, target, hbefore, hdown, hlink⟩ := hm
  refine ⟨s :: before, id, target, List.cons_prefix_cons.2 ⟨rfl, hbefore⟩, ?_, hlink⟩
  rw [h, hdown]

/-- A walk through names leads to the end of a way down, or it meets a link. -/
lemma down?_of_walkWith {follow : NodeId → List String → Except Errno NodeId}
    (hway : ∀ s ∈ way, IsName s) (h : t.walkWith follow here way = .ok id) :
    t.down? here way = some id ∨ t.MeetsLink here way := by
  induction way generalizing here with
  | nil =>
    obtain rfl := Except.ok.inj h
    exact .inl rfl
  | cons s way ih =>
    obtain ⟨hs, hway⟩ := List.forall_mem_cons.1 hway
    rw [walkWith] at h
    split at h
    · cases h
    · next next hstep =>
      split at h
      · next target hlink =>
        have hfirst : t.down? here [s] = some next := down?_cons_of_step hs hstep
        exact .inr ⟨[s], next, target, ⟨way, rfl⟩, hfirst, hlink⟩
      · rw [down?_cons_of_step hs hstep]
        exact (ih hway h).imp_right (.cons fun _ => down?_cons_of_step hs hstep)

/-- The path of a way down leads to its end, or it meets a link. -/
theorem down?_or_meetsLink (hway : ∀ s ∈ way, IsName s)
    (h : t.resolve here (relativeText way) = .ok id) :
    t.down? here way = some id ∨ t.MeetsLink here way := by
  rw [resolve_relativeText hway] at h
  split at h
  · cases h
  · split at h
    · next hnil =>
      subst hnil
      split at h
      · exact .inl (congrArg some (Except.ok.inj h))
      · cases h
    · exact down?_of_walkWith hway h

end UnitLoader.Tree
