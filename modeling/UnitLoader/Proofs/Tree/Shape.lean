import Mathlib.Data.List.Induction
import UnitLoader.Proofs.Resemblance
import UnitLoader.Proofs.Tree.Walk

/-!
# Trees of the same shape

Two trees have the same shape if their nodes can be put into correspondence so that only the
contents of files differ: the same names lead from directories to nodes that correspond, links have
the same targets, files are of the same size, and all times are the same. The numbers of nodes do
not matter. The same paths then lead to nodes that correspond, links and all, and the same is known
of them.

## Main definitions

* `UnitLoader.Tree.SameShape` — a correspondence of the nodes of two trees.
* `UnitLoader.Ambient.SameShape` — and of the working directories in them.

## Main results

* `UnitLoader.Tree.SameShape.walk` — the same segments lead to nodes that correspond.
* `UnitLoader.Tree.SameShape.of_ways` — trees have the same shape if the same ways lead down from
  their roots to nodes that look the same.
* `UnitLoader.Tree.SameShape.resemblance` — nodes that correspond cannot be told apart by handles.
* `UnitLoader.Ambient.SameShape.openRoot` — roots that are opened by the same path correspond.
-/

set_option relaxedAutoImplicit false
set_option autoImplicit false

namespace UnitLoader

variable {R : NodeId → NodeId → Prop} {t u : Tree} {i j : NodeId}

/-- Two nodes differ only in what is read of them: files of the same size, directories in which the
same names lead to nodes that correspond, or links with the same target. -/
inductive Node.SameShape (R : NodeId → NodeId → Prop) : Node → Node → Prop
  | file {c d : Content} (hsize : d.read.length = c.read.length) (mtime : Int) :
      SameShape R (.file c mtime) (.file d mtime)
  | directory {p q : NodeId} {es fs : Table NodeId} (hparent : R p q)
      (hentries : ∀ s, Option.Rel R (es.get? s) (fs.get? s)) (mtime : Int) :
      SameShape R (.directory p es mtime) (.directory q fs mtime)
  | link (target : String) : SameShape R (.link target) (.link target)

namespace Tree

/-- The nodes of two trees correspond to each other, the roots among them, and differ only in what
is read of them. -/
structure SameShape (t u : Tree) (R : NodeId → NodeId → Prop) : Prop where
  root : R root root
  node? {i j : NodeId} (h : R i j) : Option.Rel (Node.SameShape R) (t.node? i) (u.node? j)

namespace SameShape

variable (h : t.SameShape u R)

include h

/-- Nodes that correspond are both directories or neither is. -/
lemma isDirectory (hij : R i j) : u.isDirectory j = t.isDirectory i := by
  have hnode := h.node? hij
  rw [Tree.isDirectory, Tree.isDirectory]
  generalize t.node? i = x at hnode
  generalize u.node? j = y at hnode
  cases hnode with
  | none => rfl
  | some hnode => cases hnode <;> rfl

/-- The same is told of nodes that correspond. -/
lemma metadata (hij : R i j) : u.metadata j = t.metadata i := by
  have hnode := h.node? hij
  rw [Tree.metadata, Tree.metadata]
  generalize t.node? i = x at hnode
  generalize u.node? j = y at hnode
  cases hnode with
  | none => rfl
  | some hnode =>
    cases hnode with
    | file hsize mtime => dsimp only; rw [hsize]
    | directory _ _ mtime => rfl
    | link target => rfl

/-! ### Walks -/

/-- The same segment leads on to nodes that correspond. -/
lemma step (hij : R i j) (s : String) : Alike R (t.step i s) (u.step j s) := by
  have hnode := h.node? hij
  rw [Tree.step, Tree.step]
  generalize t.node? i = x at hnode
  generalize u.node? j = y at hnode
  cases hnode with
  | none => exact .error _
  | some hnode =>
    cases hnode with
    | file _ mtime => exact .error _
    | link target => exact .error _
    | directory hparent hentries mtime =>
      have hentry := hentries s
      dsimp only
      generalize Table.get? _ s = m at hentry
      generalize Table.get? _ s = n at hentry
      split_ifs
      · exact .ok hij
      · exact .ok hparent
      · exact .error _
      · cases hentry with
        | none => exact .error _
        | some hentry => exact .ok hentry

/-- A path begins to lead from nodes that correspond. -/
lemma start (hij : R i j) (path : String) : R (start i path) (start j path) := by
  rw [Tree.start, Tree.start]
  split
  · exact h.root
  · exact hij

/-- A walk is at the same point after the same segment. -/
lemma advance (hij : R i j) (links : Nat) (s : String) (rest : List String) :
    Alike (fun p q => q.links = p.links ∧ R p.here q.here ∧ q.way = p.way)
      (t.advance links i s rest) (u.advance links j s rest) := by
  have hstep := h.step hij s
  rw [Tree.advance, Tree.advance]
  generalize t.step i s = x at hstep
  generalize u.step j s = y at hstep
  cases hstep with
  | error e => exact .error e
  | @ok m n hmn =>
    have hnode := h.node? hmn
    dsimp only
    generalize t.node? m = x at hnode
    generalize u.node? n = y at hnode
    cases hnode with
    | none => exact .ok ⟨rfl, hmn, rfl⟩
    | some hnode =>
      cases hnode with
      | file _ mtime => exact .ok ⟨rfl, hmn, rfl⟩
      | directory _ _ mtime => exact .ok ⟨rfl, hmn, rfl⟩
      | link target =>
        cases links with
        | zero => exact .error _
        | succ links => exact .ok ⟨rfl, h.start hij target, rfl⟩

/-- The same segments lead to nodes that correspond. -/
lemma walk (links : Nat) (i : NodeId) (way : List String) :
    ∀ j, R i j → Alike R (t.walk links i way) (u.walk links j way) := by
  induction links, i, way using t.walk_induction with
  | nil links here =>
    intro j hij
    rw [walk_nil, walk_nil]
    exact .ok hij
  | cons links here s rest ih =>
    intro j hij
    -- Both walks go on from one position, but for the numbers of the nodes that they are at.
    have hadvance := h.advance hij links s rest
    rw [walk_cons, walk_cons]
    generalize hx : t.advance links here s rest = x at hadvance
    generalize u.advance links j s rest = y at hadvance
    cases hadvance with
    | error e => exact .error e
    | @ok p q hpq =>
      obtain ⟨hlinks, hhere, hway⟩ := hpq
      show Alike R (t.walk p.links p.here p.way) (u.walk q.links q.here q.way)
      rw [hlinks, hway]
      exact ih p hx q.here hhere

/-- The same paths lead to nodes that correspond. -/
lemma resolve (hij : R i j) (path : String) : Alike R (t.resolve i path) (u.resolve j path) := by
  rw [Tree.resolve, Tree.resolve]
  split_ifs
  · exact .error _
  · exact .error _
  · exact h.walk _ _ _ _ (h.start hij path)

/-- In trees of the same shape, nodes that correspond do so in all that is not read. -/
lemma resemblance : t.Resemblance u R :=
  ⟨h.isDirectory, h.metadata, fun hij _ => h.resolve hij _⟩

end SameShape

/-! ### How trees come to have the same shape -/

/-- Trees that differ only in what files of the same numbers and sizes hold have the same shape. -/
lemma SameShape.of_contents (h : ∀ id, u.node? id = t.node? id ∨ ∃ c d mtime,
      t.node? id = some (.file c mtime) ∧ u.node? id = some (.file d mtime) ∧
        d.read.length = c.read.length) :
    t.SameShape u Eq := by
  refine ⟨rfl, ?_⟩
  rintro i _ rfl
  rcases h i with hsame | ⟨c, d, mtime, ht, hu, hsize⟩
  · rw [hsame]
    cases t.node? i with
    | none => exact .none
    | some node =>
      have hentries (es : Table NodeId) (s : String) : Option.Rel Eq (es.get? s) (es.get? s) := by
        cases es.get? s <;> constructor
        rfl
      cases node with
      | file c mtime => exact .some (.file rfl mtime)
      | directory p es mtime => exact .some (.directory rfl (hentries es) mtime)
      | link target => exact .some (.link target)
  · rw [ht, hu]
    exact .some (.file hsize mtime)

/-- Every directory is the parent of the directories in it, and the root is its own. -/
structure IsParented (t : Tree) : Prop where
  root {p : NodeId} {es : Table NodeId} {mtime : Int}
    (h : t.node? Tree.root = some (.directory p es mtime)) : p = Tree.root
  entry {id p child q : NodeId} {es fs : Table NodeId} {mtime time : Int} {s : String}
    (h : t.node? id = some (.directory p es mtime)) (hs : es.get? s = some child)
    (hchild : t.node? child = some (.directory q fs time)) : q = id

/-- A way down ends with the entry that its last name leads to. -/
lemma down?_concat (t : Tree) (here : NodeId) (way : List String) (s : String) :
    t.down? here (way ++ [s]) = (t.down? here way).bind fun id => t.down? id [s] := by
  induction way generalizing here with
  | nil => rfl
  | cons name way ih =>
    rw [List.cons_append, down?, down?]
    cases t.node? here with
    | none => rfl
    | some node =>
      cases node with
      | directory p es mtime =>
        dsimp only
        cases es.get? name with
        | none => rfl
        | some id => exact ih id
      | _ => rfl

/-- A way down of one name leads to the entry of that name. -/
lemma down?_singleton {id p : NodeId} {es : Table NodeId} {mtime : Int}
    (h : t.node? id = some (.directory p es mtime)) (s : String) : t.down? id [s] = es.get? s := by
  rw [down?_cons h]
  cases es.get? s <;> rfl

/-- The parent of a directory at the end of a way down is at the end of the way to it. -/
lemma IsParented.parent_eq (ht : t.IsParented) {id p : NodeId} {es : Table NodeId} {mtime : Int}
    {way : List String} (hd : t.down? Tree.root way = some id)
    (h : t.node? id = some (.directory p es mtime)) :
    t.down? Tree.root way.dropLast = some p := by
  cases way using List.reverseRecOn with
  | nil =>
    obtain rfl := Option.some.inj hd
    rw [ht.root h]
    rfl
  | append_singleton before s =>
    rw [List.dropLast_concat]
    rw [down?_concat] at hd
    obtain ⟨k, hk, hs⟩ := Option.bind_eq_some_iff.1 hd
    cases hnode : t.node? k with
    | none => simp [down?, hnode] at hs
    | some node =>
      cases node with
      | directory q fs time =>
        rw [down?_singleton hnode] at hs
        rw [ht.entry hnode hs h, hk]
      | _ => simp [down?, hnode] at hs

/-- Trees have the same shape if the same ways lead down from their roots, to nodes that look the
same, and every directory is the parent of those in it. -/
theorem SameShape.of_ways (ht : t.IsParented) (hu : u.IsParented)
    (h : ∀ way, Option.Rel (fun i j => Option.Rel (Node.SameShape fun _ _ => True) (t.node? i)
      (u.node? j)) (t.down? Tree.root way) (u.down? Tree.root way)) :
    t.SameShape u fun i j =>
      ∃ way, t.down? Tree.root way = some i ∧ u.down? Tree.root way = some j := by
  refine ⟨⟨[], rfl, rfl⟩, ?_⟩
  rintro i j ⟨way, hi, hj⟩
  have hnode := h way
  rw [hi, hj] at hnode
  obtain ⟨hnode⟩ := hnode
  generalize hx : t.node? i = x at hnode
  generalize hy : u.node? j = y at hnode
  cases hnode with
  | none => exact .none
  | some hnode =>
    cases hnode with
    | file hsize mtime => exact .some (.file hsize mtime)
    | link target => exact .some (.link target)
    | @directory p q es fs _ hentries mtime =>
      -- The way to the parents is shorter by a name, and that to the entries is longer by one.
      refine .some (.directory ⟨way.dropLast, ht.parent_eq hi hx, hu.parent_eq hj hy⟩ (fun s => ?_)
        mtime)
      have hentry := hentries s
      generalize hm : es.get? s = m at hentry
      generalize hn : fs.get? s = n at hentry
      cases hentry with
      | none => exact .none
      | some _ =>
        refine .some ⟨way ++ [s], ?_, ?_⟩
        · rw [down?_concat, hi, Option.bind_some, down?_singleton hx, hm]
        · rw [down?_concat, hj, Option.bind_some, down?_singleton hy, hn]

end Tree

/-! ## Ambient access -/

/-- Trees of the same shape, with working directories that correspond and have the same path. -/
structure Ambient.SameShape (a b : Ambient) (R : NodeId → NodeId → Prop) : Prop where
  tree : a.tree.SameShape b.tree R
  working : R a.working b.working
  place : b.tree.placeOf? b.working = a.tree.placeOf? a.working

variable {a b : Ambient}

namespace Ambient.SameShape

variable (h : a.SameShape b R)

include h

/-- Paths are made absolute alike. -/
lemma absolute (path : String) : b.absolute path = a.absolute path := by
  rw [Ambient.absolute, Ambient.absolute, h.place]

/-- A path leads to nodes that correspond. -/
lemma resolve (path : String) : Alike R (a.resolve path) (b.resolve path) := by
  rw [Ambient.resolve, Ambient.resolve]
  split
  · exact .error _
  · exact (h.tree.resolve h.working path).mapError _

/-- The same paths are directories. -/
lemma isDirectory (path : String) : b.isDirectory path = a.isDirectory path := by
  have hresolve := h.resolve path
  rw [Ambient.isDirectory, Ambient.isDirectory]
  generalize a.resolve path = x at hresolve
  generalize b.resolve path = y at hresolve
  cases hresolve with
  | error e => rfl
  | ok hij => exact h.tree.isDirectory hij

/-- A path is opened as directories that correspond. -/
lemma openDirectory (path : String) : Alike R (a.openDirectory path) (b.openDirectory path) := by
  refine (h.resolve path).bind fun i j hij => ?_
  rw [h.tree.isDirectory hij]
  split
  · exact .ok hij
  · exact .error _

/-- Finders on roots that correspond serve the same paths. -/
lemma serves {f g : RootFinder} (hm : f.Resembles R g) (path : String) :
    (Finder.root g).serves b path = (Finder.root f).serves a path := by
  rw [Finder.serves, Finder.serves, Finder.sameDirectory, Finder.sameDirectory, h.absolute,
    hm.root.name]

/-- Handles on roots correspond if they are opened by the same path. -/
lemma openHandle (path : String) :
    Alike (Handle.Resembles R) (Handle.openRoot a path) (Handle.openRoot b path) := by
  rw [Handle.openRoot, Handle.openRoot, h.absolute]
  refine (Alike.refl _).bind fun name _ hname => ?_
  subst hname
  exact ((h.openDirectory path).mapError _).bind fun i j hij => .ok ⟨rfl, rfl, .some hij⟩

/-- Finders correspond if their roots are opened by the same path and limited in the same way. -/
lemma openRoot (path : String) (rules : SuffixRules) (limits : List Rights) :
    Alike (RootFinder.Resembles R) (RootFinder.openRoot a path rules limits)
      (RootFinder.openRoot b path rules limits) := by
  refine (h.openHandle path).bind fun k k' hk => ?_
  exact (hk.limits limits).bind fun root root' hroot => .ok ⟨rfl, hroot⟩

end Ambient.SameShape

end UnitLoader
