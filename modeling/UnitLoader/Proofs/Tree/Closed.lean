import UnitLoader.Proofs.Tree.Walk
import UnitLoader.Tree.Edit

/-!
# Closed trees

The nodes of a tree refer to each other by number. In a closed tree these are numbers of its nodes,
so that whatever leads anywhere leads to a node. The tree of an empty root is closed, and every
change of a closed tree leaves it closed.

## Main definitions

* `UnitLoader.Tree.IsClosed` — the nodes of a tree refer to nodes of it.

## Main results

* `UnitLoader.Tree.IsClosed.lt_of_walk` — in a closed tree a way leads to a node.
* `UnitLoader.Tree.IsClosed.put`, `UnitLoader.Tree.IsClosed.remove`,
  `UnitLoader.Tree.IsClosed.rename`, `UnitLoader.Tree.IsClosed.writeFile` — changes leave a tree
  closed.
-/

set_option relaxedAutoImplicit false
set_option autoImplicit false

namespace UnitLoader

/-- The entries after a name is set are old ones and the new one. -/
lemma Table.mem_entries_insert {α : Type} {t : Table α} {name : String} {value : α}
    {e : String × α} (h : e ∈ (t.insert name value).entries) :
    e ∈ t.entries ∨ e = (name, value) := by
  obtain ⟨es⟩ := t
  simp only [insert] at h ⊢
  induction es with
  | nil => simpa [store] using h
  | cons e' es ih =>
    rw [store] at h
    split at h
    · next hname =>
      rcases List.mem_cons.1 h with rfl | h
      · exact .inr (by rw [hname])
      · exact .inl (List.mem_cons_of_mem _ h)
    · rcases List.mem_cons.1 h with rfl | h
      · exact .inl (List.mem_cons_self ..)
      · exact (ih h).imp_left (List.mem_cons_of_mem _)

/-- The nodes that the entries of a node lead to. -/
def Node.children : Node → List NodeId
  | .directory _ entries _ => entries.entries.map (·.2)
  | _ => []

/-- The nodes that a node refers to: a directory to the one around it and to its entries. -/
def Node.references (node : Node) : List NodeId :=
  match node with
  | .directory parent .. => parent :: node.children
  | _ => []

namespace Tree

open UnitLoader.Path (IsName relativeText)

variable {t u : Tree} {here id parent : NodeId} {s name : String} {links : Nat} {node : Node}
  {way rest segs : List String} {path : String} {f : Table NodeId → Table NodeId}

/-- The nodes of a tree refer to nodes of the tree. -/
def IsClosed (t : Tree) : Prop :=
  ∀ node ∈ t.nodes, ∀ id ∈ node.references, id < t.nextId

/-- Whether a tree is closed is decided node by node. -/
instance (t : Tree) : Decidable t.IsClosed :=
  inferInstanceAs (Decidable (∀ node ∈ t.nodes, ∀ id ∈ node.references, _))

/-- A node that is there is a node of the tree. -/
lemma lt_of_node? (h : t.node? id = some node) : id < t.nextId :=
  (List.getElem?_eq_some_iff.1 h).1

/-- A directory is a node of the tree. -/
lemma lt_of_isDirectory (h : t.isDirectory id) : id < t.nextId := by
  rw [isDirectory] at h
  split at h
  · next hnode => exact lt_of_node? hnode
  · cases h

/-- Paths begin to lead from a node of the tree. -/
lemma lt_start (hhere : here < t.nextId) (path : String) : start here path < t.nextId := by
  rw [start]
  split
  · exact Nat.lt_of_le_of_lt (Nat.zero_le _) hhere
  · exact hhere

/-- Another node in the place of one is no new node. -/
@[simp]
lemma nextId_setNode (t : Tree) (id : NodeId) (node : Node) :
    (t.setNode id node).nextId = t.nextId :=
  List.length_set ..

/-- Changed entries are no new nodes. -/
@[simp]
lemma nextId_mapEntries (t : Tree) (id : NodeId) (f : Table NodeId → Table NodeId) :
    (t.mapEntries id f).nextId = t.nextId := by
  rw [mapEntries]
  split
  · exact nextId_setNode ..
  · rfl

/-- A node that is added is one more. -/
lemma nextId_add (t : Tree) (parent : NodeId) (name : String) (node : Node) :
    (t.add parent name node).nextId = t.nextId + 1 := by
  rw [add, nextId_mapEntries, nextId, List.length_append, List.length_singleton, nextId]

/-- Emptied files are no new nodes. -/
lemma nextId_emptied (t : Tree) (id : NodeId) : (t.emptied id).nextId = t.nextId :=
  List.length_mapIdx ..

/-- A fresh tree is closed. -/
lemma isClosed_fresh : fresh.IsClosed := by decide

/-- A name leads to an entry. -/
lemma exists_mem_children_of_step (hs : IsName s) (h : t.step here s = .ok id) :
    ∃ node ∈ t.nodes, id ∈ node.children := by
  rw [step_of_isName hs] at h
  split at h
  · next hnode =>
    split_ifs at h
    split at h
    · next hget =>
      obtain rfl := Except.ok.inj h
      exact ⟨_, List.mem_of_getElem? hnode,
        List.mem_map_of_mem (Table.mem_entries_of_get? hget)⟩
    · cases h
  · cases h

namespace IsClosed

section

variable (hc : t.IsClosed)

include hc

/-- A directory in a closed tree refers to nodes of the tree. -/
lemma of_node? {parent : NodeId} {entries : Table NodeId} {time : Int}
    (h : t.node? id = some (.directory parent entries time)) :
    parent < t.nextId ∧ ∀ e ∈ entries.entries, e.2 < t.nextId := by
  have hrefs := hc _ (List.mem_of_getElem? h)
  exact ⟨hrefs parent (by simp [Node.references]),
    fun e he => hrefs e.2 (List.mem_cons_of_mem _ (List.mem_map_of_mem he))⟩

/-! ## Walks -/

/-- A segment leads to a node of the tree. -/
lemma lt_of_step (h : t.step here s = .ok id) : id < t.nextId := by
  rw [step] at h
  split at h
  · next parent entries time hnode =>
    obtain ⟨hparent, hentries⟩ := hc.of_node? hnode
    split_ifs at h
    · obtain rfl := Except.ok.inj h
      exact lt_of_node? hnode
    · obtain rfl := Except.ok.inj h
      exact hparent
    · split at h
      · next hget =>
        obtain rfl := Except.ok.inj h
        exact hentries _ (Table.mem_entries_of_get? hget)
      · cases h
  · cases h

/-- A walk goes on from a node of the tree. -/
lemma lt_of_advance {p : Position} (h : t.advance links here s rest = .ok p) :
    p.here < t.nextId := by
  rcases t.step_cases here s with ⟨e, hs⟩ | ⟨id, target, hs, hlink⟩ | ⟨id, hs, hlink⟩
  · rw [advance_of_error hs] at h
    cases h
  · cases links with
    | zero =>
      rw [advance_zero_of_link hs hlink] at h
      cases h
    | succ links =>
      rw [advance_of_link hs hlink] at h
      obtain rfl := Except.ok.inj h
      dsimp only [start]
      split
      · -- There is a root if there is any node.
        exact Nat.lt_of_le_of_lt (Nat.zero_le _) (lt_of_node? hlink)
      · rw [step] at hs
        split at hs
        · next hnode => exact lt_of_node? hnode
        · cases hs
  · rw [advance_of_ne_link hs hlink] at h
    obtain rfl := Except.ok.inj h
    exact hc.lt_of_step hs

/-- A way leads to a node, or it is at its end where it begins. -/
theorem lt_of_walk (h : t.walk links here way = .ok id) : id < t.nextId ∨ way = [] ∧ id = here := by
  induction links, here, way using t.walk_induction with
  | nil links here =>
    rw [walk_nil] at h
    exact .inr ⟨rfl, (Except.ok.inj h).symm⟩
  | cons links here s rest ih =>
    rw [walk_cons] at h
    cases hp : t.advance links here s rest with
    | error e =>
      rw [hp] at h
      cases h
    | ok p =>
      rw [hp] at h
      rcases ih p hp h with hlt | ⟨-, rfl⟩
      · exact .inl hlt
      · exact .inl (hc.lt_of_advance hp)

/-- A walk from a node of the tree leads to one. -/
lemma lt_of_walk_of_lt (hhere : here < t.nextId) (h : t.walk links here way = .ok id) :
    id < t.nextId := by
  rcases hc.lt_of_walk h with hlt | ⟨-, rfl⟩
  · exact hlt
  · exact hhere

/-- The path of a way down leads to a node. -/
lemma lt_of_resolve (hway : ∀ s ∈ way, IsName s)
    (h : t.resolve here (relativeText way) = .ok id) : id < t.nextId := by
  rw [resolve_relativeText hway] at h
  split_ifs at h with hlong hnil hdir
  · obtain rfl := Except.ok.inj h
    exact lt_of_isDirectory hdir
  · exact (hc.lt_of_walk h).resolve_right fun hw => hnil hw.1

/-! ## Single changes -/

/-- A tree stays closed with another node in the place of one, if that refers to nodes of the
tree. -/
lemma setNode (hnode : ∀ id ∈ node.references, id < t.nextId) : (t.setNode id node).IsClosed := by
  intro n hn i hi
  rw [nextId_setNode]
  rcases List.mem_or_eq_of_mem_set hn with hn | rfl
  · exact hc n hn i hi
  · exact hnode i hi

/-- A tree stays closed with changed entries, if the new ones lead to nodes of the tree. -/
lemma mapEntries (hf : ∀ entries : Table NodeId, ∀ e ∈ (f entries).entries,
    e ∈ entries.entries ∨ e.2 < t.nextId) : (t.mapEntries id f).IsClosed := by
  rw [Tree.mapEntries]
  split
  · next parent entries time hnode =>
    obtain ⟨hparent, hentries⟩ := hc.of_node? hnode
    refine hc.setNode fun i hi => ?_
    rcases List.mem_cons.1 hi with rfl | hi
    · exact hparent
    · obtain ⟨e, he, rfl⟩ := List.mem_map.1 hi
      rcases hf entries e he with he | hlt
      · exact hentries e he
      · exact hlt
  · exact hc

/-- A tree stays closed without an entry. -/
lemma erase (id : NodeId) (name : String) : (t.mapEntries id (·.erase name)).IsClosed :=
  hc.mapEntries fun _ _ he => .inl (List.mem_of_mem_filter he)

/-- A tree stays closed with one more entry that leads to a node of the tree. -/
lemma insert (id : NodeId) (name : String) {new : NodeId} (hnew : new < t.nextId) :
    (t.mapEntries id (·.insert name new)).IsClosed :=
  hc.mapEntries fun _ _ he => (Table.mem_entries_insert he).imp_right fun h => by rwa [h]

/-- A tree stays closed with one more node, which may refer to itself. -/
lemma add (parent : NodeId) (name : String) (hnode : ∀ id ∈ node.references, id ≤ t.nextId) :
    (t.add parent name node).IsClosed := by
  have happended : (Tree.mk (t.nodes ++ [node])).IsClosed := fun n hn i hi => by
    rw [nextId, List.length_append, List.length_singleton]
    rcases List.mem_append.1 hn with hn | hn
    · exact Nat.lt_succ_of_lt (hc n hn i hi)
    · obtain rfl := List.mem_singleton.1 hn
      exact Nat.lt_succ_of_le (hnode i hi)
  refine happended.insert parent name ?_
  rw [nextId, nextId, List.length_append, List.length_singleton]
  exact Nat.lt_succ_self _

/-- A tree stays closed when files are emptied. -/
lemma emptied (id : NodeId) : (t.emptied id).IsClosed := by
  intro n hn i hi
  rw [nextId_emptied]
  obtain ⟨k, hk, rfl⟩ := List.mem_mapIdx.1 hn
  have hrefs := hc t.nodes[k] (List.getElem_mem hk)
  split at hi
  · next hnode =>
    split at hi
    · rw [hnode] at hrefs
      obtain rfl : i = _ := by simpa [Node.references, Node.children, Table.empty] using hi
      exact hrefs _ (List.mem_cons_self ..)
    · exact hrefs i hi
  · exact hrefs i hi

/-! ## Changes by paths -/

/-- Making directories leaves a closed tree, with no fewer nodes, among which the last one is. -/
theorem makeDirectories (hhere : here < t.nextId) (segs : List String) :
    (t.makeDirectories here segs).1.IsClosed ∧ t.nextId ≤ (t.makeDirectories here segs).1.nextId ∧
      ∀ id, (t.makeDirectories here segs).2 = .ok id →
        id < (t.makeDirectories here segs).1.nextId := by
  induction segs generalizing t here with
  | nil =>
    refine ⟨hc, Nat.le_refl _, fun id hid => ?_⟩
    rw [Tree.makeDirectories] at hid
    dsimp only at hid
    split at hid
    · obtain rfl := Except.ok.inj hid
      exact hhere
    · cases hid
  | cons s segs ih =>
    rw [Tree.makeDirectories]
    split
    · next id _ hw => exact ih hc (hc.lt_of_walk_of_lt hhere hw)
    · have hadded : (t.add here s (.directory here .empty presentTime)).IsClosed :=
        hc.add here s (by simpa [Node.references, Node.children, Table.empty] using Nat.le_of_lt hhere)
      have hnext := t.nextId_add here s (.directory here .empty presentTime)
      obtain ⟨hclosed, hle, hmade⟩ := ih hadded (by rw [hnext]; exact Nat.lt_succ_self _)
      exact ⟨hclosed, Nat.le_trans (by rw [hnext]; exact Nat.le_succ _) hle, hmade⟩
    · exact ⟨hc, Nat.le_refl _, fun id hid => by cases hid⟩

/-- A tree stays closed when the directories of a path are made. -/
lemma makePath (hhere : here < t.nextId) (path : String) : (t.makePath here path).1.IsClosed := by
  rw [Tree.makePath]
  split
  · exact hc
  · exact (hc.makeDirectories (lt_start hhere path) _).1

/-- Putting a node at a path leaves a closed tree. -/
theorem put (hhere : here < t.nextId) (hnode : ∀ id ∈ node.references, id < t.nextId)
    (h : t.put here path node = .ok u) : u.IsClosed := by
  unfold Tree.put at h
  obtain ⟨hmade, hle, hparent⟩ := hc.makeDirectories (lt_start hhere path) (around path).1
  simp only [bind, Except.bind] at h
  generalize t.makeDirectories (start here path) (around path).1 = made at h hmade hle hparent
  obtain ⟨v, _ | parent⟩ := made
  · cases h
  have hlt : parent ≤ v.nextId := Nat.le_of_lt (hparent parent rfl)
  have hrefs : ∀ id ∈ node.references, id ≤ v.nextId := fun id hid =>
    Nat.le_trans (Nat.le_of_lt (hnode id hid)) hle
  dsimp only at h
  split at h
  · split at h
    · next hold =>
      obtain rfl := Except.ok.inj h
      have holdRefs := hmade _ (List.mem_of_getElem? hold)
      exact hmade.setNode holdRefs
    · obtain rfl := Except.ok.inj h
      exact hmade.add _ _ (by simpa [Node.references, Node.children, Table.empty] using hlt)
  · obtain rfl := Except.ok.inj h
    refine hmade.add _ _ fun i hi => ?_
    rcases List.mem_cons.1 hi with rfl | hi
    · exact hlt
    · exact hrefs i (.tail _ hi)
  · obtain rfl := Except.ok.inj h
    exact hmade.add _ _ hrefs

/-- Writing a file leaves a closed tree. -/
theorem writeFile {content : Content} (h : t.writeFile here path content = .ok u) : u.IsClosed := by
  rw [Tree.writeFile] at h
  split at h
  · split at h
    · obtain rfl := Except.ok.inj h
      exact hc.setNode (by simp [Node.references])
    · cases h
  · cases hv : t.vacancy (maxLinks + 1) here path with
    | error e =>
      rw [hv] at h
      cases h
    | ok place =>
      rw [hv] at h
      obtain rfl := Except.ok.inj h
      exact hc.add _ _ (by simp [Node.references])
  · cases h

/-- What a path names is a node of the tree. -/
lemma lt_of_entryAt {entry : NodeId × String × NodeId} (h : t.entryAt here path = .ok entry) :
    entry.2.2 < t.nextId := by
  rw [Tree.entryAt] at h
  simp only [bind, Except.bind] at h
  split at h
  · cases h
  · split at h
    · cases h
    · next hs =>
      obtain rfl := Except.ok.inj h
      exact hc.lt_of_step hs

/-- Removing something leaves a closed tree. -/
theorem remove (h : t.remove here path = .ok u) : u.IsClosed := by
  rw [Tree.remove] at h
  simp only [bind, Except.bind] at h
  split at h
  · cases h
  · obtain rfl := Except.ok.inj h
    exact (hc.emptied _).erase _ _

/-- Renaming something leaves a closed tree. -/
theorem rename (hhere : here < t.nextId) {new : String} (h : t.rename here path new = .ok u) :
    u.IsClosed := by
  rw [Tree.rename] at h
  simp only [bind, Except.bind] at h
  split at h
  · cases h
  · next entry hentry =>
    have hlt := hc.lt_of_entryAt hentry
    split at h
    · cases h
    · next newParent hwalk =>
      have hparent := hc.lt_of_walk_of_lt (lt_start hhere new) hwalk
      have hmoved := (hc.erase entry.1 entry.2.1).insert newParent (around new).2
        (by simpa using hlt)
      split at h
      · next hnode =>
        obtain rfl := Except.ok.inj h
        have hold := hmoved _ (List.mem_of_getElem? hnode)
        refine hmoved.setNode fun i hi => ?_
        rcases List.mem_cons.1 hi with rfl | hi
        · simpa using hparent
        · exact hold i (.tail _ hi)
      · obtain rfl := Except.ok.inj h
        exact hmoved

end

end IsClosed

end Tree

end UnitLoader
