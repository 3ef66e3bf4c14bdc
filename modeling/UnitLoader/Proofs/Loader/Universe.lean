import UnitLoader.Proofs.Loader.Imports
import UnitLoader.Proofs.Mention

/-!
# The units that can be asked for

All units that a load asks for are mentioned from the start: in the tree, in builtins, in attributes
of units, or by whoever imports. Programs set attributes to units that they mention only, so that
none are added.

## Main definitions

* `UnitLoader.LoadedUnit.MentionsIn` — the attributes of a unit refer to given units only.
* `UnitLoader.Moment.MentionsIn` — all that is mentioned at a moment is among given units.
* `UnitLoader.FindsMentionsIn` — so is what the programs mention that a chain finds.

## Main results

* `UnitLoader.Steps.mentionsIn` — loads mention nothing new.
* `UnitLoader.Loader.mentionsIn_universe` — the universe of a loader has what is mentioned in it.
-/

set_option relaxedAutoImplicit false
set_option autoImplicit false

namespace UnitLoader

variable {a : Ambient} {m m' : Moment} {k : Nat} {U : List String}

/-! ## Units -/

/-- The attributes of a unit refer to given units only. -/
def LoadedUnit.MentionsIn (U : List String) (u : LoadedUnit) : Prop :=
  ∀ key v, u.attribute? key = some v → v.mentions ⊆ U

namespace LoadedUnit.MentionsIn

variable {u : LoadedUnit}

/-- A new unit refers to no units. -/
lemma ofName (name : String) : (LoadedUnit.ofName name).MentionsIn U := by
  intro key v hv
  simp only [LoadedUnit.ofName, attribute?, Table.get?_insert, Table.get?_empty] at hv
  split at hv
  · cases hv
    exact List.nil_subset U
  · cases hv

/-- An attribute that is set refers to what its value refers to. -/
lemma setAttribute (h : u.MentionsIn U) {value : Value} (hv : value.mentions ⊆ U) (key : String) :
    (u.setAttribute key value).MentionsIn U := by
  intro other v ho
  rw [attribute?_setAttribute] at ho
  split at ho
  · cases ho
    exact hv
  · exact h other v ho

/-- What metadata tells are texts and lists. -/
lemma bindMetadata (h : u.MentionsIn U) (origin : Option String) (kind : Option ArtifactKind)
    (locations : Option (List String)) : (u.bindMetadata origin kind locations).MentionsIn U := by
  intro key v hv
  rw [attribute?_bindMetadata] at hv
  split at hv
  · cases locations with
    | none => exact h _ v hv
    | some found =>
      cases hv
      exact List.nil_subset U
  · split at hv
    · obtain ⟨_, -, rfl⟩ := Option.map_eq_some_iff.1 hv
      exact List.nil_subset U
    · split at hv
      · cases hv
        exact List.nil_subset U
      · split at hv
        · cases hv
          exact List.nil_subset U
        · exact h key v hv

/-- The unit of a builtin refers to what the builtin refers to. -/
lemma becomeBuiltin (h : u.MentionsIn U) {bindings : Bindings}
    (hb : ∀ b ∈ bindings, b.2.mentions ⊆ U) : (u.becomeBuiltin bindings).MentionsIn U := by
  have hfold : ∀ u : LoadedUnit, u.MentionsIn U →
      (bindings.foldl (fun u b => u.setAttribute b.1 b.2) u).MentionsIn U := by
    induction bindings with
    | nil => exact fun _ hu => hu
    | cons b bindings ih =>
      obtain ⟨hhead, htail⟩ := List.forall_mem_cons.1 hb
      exact fun u hu => ih htail _ (hu.setAttribute hhead b.1)
  exact hfold _ (h.bindMetadata none none none)

end LoadedUnit.MentionsIn

/-! ## Registries -/

/-- The attributes of the units of a registry refer to given units only. -/
def Registry.MentionsIn (U : List String) (r : Registry) : Prop :=
  ∀ id, (r.unit id).MentionsIn U

namespace Registry.MentionsIn

variable {r : Registry}

/-- A new unit leaves a registry within given units. -/
lemma insertNew (h : r.MentionsIn U) (name : String) : (r.insertNew name).MentionsIn U := by
  intro id
  rw [unit_insertNew]
  split
  · exact .ofName name
  · exact h id

/-- Changing a unit leaves a registry within given units, if it leaves the unit so. -/
lemma modify (h : r.MentionsIn U) {id : UnitId} {f : LoadedUnit → LoadedUnit}
    (hf : ∀ u, u.MentionsIn U → (f u).MentionsIn U) : (r.modify id f).MentionsIn U := by
  intro other
  rw [unit_modify]
  split
  · exact hf _ (h other)
  · exact h other

end Registry.MentionsIn

/-! ## Moments -/

/-- What a frame asks for is among given units. -/
def Frame.MentionsIn (U : List String) : Frame → Prop
  | .asking name | .bringing name _ => name ∈ U
  | .running name _ p => name ∈ U ∧ p.mentions ⊆ U

/-- All that is mentioned at a moment is among given units. -/
structure Moment.MentionsIn (U : List String) (m : Moment) : Prop where
  frames : ∀ f ∈ m.frames, f.MentionsIn U
  registry : m.loader.registry.MentionsIn U
  builtins : ∀ name bindings, m.loader.builtins.get? name = some bindings →
    ∀ b ∈ bindings, b.2.mentions ⊆ U

/-- A statement of a program mentions no more than the program. -/
lemma Program.mentions_of_mem {p : Program} (hp : p.mentions ⊆ U) {st : Statement}
    (h : st ∈ p.statements) : st.mentions ⊆ U :=
  fun _ hn => hp (List.mem_flatMap.2 ⟨st, h, hn⟩)

/-- A program asks for units that are mentioned. -/
lemma Program.Asks.mem {p : Program} {l : Loader} {name : String} (h : p.Asks l name)
    (hp : p.mentions ⊆ U) (hr : l.registry.MentionsIn U) : name ∈ U := by
  cases h with
  | imported h => exact Program.mentions_of_mem hp h (by simp [Statement.mentions])
  | source h => exact Program.mentions_of_mem hp h (by simp [Statement.mentions])
  | child h hk =>
    exact Program.mentions_of_mem hp h (List.mem_cons_of_mem _ (List.mem_map_of_mem hk))
  | reference h => exact hr _ _ _ h (by simp [Value.mentions])

/-- A program sets attributes to values that refer to units that are mentioned. -/
lemma Program.Computes.subset {p : Program} {l : Loader} {v : Value} (h : p.Computes l v)
    (hU : ∀ name ∈ U, UnitName.lineage name ⊆ U) (hp : p.mentions ⊆ U)
    (hr : l.registry.MentionsIn U) : v.mentions ⊆ U := by
  cases h with
  | literal h => exact Program.mentions_of_mem hp h
  | read h => exact hr _ _ _ h
  | imported h =>
    simpa [Value.mentions] using Program.mentions_of_mem hp h (by simp [Statement.mentions])
  | outermost h =>
    have hn := Program.mentions_of_mem hp h (List.mem_cons_self ..)
    simpa [Value.mentions] using hU _ hn (UnitName.top_mem_lineage _)
  | child h hk =>
    have hn := Program.mentions_of_mem hp h (List.mem_cons_of_mem _ (List.mem_map_of_mem hk))
    simpa [Value.mentions] using hn

/-- The programs of the artifacts that a chain finds mention given units only. -/
def FindsMentionsIn (U : List String) (a : Ambient) (chain : List Finder) : Prop :=
  ∀ name searchPath x strategy kind p,
    findInChain a name searchPath chain = .ok (some (.artifact x strategy)) →
      x.read a.tree strategy = .ok (kind, p) → p.mentions ⊆ U

/-- A step mentions what the programs that are found mention. -/
lemma Step.mentionsIn_of_finds (h : Step a k m m') (hU : ∀ name ∈ U, UnitName.lineage name ⊆ U)
    (hc : FindsMentionsIn U a m.loader.chain) (hm : m.MentionsIn U) : m'.MentionsIn U := by
  obtain ⟨hf, hr, hb⟩ := hm
  cases h with
  | ask hask =>
    have hp := (List.forall_mem_cons.1 hf).1.2
    exact ⟨List.forall_mem_cons.2 ⟨hask.mem hp hr, hf⟩, hr, hb⟩
  | bring hmem _ _ =>
    have hasked := (List.forall_mem_cons.1 hf).1
    exact ⟨List.forall_mem_cons.2 ⟨hU _ hasked hmem, hf⟩, hr, hb⟩
  | begin _ hfound hread =>
    have hname := (List.forall_mem_cons.1 hf).1
    have hp := hc _ _ _ _ _ _ hfound hread
    exact ⟨List.forall_mem_cons.2 ⟨⟨hname, hp⟩, hf⟩,
      (hr.insertNew _).modify fun _ hu => hu.bindMetadata _ _ _, hb⟩
  | builtin _ hget =>
    exact ⟨hf, (hr.insertNew _).modify fun _ hu => hu.becomeBuiltin (hb _ _ hget), hb⟩
  | portions _ _ => exact ⟨hf, (hr.insertNew _).modify fun _ hu => hu.bindMetadata _ _ _, hb⟩
  | assign hv =>
    have hp := (List.forall_mem_cons.1 hf).1.2
    exact ⟨hf, hr.modify fun _ hu => hu.setAttribute (hv.subset hU hp hr) _, hb⟩
  | set _ hv => exact ⟨hf, hr.modify fun _ hu => hu.setAttribute (by simp [hv]) _, hb⟩
  | bind _ _ => exact ⟨hf, hr.modify fun _ hu => hu.bindMetadata _ _ _, hb⟩
  | adopt _ _ _ =>
    obtain ⟨hname, hs⟩ := List.forall_mem_cons.1 hf
    have hv : (Value.unit _).mentions ⊆ U := List.cons_subset.2 ⟨hname, List.nil_subset U⟩
    exact ⟨hs, hr.modify fun _ hu => hu.setAttribute hv _, hb⟩
  | register _ _ => exact ⟨hf, hr.insertNew _, hb⟩
  | reregister _ | count => exact ⟨hf, hr, hb⟩
  | fail => exact ⟨(List.forall_mem_cons.1 hf).2, hr, hb⟩
  | give _ | deny | finish | settle _ _ | abandon _ =>
    exact ⟨(List.forall_mem_cons.1 hf).2, hr, hb⟩

/-- A step mentions nothing new. -/
lemma Step.mentionsIn (h : Step a k m m') (hU : ∀ name ∈ U, UnitName.lineage name ⊆ U)
    (ht : a.tree.mentions ⊆ U) (hm : m.MentionsIn U) : m'.MentionsIn U :=
  h.mentionsIn_of_finds hU (fun _ _ _ _ _ _ _ hread _ hn => ht (Artifact.mentions_of_read hread hn))
    hm

/-- Loads mention nothing new. -/
lemma Steps.mentionsIn (h : Steps a m m') (hU : ∀ name ∈ U, UnitName.lineage name ⊆ U)
    (ht : a.tree.mentions ⊆ U) (hm : m.MentionsIn U) : m'.MentionsIn U := by
  induction h with
  | refl => exact hm
  | tail _ hstep ih => exact hstep.mentionsIn hU ht ih

/-! ## Universes -/

/-- The units of a registry refer to what the registry mentions. -/
lemma Registry.unit_mentionsIn (r : Registry) : r.MentionsIn r.mentions := by
  intro id
  by_cases hid : id < r.units.length
  · intro key v hv name hn
    have hu : r.unit id = r.units[id] := by simp [unit, hid]
    rw [hu] at hv
    exact List.mem_flatMap.2 ⟨_, List.getElem_mem hid,
      List.mem_flatMap.2 ⟨_, Table.mem_entries_of_get? hv, hn⟩⟩
  · have hu : r.unit id = LoadedUnit.ofName "" := by simp [unit, hid]; rfl
    rw [hu]
    exact .ofName ""

/-- The universe of a loader has what is mentioned in it. -/
lemma Loader.mentionsIn_universe (l : Loader) (t : Tree) (name : String) :
    (⟨[.asking name], l⟩ : Moment).MentionsIn (l.universe t [name]) ∧
      t.mentions ⊆ l.universe t [name] ∧
      ∀ m ∈ l.universe t [name], UnitName.lineage m ⊆ l.universe t [name] := by
  have hmem : ∀ m ∈ [name] ++ t.mentions ++ l.registry.mentions ++ l.builtins.mentions,
      m ∈ l.universe t [name] := fun m hm =>
    UnitName.mem_closure_iff.2 ⟨m, hm, UnitName.self_mem_lineage m⟩
  refine ⟨⟨?_, ?_, ?_⟩, ?_, fun m hm => UnitName.lineage_subset_closure hm⟩
  · simp only [List.mem_singleton, forall_eq]
    exact hmem name (by simp)
  · exact fun id key v hv m hm => hmem m (by simp [l.registry.unit_mentionsIn id key v hv hm])
  · intro other bindings hget b hb m hm
    refine hmem m (List.mem_append_right _ ?_)
    exact List.mem_flatMap.2 ⟨_, Table.mem_entries_of_get? hget, List.mem_flatMap.2 ⟨b, hb, hm⟩⟩
  · exact fun m hm => hmem m (by simp [hm])

end UnitLoader
