import UnitLoader.Proofs.Loader.Once
import UnitLoader.Proofs.Place

/-!
# Where units come from

The search path for a unit is the location of the unit around it, which another finder may have
found. Still every unit is found at its place beneath one of the roots of the chain, whatever is
imported and evicted before.

## Main definitions

* `UnitLoader.IsRoot`, `UnitLoader.HasRules` — the roots of a chain and the rules of its finders.
* `UnitLoader.LoadedUnit.IsPlaced` — where a unit came from and where its children are looked for.
* `UnitLoader.Moment.IsPlaced` — units are placed, and looked for in the locations of placed units.
* `UnitLoader.Loader.ReachedIn` — loaders that imports in one ambient and evictions lead to.

## Main results

* `UnitLoader.isAt_of_find` — what a chain finds is at the place of the unit beneath a root.
* `UnitLoader.Steps.isPlaced` — loads place every unit that they register.
* `UnitLoader.origin_and_locations_of_reachedIn` — every registered unit is placed.
-/

set_option relaxedAutoImplicit false
set_option autoImplicit false

namespace UnitLoader

open UnitLoader.Path (IsName absoluteText)
open UnitName (short parent? isImportable)

variable {a : Ambient} {chain : List Finder} {l : Loader} {m m' : Moment} {k : Nat} {id : UnitId}
  {name : String} {searchPath : Option (List String)} {r : Resolution} {root : List String}

/-! ## What chains find -/

/-- The names of the roots of a chain. -/
def IsRoot (a : Ambient) (chain : List Finder) (root : List String) : Prop :=
  ∃ f ∈ chain, ∃ g, f.HasRoot a g ∧ g.root.name = root

/-- The rules of the finders of a chain. -/
def HasRules (a : Ambient) (chain : List Finder) (rules : SuffixRules) : Prop :=
  ∃ f ∈ chain, ∃ g, f.HasRoot a g ∧ g.rules = rules

/-- Where a unit is looked for: in the roots if there is no unit around it, and else in the place of
that unit beneath a root. -/
inductive LooksFor (a : Ambient) (chain : List Finder) (name : String) :
    Option (List String) → Prop
  | anywhere (h : parent? name = none) : LooksFor a chain name none
  | within {parent : String} {root : List String} (h : parent? name = some parent)
      (hroot : IsRoot a chain root) : LooksFor a chain name (some [place root parent])

/-- The root of a usable finder is named by names. -/
lemma IsRoot.isName (hu : ∀ f ∈ chain, f.Usable) (h : IsRoot a chain root) :
    ∀ s ∈ root, IsName s := by
  obtain ⟨f, hf, g, hg, rfl⟩ := h
  exact ((hu f hf).of_hasRoot hg).1.isName

/-- What a chain finds for a unit is at its place beneath a root. -/
theorem isAt_of_find (hu : ∀ f ∈ l.chain, f.Usable) (hi : isImportable name)
    (hl : LooksFor a l.chain name searchPath) (hf : l.find a name searchPath = .ok (some r)) :
    ∃ root rules, IsRoot a l.chain root ∧ HasRules a l.chain rules ∧
      r.IsAt rules (place root name) := by
  obtain ⟨f, hmem, g, hg, hr⟩ := resolve_of_find hf
  obtain ⟨hopened, hchecked⟩ := (hu f hmem).of_hasRoot hg
  have hrules : HasRules a l.chain g.rules := ⟨f, hmem, g, hg, rfl⟩
  cases hl with
  | anywhere hp =>
    have hin : g.LooksIn g.root.name none := rfl
    refine ⟨g.root.name, g.rules, ⟨f, hmem, g, hg, rfl⟩, hrules, ?_⟩
    rw [place, UnitName.way_of_outermost hp]
    exact RootFinder.isAt_of_resolve hi hchecked.isName_initializer hin hopened.isName hr
  | @within parent root hp hroot =>
    have hin : g.LooksIn (root ++ UnitName.way parent) (some [place root parent]) := rfl
    have hnames : ∀ s ∈ root ++ UnitName.way parent, IsName s := by
      intro s hs
      rcases List.mem_append.1 hs with hs | hs
      · exact hroot.isName hu s hs
      · exact UnitName.isName_of_mem_way (UnitName.isImportable_of_parent? hp hi) s hs
    refine ⟨root, g.rules, hroot, hrules, ?_⟩
    rw [place, UnitName.way_of_parent? hp, ← List.append_assoc]
    exact RootFinder.isAt_of_resolve hi hchecked.isName_initializer hin hnames hr

/-! ## Placed units -/

/-- A unit that has an origin came from its place beneath a root, or from the initializer of a
directory there. The children of a container are looked for there only. -/
structure LoadedUnit.IsPlaced (a : Ambient) (chain : List Finder) (name : String)
    (u : LoadedUnit) : Prop where
  origin : ∀ origin, u.origin = some origin → ∃ root rules, IsRoot a chain root ∧
    HasRules a chain rules ∧ ∃ c ∈ rules.candidates, origin = place root name ++ c.2 ∨
      origin = place root name ++ "/" ++ rules.initializer ++ c.2
  locations : u.isContainer → ∃ root, IsRoot a chain root ∧ u.locations = [place root name]

namespace LoadedUnit.IsPlaced

variable {u : LoadedUnit}

/-- A unit of which nothing is known is placed. -/
lemma of_unknown (ho : u.origin = none) (hc : u.isContainer = false) : u.IsPlaced a chain name where
  origin origin hu := by
    rw [ho] at hu
    cases hu
  locations hu := by
    rw [hc] at hu
    cases hu

/-- A new unit is placed: it has no origin and no locations. -/
lemma ofName (other : String) : (LoadedUnit.ofName other).IsPlaced a chain name :=
  of_unknown rfl rfl

/-- Setting an attribute leaves a unit placed. -/
lemma setAttribute (hu : u.IsPlaced a chain name) (key : String) (v : Value) :
    (u.setAttribute key v).IsPlaced a chain name :=
  ⟨hu.origin, hu.locations⟩

/-- The unit of a builtin is placed. -/
lemma becomeBuiltin (other : String) (bindings : Bindings) :
    ((LoadedUnit.ofName other).becomeBuiltin bindings).IsPlaced a chain name := by
  have hset : ∀ u : LoadedUnit, u.IsPlaced a chain name →
      (bindings.foldl (fun u b => u.setAttribute b.1 b.2) u).IsPlaced a chain name := by
    induction bindings with
    | nil => exact fun _ hu => hu
    | cons b bindings ih => exact fun u hu => ih _ (hu.setAttribute b.1 b.2)
  exact hset _ (of_unknown rfl rfl)

/-- A unit that is told of an artifact at its place is placed. -/
lemma bindArtifact {x : Artifact} {strategy : Strategy} {rules : SuffixRules}
    (hu : u.IsPlaced a chain name) (hroot : IsRoot a chain root) (hrules : HasRules a chain rules)
    (hx : (Resolution.artifact x strategy).IsAt rules (place root name))
    (kind : Option ArtifactKind) :
    (u.bindMetadata (some x.origin) kind x.locations).IsPlaced a chain name := by
  obtain ⟨c, hc, hx⟩ := hx
  have horigin : ∃ c ∈ rules.candidates, x.origin = place root name ++ c.2 ∨
      x.origin = place root name ++ "/" ++ rules.initializer ++ c.2 :=
    ⟨c, hc, hx.imp And.left And.left⟩
  rcases hx with ⟨-, hloc⟩ | ⟨-, hloc⟩ <;> rw [hloc]
  · refine ⟨fun origin ho => ?_, hu.locations⟩
    obtain rfl := Option.some.inj ho
    exact ⟨root, rules, hroot, hrules, horigin⟩
  · refine ⟨fun origin ho => ?_, fun _ => ⟨root, hroot, rfl⟩⟩
    obtain rfl := Option.some.inj ho
    exact ⟨root, rules, hroot, hrules, horigin⟩

/-- A unit that is found without an initializer is placed at its directory. -/
lemma bindPortions (hroot : IsRoot a chain root) :
    (u.bindMetadata none none (some [place root name])).IsPlaced a chain name where
  origin origin ho := by cases ho
  locations _ := ⟨root, hroot, rfl⟩

end LoadedUnit.IsPlaced

/-- All registered units are placed. -/
def Registry.IsPlaced (a : Ambient) (chain : List Finder) (units : Registry) : Prop :=
  ∀ name id, units.find? name = some id → (units.unit id).IsPlaced a chain name

namespace Registry.IsPlaced

variable {units : Registry}

/-- A new unit leaves a registry placed. -/
lemma insertNew (hu : units.IsPlaced a chain) (hv : units.Valid) (name : String) :
    (units.insertNew name).IsPlaced a chain := by
  intro other id hid
  rcases Registry.find?_insertNew_cases hid with ⟨-, rfl⟩ | hr
  · rw [Registry.unit_insertNew, if_pos rfl]
    exact .ofName name
  · rw [Registry.unit_insertNew_of_lt (hv other id hr).1]
    exact hu other id hr

/-- Changing a unit leaves a registry placed if it leaves the unit so. -/
lemma modify (hu : units.IsPlaced a chain) (hv : units.Valid) {f : LoadedUnit → LoadedUnit}
    (hr : units.find? name = some id) (hf : (f (units.unit id)).IsPlaced a chain name) :
    (units.modify id f).IsPlaced a chain := by
  intro other otherId hother
  rw [Registry.find?_modify] at hother
  rw [Registry.unit_modify]
  split
  · next hid =>
    obtain ⟨rfl, -⟩ := hid
    obtain rfl : name = other := (hv name id hr).2.symm.trans (hv other id hother).2
    exact hf
  · exact hu other otherId hother

/-- A new unit may be described in any way that says that it is placed. -/
lemma describe (hu : units.IsPlaced a chain) (hv : units.Valid) {f : LoadedUnit → LoadedUnit}
    (hf : (f (.ofName name)).IsPlaced a chain name) :
    ((units.insertNew name).modify units.nextId f).IsPlaced a chain := by
  have hr : (units.insertNew name).find? name = some units.nextId := by
    rw [Registry.find?_insertNew, if_pos rfl]
  refine (hu.insertNew hv name).modify (hv.insertNew name) hr ?_
  rwa [Registry.unit_insertNew, if_pos rfl]

/-- Setting an attribute leaves a registry placed. -/
lemma setAttribute (hu : units.IsPlaced a chain) (id : UnitId) (key : String) (v : Value) :
    (units.modify id (·.setAttribute key v)).IsPlaced a chain := by
  intro name other hr
  rw [Registry.unit_modify]
  split
  · exact (hu name other hr).setAttribute key v
  · exact hu name other hr

/-- An eviction leaves a registry placed. -/
lemma evict (hu : units.IsPlaced a chain) (name : String) : (units.evict name).IsPlaced a chain :=
  fun other id hid => hu other id (Registry.find?_evict_eq_some.1 hid).2

end Registry.IsPlaced

/-! ## Loads -/

/-- A loader whose registered units are placed by a chain. -/
structure Loader.IsPlaced (a : Ambient) (chain : List Finder) (l : Loader) : Prop where
  chain_eq : l.chain = chain
  valid : l.registry.Valid
  units : l.registry.IsPlaced a chain

/-- An eviction leaves a loader placed. -/
lemma Loader.IsPlaced.evict (hl : l.IsPlaced a chain) (name : String) :
    (l.evict name).IsPlaced a chain :=
  ⟨hl.chain_eq, hl.valid.evict name, hl.units.evict name⟩

/-- All registered units are placed, and units are looked for where the units around them are. -/
structure Moment.IsPlaced (a : Ambient) (chain : List Finder) (m : Moment) : Prop where
  loader : m.loader.IsPlaced a chain
  importable : ∀ f ∈ m.frames, f.IsImportable
  frames : ∀ name searchPath, .bringing name searchPath ∈ m.frames →
    LooksFor a chain name searchPath

/-- A unit is looked for in the place of the unit around it, if that is placed. -/
lemma Loader.IsPlaced.looksFor (hl : l.IsPlaced a chain) (hs : l.Searches name searchPath) :
    LooksFor a chain name searchPath := by
  cases hs with
  | anywhere h => exact .anywhere h
  | @within parent id h hr hc =>
    obtain ⟨root, hroot, hloc⟩ := (hl.units parent id hr).locations hc
    rw [hloc]
    exact .within h hroot

/-- What is found for a unit that is brought in is at its place. -/
lemma Moment.IsPlaced.isAt_of_find (hm : m.IsPlaced a chain) (hu : ∀ f ∈ chain, f.Usable)
    (hmem : .bringing name searchPath ∈ m.frames)
    (hf : m.loader.find a name searchPath = .ok (some r)) :
    ∃ root rules, IsRoot a chain root ∧ HasRules a chain rules ∧
      r.IsAt rules (place root name) := by
  have hi : isImportable name := hm.importable _ hmem
  have hl := hm.frames name searchPath hmem
  have hc := hm.loader.chain_eq
  subst hc
  exact UnitLoader.isAt_of_find hu hi hl hf

/-! ## Loads -/

/-- A step does not change the chain. -/
lemma Step.chain_eq (h : Step a k m m') : m'.loader.chain = m.loader.chain := by
  cases h <;> rfl

/-- A step leaves all units placed. -/
lemma Step.units_isPlaced (h : Step a k m m') (hm : m.IsPlaced a chain)
    (hu : ∀ f ∈ chain, f.Usable) : m'.loader.registry.IsPlaced a chain := by
  obtain ⟨-, hv, hunits⟩ := hm.loader
  cases h with
  | builtin _ _ => exact hunits.describe hv (.becomeBuiltin ..)
  | @portions name _ locations s l _ hf =>
    obtain ⟨root, _, hroot, _, hx⟩ := hm.isAt_of_find hu (List.mem_cons_self ..) hf
    obtain rfl : locations = [place root name] := hx
    exact hunits.describe hv (.bindPortions hroot)
  | begin _ hf _ _ =>
    obtain ⟨root, rules, hroot, hrules, hx⟩ := hm.isAt_of_find hu (List.mem_cons_self ..) hf
    exact hunits.describe hv ((LoadedUnit.IsPlaced.ofName _).bindArtifact hroot hrules hx _)
  | @bind name _ x strategy library id s l hr _ hf =>
    obtain ⟨root, rules, hroot, hrules, hx⟩ := hm.isAt_of_find hu (List.mem_cons_self ..) hf
    exact hunits.modify hv hr ((hunits name id hr).bindArtifact hroot hrules hx _)
  | register _ _ => exact hunits.insertNew hv _
  | assign _ | set _ _ | adopt _ _ _ => exact hunits.setAttribute _ _ _
  | fail => exact hunits.evict _
  | _ => exact hunits

/-- Where a unit is looked for that a step begins to bring in, or was brought in before. -/
lemma Step.looksFor (h : Step a k m m') (hm : m.IsPlaced a chain)
    (hmem : .bringing name searchPath ∈ m'.frames) : LooksFor a chain name searchPath := by
  cases h with
  | bring _ _ hs _ _ =>
    rcases List.mem_cons.1 hmem with he | hmem
    · cases he
      exact hm.loader.looksFor hs
    · exact hm.frames name searchPath hmem
  | ask _ | begin _ _ _ _ => exact hm.frames name searchPath (by simpa using hmem)
  | give _ | deny | finish | fail | settle _ _ | adopt _ _ _ | abandon _ =>
    exact hm.frames name searchPath (List.mem_cons_of_mem _ hmem)
  | _ => exact hm.frames name searchPath hmem

/-- A step leaves units placed, and looks for units in the places of those around them. -/
lemma Step.isPlaced (h : Step a k m m') (hm : m.IsPlaced a chain) (hu : ∀ f ∈ chain, f.Usable) :
    m'.IsPlaced a chain where
  loader := ⟨h.chain_eq.trans hm.loader.chain_eq, h.valid hm.loader.valid, h.units_isPlaced hm hu⟩
  importable := h.isImportable hm.importable
  frames _ _ hmem := h.looksFor hm hmem

/-- Loads place every unit that they register. -/
theorem Steps.isPlaced (h : Steps a m m') (hm : m.IsPlaced a chain) (hu : ∀ f ∈ chain, f.Usable) :
    m'.IsPlaced a chain := by
  induction h with
  | refl => exact hm
  | tail _ hstep ih => exact hstep.isPlaced ih hu

/-! ## Loaders in use -/

/-- A loader that imports in one ambient, evictions and reclamations lead to from one with nothing
registered. -/
inductive Loader.ReachedIn (a : Ambient) (chain : List Finder) : Loader → Prop
  | fresh (builtins : Builtins) : ReachedIn a chain { chain, builtins }
  | imported {l : Loader} (h : ReachedIn a chain l) (name : String) :
      ReachedIn a chain (l.after a name)
  | evicted {l : Loader} (h : ReachedIn a chain l) (name : String) :
      ReachedIn a chain (l.evict name)
  | reclaimed {l l' : Loader} (h : ReachedIn a chain l) {names evicted : List String}
      (hr : l.reclaim? names = some (l', evicted)) : ReachedIn a chain l'

/-- Imports, evictions and reclamations leave units placed. -/
lemma Loader.ReachedIn.isPlaced (h : l.ReachedIn a chain) (hu : ∀ f ∈ chain, f.Usable) :
    l.IsPlaced a chain := by
  induction h with
  | fresh builtins =>
    refine ⟨rfl, fun name id hid => ?_, fun name id hid => ?_⟩ <;> simp [Registry.find?] at hid
  | @imported l _ name ih =>
    have hm : Moment.IsPlaced a chain ⟨[.asking name], l⟩ :=
      ⟨ih, by simp [Frame.IsImportable], by simp⟩
    exact ((steps_import? a l name).isPlaced hm hu).loader
  | evicted _ name ih => exact ih.evict name
  | reclaimed _ hr ih => exact Loader.of_reclaim? (fun _ name hl => hl.evict name) ih hr

/-- Every registered unit that has an origin came from its place beneath a root of the chain, or
from the initializer of a directory there, and every registered container has one location, its
place beneath a root.

**Proof sketch.** A unit is looked for in the roots or in the location of the unit around it. That
one is placed, so the location is the place of it beneath a root. Any finder that leads to a
directory of this name finds the unit at its own place beneath that root. -/
theorem origin_and_locations_of_reachedIn (a : Ambient) (chain : List Finder)
    (hu : ∀ f ∈ chain, f.Usable) (l : Loader) (hl : l.ReachedIn a chain) (name : String)
    (id : UnitId) (hr : l.registry.find? name = some id) :
    (l.registry.unit id).IsPlaced a chain name :=
  (hl.isPlaced hu).units name id hr

/-- A child of a package comes from beneath the root in which the package was found, although
another finder, on a root inside of that one, finds it. -/
theorem origin_and_locations_of_reachedIn_nested :
    let a : Ambient := ⟨.package "" "x = 1", Tree.root⟩
    let chain : List Finder :=
      [.root { root := ⟨["p"], some 1, none⟩, rules := {} }, .ambient ["/"] {}]
    let l := ({ chain } : Loader).after a "p.c"
    (∀ f ∈ chain, f.Usable) ∧ l.ReachedIn a chain ∧ l.registry.find? "p.c" = some 1 ∧
      (l.registry.unit 1).origin = some "/p/c.src" ∧
      (l.registry.unit 1).IsPlaced a chain "p.c" := by
  intro a chain l
  have hchecked : SuffixRules.Checked {} := ⟨{}, by decide, rfl⟩
  have hopened : Handle.Opened ⟨["p"], some 1, none⟩ :=
    .root (a := a) (show Handle.openRoot a "/p" = _ by rfl)
  have hu : ∀ f ∈ chain, f.Usable := by
    intro f hf
    rcases List.mem_pair.1 hf with rfl | rfl
    · exact ⟨hopened, hchecked⟩
    · exact hchecked
  have hl : l.ReachedIn a chain := .imported (.fresh .standard) "p.c"
  have hr : l.registry.find? "p.c" = some 1 := by decide +kernel
  have ho : (l.registry.unit 1).origin = some "/p/c.src" := by decide +kernel
  exact ⟨hu, hl, hr, ho, origin_and_locations_of_reachedIn a chain hu l hl "p.c" 1 hr⟩

end UnitLoader
