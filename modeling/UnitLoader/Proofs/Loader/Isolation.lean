import UnitLoader.Proofs.Agreement
import UnitLoader.Proofs.Loader.Simulation
import UnitLoader.Proofs.Loader.Surroundings

/-!
# Loads that do not depend on the rest of a tree

A load reaches a tree only through the handles of its finders. So two loads are the same if there is
the same beneath the roots of their finders, whatever else is in their trees.

## Main definitions

* `UnitLoader.LoadM.Same` — computations that do the same on loaders with different chains.
* `UnitLoader.Artifact.ReadsAlike` — artifacts of which the same is read in two trees.
* `UnitLoader.RootFinder.OpenedAlike` — finders on a root beneath which two trees are the same.
* `UnitLoader.Loader.importAll` — imports one after the other.

## Main results

* `UnitLoader.import?_same` — imports through finders on such roots are the same.
* `UnitLoader.importAll_eq_of_sameBeneath` — and so are any number of imports.
-/

set_option relaxedAutoImplicit false
set_option autoImplicit false

namespace UnitLoader

open LoadM (exec)
open LoadedUnit (IsCongruence)

variable {α : Type} {c d : List Finder} {i j : Importer} {t u : Tree}

/-! ## Computations that do the same -/

namespace LoadM

/-- A computation gives the same as another one does on a loader with another chain, and leaves the
same loader but for that. The chains stay as they are. -/
def Same (c d : List Finder) (x y : LoadM α) : Prop :=
  ∀ l, l.chain = c → (exec x l).2.chain = c ∧
    exec y { l with chain := d } = ((exec x l).1, { (exec x l).2 with chain := d })

end LoadM

open LoadM (Same Sim)

/-- Registries of equal units are equal. -/
lemma Registry.Related.eq {r s : Registry} (h : r.Related Eq s) : s = r := by
  obtain ⟨hnames, hunits⟩ := h
  rw [List.forall₂_eq_eq_eq] at hunits
  cases r
  cases s
  simp_all

/-- Loaders with equal units that do the same differ in their chains only. -/
lemma LoadM.Sim.same {x y : LoadM α} (h : Sim Eq c d x y) : Same c d x y := by
  intro l hl
  obtain ⟨he, hc, r, hr, hk⟩ := h l { l with chain := d } ⟨hl, _, .refl .eq _, rfl⟩
  obtain rfl := hr.eq
  exact ⟨hc, Prod.ext he hk⟩

/-! ## Artifacts -/

section Artifacts

variable {E : LoadedUnit → LoadedUnit → Prop} {x y : Artifact}

/-- Artifacts that are described alike, and of which the same is read in two trees. -/
structure Artifact.ReadsAlike (t u : Tree) (x y : Artifact) : Prop where
  name : y.name = x.name
  path : y.path = x.path
  origin : y.origin = x.origin
  locations : y.locations = x.locations
  readSource (path : String) : y.directory.readSource u path = x.directory.readSource t path
  readCache (cache : String) (source : Option String) :
    y.directory.readCache u cache source = x.directory.readCache t cache source
  link : y.link u = x.link t

namespace Artifact.ReadsAlike

variable (hE : IsCongruence E)

include hE

/-- Installing a program does the same for artifacts of which the same is read. -/
lemma install (hm : x.ReadsAlike t u y) (hi : i.Sim E c d j) (kind : ArtifactKind) (p : Program) :
    Sim E c d (x.install i kind p) (y.install j kind p) :=
  sim_install hE hi hm.name (fun v w h => by
    rw [hm.origin, hm.locations]
    exact hE.bindMetadata h _ _ _) p

/-- Loading a source does the same for artifacts of which the same is read. -/
lemma loadSource (hm : x.ReadsAlike t u y) (hi : i.Sim E c d j) :
    Sim E c d (x.loadSource t i) (y.loadSource u j) := by
  rw [Artifact.loadSource, Artifact.loadSource, hm.path, hm.readSource]
  exact (LoadM.Sim.ofOutcome _).bind fun p => hm.install hE hi .source p

/-- Loading a cache does the same for artifacts of which the same is read. -/
lemma loadCache (hm : x.ReadsAlike t u y) (hi : i.Sim E c d j) (source : Option String) :
    Sim E c d (x.loadCache t i source) (y.loadCache u j source) := by
  rw [Artifact.loadCache, Artifact.loadCache, hm.path, hm.readCache]
  exact (LoadM.Sim.ofOutcome _).bind fun p => hm.install hE hi .compiledCache p

/-- Loading a cache or the source does the same for artifacts of which the same is read. -/
lemma loadCacheOrSource (hm : x.ReadsAlike t u y) (hi : i.Sim E c d j) (cache : String) :
    Sim E c d (x.loadCacheOrSource t i cache) (y.loadCacheOrSource u j cache) := by
  rw [Artifact.loadCacheOrSource, Artifact.loadCacheOrSource, hm.path, hm.readCache]
  split
  · exact hm.install hE hi .compiledCache _
  · split
    · exact hm.loadSource hE hi
    · exact .throw _

/-- Artifacts of which the same is read are loaded alike. -/
lemma load (hm : x.ReadsAlike t u y) (hi : i.Sim E c d j) (strategy : Strategy) :
    Sim E c d (x.load t i strategy) (y.load u j strategy) := by
  rw [Artifact.load.eq_def, Artifact.load.eq_def, hm.name]
  refine (LoadM.Sim.registered? x.name).bind fun found => ?_
  cases found with
  | some id => exact .pure id
  | none =>
    cases strategy with
    | source => exact hm.loadSource hE hi
    | compiledCache source => exact hm.loadCache hE hi source
    | cacheThenSource cache => exact hm.loadCacheOrSource hE hi cache
    | nativeLibrary => exact sim_loadNative hE hm.name hm.origin hm.locations hm.link

end Artifact.ReadsAlike

/-- Of matching artifacts the same is read. -/
lemma Artifact.Matches.readsAlike (hm : x.Matches t u y) : x.ReadsAlike t u y where
  name := hm.name
  path := hm.path
  origin := hm.origin
  locations := hm.locations
  readSource := Handle.Matches.readSource hm.directory
  readCache := Handle.Matches.readCache hm.directory
  link := hm.link

end Artifacts

/-! ## Imports -/

variable {a b : Ambient} {fs gs : List RootFinder} {name : String}

/-- Chains in which the same is found. -/
def FindAlike (a b : Ambient) (c d : List Finder) : Prop :=
  ∀ name searchPath, Alike (Option.Rel (Resolution.Matches a.tree b.tree))
    (findInChain a name searchPath c) (findInChain b name searchPath d)

/-- What is found the same is loaded alike. -/
lemma FindAlike.findsAlike (hf : FindAlike a b c d) : FindsAlike Eq a b c d := by
  intro name searchPath
  refine (hf name searchPath).imp fun _ _ hr => ?_
  cases hr with
  | none => exact .none
  | some hr =>
    cases hr with
    | artifact hm strategy =>
      exact .some (.artifact fun i j hi =>
        (Artifact.Matches.readsAlike hm).load .eq hi strategy)
    | portions name locations => exact .some (.portions name locations)

/-- Imports are the same if the same is found. The bounds of their nesting, which depend on the
whole trees, are not reached. -/
lemma import?_same (hf : FindAlike a b c d) (name : String) :
    Same c d (import? a name) (import? b name) :=
  (sim_import? .eq hf.findsAlike name).same

/-! ## Roots -/

/-- Finders that were opened alike in two ambients: by the same path, of the same normal form, with
the same rules and limits, on directories with the same beneath them. -/
def RootFinder.OpenedAlike (a b : Ambient) (f g : RootFinder) : Prop :=
  ∃ path rules limits, RootFinder.openRoot a path rules limits = .ok f ∧
    RootFinder.openRoot b path rules limits = .ok g ∧ a.absolute path = b.absolute path ∧
    ∀ i j, a.openDirectory path = .ok i → b.openDirectory path = .ok j →
      a.tree.SameBeneath b.tree i j

/-- Roots that are opened on directories with the same beneath them correspond. -/
lemma Handle.Matches.openRoot {path : String} {h g : Handle}
    (hname : a.absolute path = b.absolute path)
    (hsame : ∀ i j, a.openDirectory path = .ok i → b.openDirectory path = .ok j →
      a.tree.SameBeneath b.tree i j)
    (hh : Handle.openRoot a path = .ok h) (hg : Handle.openRoot b path = .ok g) :
    h.Matches a.tree b.tree g := by
  obtain ⟨name, i, ha, hi, rfl⟩ := Handle.of_openRoot hh
  obtain ⟨name', j, hb, hj, rfl⟩ := Handle.of_openRoot hg
  rw [← hname, ha] at hb
  obtain rfl := Except.ok.inj hb
  exact ⟨rfl, rfl, .some (hsame i j hi hj)⟩

/-- Finders that were opened alike differ in the numbers of their directories only. -/
lemma RootFinder.OpenedAlike.matches {f g : RootFinder} (h : f.OpenedAlike a b g) :
    f.Matches a.tree b.tree g := by
  obtain ⟨path, rules, limits, hf, hg, hname, hsame⟩ := h
  obtain ⟨h, root, hh, hroot, rfl⟩ := RootFinder.of_openRoot hf
  obtain ⟨k, root', hk, hroot', rfl⟩ := RootFinder.of_openRoot hg
  have hlimits := (Handle.Matches.openRoot hname hsame hh hk).limits limits
  rw [hroot, hroot'] at hlimits
  exact ⟨rfl, hlimits.of_ok⟩

/-! ## Imports one after the other -/

/-- The results of imports one after the other, and the loader that they leave. -/
def Loader.importAll (a : Ambient) (l : Loader) : List String → List (Outcome UnitId) × Loader
  | [] => ([], l)
  | name :: names =>
    let (results, left) := (l.after a name).importAll a names
    ((exec (import? a name) l).1 :: results, left)

/-- Any number of imports do the same if what is found is loaded alike. -/
theorem Loader.importAll_related {E : LoadedUnit → LoadedUnit → Prop} {l k : Loader}
    (hE : IsCongruence E) (hf : FindsAlike E a b c d) (h : l.Related E c d k)
    (names : List String) :
    (k.importAll b names).1 = (l.importAll a names).1 ∧
      (l.importAll a names).2.Related E c d (k.importAll b names).2 := by
  induction names generalizing l k with
  | nil => exact ⟨rfl, h⟩
  | cons name names ih =>
    obtain ⟨hresult, hafter⟩ := sim_import? hE hf name l k h
    obtain ⟨hresults, hleft⟩ := ih hafter
    rw [Loader.importAll, Loader.importAll]
    exact ⟨congrArg₂ List.cons hresult hresults, hleft⟩

/-- Any number of imports through finders that were opened alike in two ambients have the same
results, and leave loaders that differ in these finders only: with the same units registered, which
have the same metadata and attributes.

**Proof sketch.** What a finder finds and what is read of it is reached by ways down from its root.
So each function of the loader does the same in both ambients, by induction on the nesting of
imports; its bound differs but is reached in neither. -/
theorem importAll_eq_of_sameBeneath (a b : Ambient) (fs gs : List RootFinder)
    (h : List.Forall₂ (RootFinder.OpenedAlike a b) fs gs) (l : Loader)
    (hl : l.chain = fs.map .root) (names : List String) :
    let l' : Loader := { l with chain := gs.map .root }
    (l'.importAll b names).1 = (l.importAll a names).1 ∧
      (l'.importAll b names).2 = { (l.importAll a names).2 with chain := gs.map .root } := by
  intro l'
  have hf : FindAlike a b (fs.map .root) (gs.map .root) := fun name searchPath =>
    findInChain_matches (h.imp fun _ _ hfg => hfg.matches) name searchPath
  induction names generalizing l with
  | nil => exact ⟨rfl, rfl⟩
  | cons name names ih =>
    obtain ⟨hc, he⟩ := import?_same hf name l hl
    have hafter : l'.after b name = { l.after a name with chain := gs.map .root } :=
      congrArg Prod.snd he
    have hresult : (exec (import? b name) l').1 = (exec (import? a name) l).1 := by
      show (exec (import? b name) { l with chain := gs.map .root }).1 = _
      rw [he]
    obtain ⟨hresults, hleft⟩ := ih (l.after a name) hc
    rw [Loader.importAll, Loader.importAll, hafter]
    exact ⟨congrArg₂ List.cons hresult hresults, hleft⟩

/-- A tree in which there is a unit `m` beneath a root `lib`, and anything beside that. -/
def Tree.withLib (entries : List (String × NodeId)) (nodes : List Node) : Tree :=
  ⟨[.directory 0 (.ofList (("lib", 1) :: entries)) 0, .directory 0 (.ofList [("m.src", 2)]) 0,
    .file (.bytes (Text.Utf8.encode "x = 1".toList)) 0] ++ nodes⟩

/-- Trees that differ beside a directory without links have the same beneath it. -/
lemma Tree.sameBeneath_withLib (entries entries' : List (String × NodeId))
    (nodes nodes' : List Node) :
    (withLib entries nodes).SameBeneath (withLib entries' nodes') 1 1 := by
  refine .of_nodes (fun id => id = 1 ∨ id = 2) ?_ ?_ ?_ (.inl rfl)
  · rintro id (rfl | rfl) <;> rfl
  · rintro id target (rfl | rfl) hl <;> cases hl
  · rintro id p es mtime (rfl | rfl) hd s n hn
    · cases hd
      obtain ⟨-, he⟩ : "m.src" = s ∧ 2 = n := by
        simpa [Table.get?_insert, Table.ofList] using hn
      exact .inr he.symm
    · cases hd

/-- A unit is imported alike from a root `lib`, whatever is beside it. -/
theorem importAll_eq_of_sameBeneath_lib :
    let a : Ambient := ⟨.withLib [] [], Tree.root⟩
    let b : Ambient := ⟨.withLib [("n.src", 3)] [.file (.bytes []) 9], 1⟩
    let f : RootFinder := { root := ⟨["lib"], some 1, none⟩, rules := {} }
    let l : Loader := { chain := [.root f] }
    [f].Forall₂ (RootFinder.OpenedAlike a b) [f] ∧
      (l.importAll a ["m", "n"]).1.map Except.toOption = [some 0, none] ∧
      (l.importAll b ["m", "n"]).1 = (l.importAll a ["m", "n"]).1 ∧
      (l.importAll b ["m", "n"]).2 = { (l.importAll a ["m", "n"]).2 with chain := l.chain } := by
  intro a b f l
  have ha : a.openDirectory "/lib" = .ok 1 := by rfl
  have hb : b.openDirectory "/lib" = .ok 1 := by rfl
  have hopened : [f].Forall₂ (RootFinder.OpenedAlike a b) [f] := by
    refine .cons ⟨"/lib", {}, [], by rfl, by rfl, by rfl, fun i j hi hj => ?_⟩ .nil
    obtain rfl := Except.ok.inj (ha.symm.trans hi)
    obtain rfl := Except.ok.inj (hb.symm.trans hj)
    exact Tree.sameBeneath_withLib ..
  have hresults : (l.importAll a ["m", "n"]).1.map Except.toOption = [some 0, none] := by
    decide +kernel
  obtain ⟨hequal, hleft⟩ := importAll_eq_of_sameBeneath a b [f] [f] hopened l rfl ["m", "n"]
  exact ⟨hopened, hresults, hequal, hleft⟩

end UnitLoader
