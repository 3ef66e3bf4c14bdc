import UnitLoader.Proofs.Loader.Isolation
import UnitLoader.Proofs.Setup.Install
import UnitLoader.Proofs.Way

/-!
# Loads that read nothing

Roots can be installed without the right to read. What is found beneath them is then found by names,
kinds and times alone, and nothing that is found can be opened: neither a source, nor a cache, nor a
library. So imports are the same in all trees of the same shape, whatever the files hold.

## Main results

* `UnitLoader.Handle.readSource_denied`, `UnitLoader.Handle.readCache_denied` — without the right to
  read, reading fails without a look at the tree.
* `UnitLoader.RootFinder.rights_of_resolve` — what a finder finds is reached with the rights of its
  root.
* `UnitLoader.importAll_eq_of_sameShape` — without the right to read, imports from installed roots
  do not depend on the contents of files.
-/

set_option relaxedAutoImplicit false
set_option autoImplicit false

namespace UnitLoader

variable {α : Type} {t u : Tree} {a b : Ambient} {S R : NodeId → NodeId → Prop}

/-! ## Reading without the right to -/

namespace Handle

variable {h g : Handle}

/-- An operation that fails without a look at the tree does the same on handles that differ in the
numbers of their directories only. -/
lemma FailsBlindly.eq {operation : Handle → Tree → Outcome α} (hf : h.FailsBlindly operation)
    (hm : h.Resembles S g) : operation g u = operation h t := by
  obtain ⟨e, he⟩ := hf
  have hg : g = { h with directory := g.directory } := by
    obtain ⟨hname, hrights, -⟩ := hm
    cases g
    simp_all
  rw [hg, he u g.directory]
  exact (he t h.directory).symm

/-- Without the right to read no artifact is opened, whatever is in the tree. -/
lemma openArtifact_denied (hd : h.grants .read = false) (path : String) :
    h.FailsBlindly (·.openArtifact · path) := by
  obtain ⟨e, he⟩ := openFileMode_denied (.inl hd) path "rb"
  refine ⟨e.atArtifact (Path.join h.nameText path), fun t directory => ?_⟩
  exact congrArg (Except.mapError _) (he t directory)

/-- Without the right to read no source is read, whatever is in the tree. -/
lemma readSource_denied (hd : h.grants .read = false) (path : String) :
    h.FailsBlindly (·.readSource · path) :=
  (openArtifact_denied hd path).bind _

/-- Without the right to read no cache is read, whatever is in the tree. -/
lemma readCache_denied (hd : h.grants .read = false) (cache : String) (source : Option String) :
    h.FailsBlindly (·.readCache · cache source) :=
  (openArtifact_denied hd cache).bind _

end Handle

/-- Of artifacts that nothing can be read of, the same is read. -/
lemma Artifact.Resembles.readsAlike {x y : Artifact} (hm : x.Resembles S y)
    (hd : x.directory.grants .read = false) : x.ReadsAlike t u y where
  name := hm.name
  path := hm.path
  origin := hm.origin
  locations := hm.locations
  readSource path := (Handle.readSource_denied hd path).eq hm.directory
  readCache cache source := (Handle.readCache_denied hd cache source).eq hm.directory
  link := by
    have hopen := (Handle.openArtifact_denied hd x.path).eq (t := t) (u := u) hm.directory
    obtain ⟨e, he⟩ := Handle.openArtifact_denied hd x.path
    have hx : x.directory.openArtifact t x.path = .error e := he t x.directory.directory
    rw [link, link, hm.path, hopen, hx]
    rfl

/-! ## Lookups without the right to read -/

/-- An artifact that a finder found is reached with the rights of its root. -/
lemma RootFinder.rights_of_resolve {f : RootFinder} {x : Artifact} {strategy : Strategy}
    {name : String} {searchPath : Option (List String)}
    (hr : f.resolve t name searchPath = .ok (some (.artifact x strategy))) :
    x.directory.rights = f.root.rights := by
  unfold resolve at hr
  extract_lets tail at hr
  split at hr
  · obtain ⟨hs?, hd, hr⟩ := Outcome.bind_eq_ok.1 hr
    cases hs? with
    | none => cases hr
    | some hs =>
      obtain ⟨h, hmem, hasDirectory, p, -, -, hbind⟩ := found_of_search hr
      obtain ⟨rfl, -⟩ := Resolution.artifact.inj hbind
      exact rights_of_looksThrough (looksThrough_of_directories hd h hmem)
  · cases hr

/-- Beneath roots that nothing may be read beneath, artifacts are found that are loaded alike. -/
lemma Ambient.SameShape.findsAlike (h : a.SameShape b R) {fs gs : List RootFinder}
    (hm : List.Forall₂ (RootFinder.Resembles R) fs gs)
    (hread : ∀ f ∈ fs, f.root.grants .read = false) :
    FindsAlike Eq a b (fs.map .root) (gs.map .root) := by
  intro name searchPath
  have hfound := findInChain_resembles h.tree.resemblance hm name searchPath
  generalize hx : findInChain a name searchPath (fs.map .root) = r at hfound
  generalize findInChain b name searchPath (gs.map .root) = r' at hfound
  cases hfound with
  | error e => exact .error e
  | ok hr =>
    cases hr with
    | none => exact .ok .none
    | some hr =>
      cases hr with
      | portions name locations => exact .ok (.some (.portions name locations))
      | @artifact x y hxy strategy =>
        -- It was found beneath a root of the chain, and is reached with the rights of that root.
        obtain ⟨finder, hfinder, f, hroot, hresolve⟩ :=
          resolve_of_find (l := { chain := fs.map .root }) hx
        obtain ⟨f', hf', rfl⟩ := List.mem_map.1 hfinder
        cases hroot
        have hd : x.directory.grants .read = false := by
          rw [Handle.grants, RootFinder.rights_of_resolve hresolve]
          exact hread f hf'
        exact .ok (.some (.artifact fun i j hi => (hxy.readsAlike hd).load .eq hi strategy))

/-! ## Installed roots -/

/-- Settings without units to be imported in advance are installed alike. Without the right to read,
nothing can be read beneath the roots. -/
lemma Ambient.SameShape.installSettings (h : a.SameShape b R) (s : Settings)
    (hpreload : s.preload = []) (hread : (Rights.ofNames s.granted).has .read = false) (host : Host)
    (hchain : host.loader.chain = []) :
    let x := SetupM.exec (installSettings a s) host
    let y := SetupM.exec (installSettings b s) host
    y.1 = x.1 ∧ ∃ fs gs, x.2.loader.chain = fs.map .root ∧
      y.2 = { x.2 with loader := { x.2.loader with chain := gs.map .root } } ∧
      List.Forall₂ (RootFinder.Resembles R) fs gs ∧ ∀ f ∈ fs, f.root.grants .read = false := by
  have hopen := h.openRoots [.ofNames s.granted] s.rules s.roots
  rw [UnitLoader.installSettings, UnitLoader.installSettings, hpreload, SetupM.exec_install,
    SetupM.exec_install, SetupM.exec_preload_nil, SetupM.exec_preload_nil]
  dsimp only
  generalize UnitLoader.openRoots a [.ofNames s.granted] s.rules s.roots = x at hopen
  generalize UnitLoader.openRoots b [.ofNames s.granted] s.rules s.roots = y at hopen
  cases hopen with
  | error e =>
    -- Nothing was installed, so that nothing can be found.
    refine ⟨rfl, [], [], hchain, ?_, .nil, nofun⟩
    dsimp only
    rw [List.map_nil, ← hchain]
  | ok hdone =>
    obtain ⟨⟨fs, gs, hfs, hgs, hm, hrights⟩, hopened, hskipped⟩ := hdone
    dsimp only
    refine ⟨by rw [hopened, hskipped], fs, gs, hfs, by rw [hgs], hm, fun f hf => ?_⟩
    rw [Handle.grants, hrights f hf]
    exact hread

/-- Without the right to read, the imports from installed roots do not depend on the contents of
files. In trees of the same shape installing has the same result. After that, any number of imports
have the same results, and leave loaders that differ in the numbers of the roots only, with the same
units registered.

**Proof sketch.** Opening roots and looking up names need to know kinds and times of nodes and where
links lead, which is the same in both trees. What is found is reached with the rights of its root.
To open it needs the right to read, so it fails, in the same way in both trees, before it is looked
for. So each load does the same, and so do imports, by induction on their nesting. -/
theorem importAll_eq_of_sameShape (a b : Ambient) (R : NodeId → NodeId → Prop)
    (h : a.SameShape b R) (s : Settings) (hpreload : s.preload = [])
    (hread : (Rights.ofNames s.granted).has .read = false) (host : Host)
    (hchain : host.loader.chain = []) (names : List String) :
    let x := SetupM.exec (installSettings a s) host
    let y := SetupM.exec (installSettings b s) host
    y.1 = x.1 ∧
      (y.2.loader.importAll b names).1 = (x.2.loader.importAll a names).1 ∧
      (y.2.loader.importAll b names).2 =
        { (x.2.loader.importAll a names).2 with chain := y.2.loader.chain } := by
  intro x y
  obtain ⟨hresult, fs, gs, hfs, hy, hm, hroots⟩ :=
    h.installSettings s hpreload hread host hchain
  have hrelated : x.2.loader.Related Eq (fs.map .root) (gs.map .root) y.2.loader :=
    ⟨hfs, _, .refl .eq _, congrArg Host.loader hy⟩
  obtain ⟨hresults, -, r, hr, hleft⟩ :=
    Loader.importAll_related .eq (h.findsAlike hm hroots) hrelated names
  obtain rfl := hr.eq
  refine ⟨hresult, hresults, hleft.trans ?_⟩
  have hlast : y.2.loader.chain = gs.map .root := congrArg (·.loader.chain) hy
  rw [hlast]

/-- A tree in which there are a file `m.src` and a directory `ns` beneath a root `lib`. -/
def Tree.holding (text : String) : Tree :=
  ⟨[.directory 0 (.ofList [("lib", 1)]) 0, .directory 0 (.ofList [("m.src", 2), ("ns", 3)]) 0,
    .file (.bytes (Text.Utf8.encode text.toList)) 0, .directory 1 .empty 0]⟩

/-- Trees that hold texts of the same length have the same shape. -/
lemma Tree.sameShape_holding {text text' : String}
    (hsize : (Text.Utf8.encode text'.toList).length = (Text.Utf8.encode text.toList).length) :
    (holding text).SameShape (holding text') Eq := by
  refine .of_contents fun id => ?_
  match id with
  | 2 => exact .inr ⟨_, _, 0, rfl, rfl, hsize⟩
  | 0 | 1 | 3 | id + 4 => exact .inl rfl

/-- Without the right to read, a source cannot be imported and a directory can, whatever the source
is. -/
theorem importAll_eq_of_sameShape_holding :
    let a : Ambient := ⟨.holding "x = 1", Tree.root⟩
    let b : Ambient := ⟨.holding "raise", Tree.root⟩
    let s : Settings := { roots := ["/lib"], granted := ["lookup", "fstat"] }
    let x := SetupM.exec (installSettings a s) {}
    let y := SetupM.exec (installSettings b s) {}
    a.SameShape b Eq ∧ s.preload = [] ∧ (Rights.ofNames s.granted).has .read = false ∧
      x.1 = .ok ⟨[], ["/lib"], []⟩ ∧
      (x.2.loader.importAll a ["m", "ns", "sys"]).1.map Except.toOption = [none, some 0, some 1] ∧
      y.1 = x.1 ∧
      (y.2.loader.importAll b ["m", "ns", "sys"]).1 =
        (x.2.loader.importAll a ["m", "ns", "sys"]).1 := by
  intro a b s x y
  have hshape : a.SameShape b Eq :=
    ⟨Tree.sameShape_holding (by decide +kernel), rfl, by decide +kernel⟩
  have hread : (Rights.ofNames s.granted).has .read = false := by decide +kernel
  have hresults : (x.2.loader.importAll a ["m", "ns", "sys"]).1.map Except.toOption =
      [none, some 0, some 1] := by decide +kernel
  have hdone : x.1 = .ok ⟨[], ["/lib"], []⟩ := by decide +kernel
  obtain ⟨hresult, hequal, -⟩ :=
    importAll_eq_of_sameShape a b Eq hshape s rfl hread {} rfl ["m", "ns", "sys"]
  exact ⟨hshape, rfl, hread, hdone, hresults, hresult, hequal⟩

end UnitLoader
