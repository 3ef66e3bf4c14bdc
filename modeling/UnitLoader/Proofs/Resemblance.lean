import UnitLoader.Loader.Artifact
import UnitLoader.Lookup.Finder
import UnitLoader.Proofs.Handle

/-!
# Trees that cannot be told apart through handles

Nodes of two trees may be put into correspondence so that the same is known of both, and the same
ways lead on from both to nodes that correspond. Handles on such directories then give the same
answers, and what looking up a name finds through them is the same but for the numbers of nodes.
Nothing is said of what is read.

## Main definitions

* `UnitLoader.Alike` — results that are related values or the same error.
* `UnitLoader.Tree.Resemblance` — correspondences of nodes of two trees.
* `UnitLoader.Handle.Resembles`, `UnitLoader.Resolution.Resembles` — handles and resolutions that
  differ in the numbers of nodes only.

## Main results

* `UnitLoader.Handle.Resembles.stat` — the same is told of the same paths.
* `UnitLoader.RootFinder.Resembles.resolve` — the same is found beneath roots that correspond.
* `UnitLoader.findInChain_resembles` — the same is found in chains of such roots.
-/

set_option relaxedAutoImplicit false
set_option autoImplicit false

namespace UnitLoader

/-! ## Results -/

/-- Two results are related values, or the same error. -/
inductive Alike {ε α β : Type} (R : α → β → Prop) : Except ε α → Except ε β → Prop
  | ok {v : α} {w : β} (h : R v w) : Alike R (.ok v) (.ok w)
  | error (e : ε) : Alike R (.error e) (.error e)

namespace Alike

variable {ε ε' α β γ δ : Type} {R : α → β → Prop} {S : γ → δ → Prop} {x : Except ε α}
  {y : Except ε β}

/-- Results that are alike for one relation are so for any that follows from it. -/
lemma imp {R' : α → β → Prop} (h : Alike R x y) (hR : ∀ v w, R v w → R' v w) : Alike R' x y := by
  cases h with
  | ok h => exact .ok (hR _ _ h)
  | error e => exact .error e

/-- What is done next gives results that are alike, if it does so for related values. -/
lemma bind {f : α → Except ε γ} {g : β → Except ε δ} (h : Alike R x y)
    (hf : ∀ v w, R v w → Alike S (f v) (g w)) : Alike S (x >>= f) (y >>= g) := by
  cases h with
  | ok h => exact hf _ _ h
  | error e => exact .error e

/-- Errors that are wrapped on both sides stay the same errors. -/
lemma mapError (h : Alike R x y) (f : ε → ε') : Alike R (x.mapError f) (y.mapError f) := by
  cases h with
  | ok h => exact .ok h
  | error e => exact .error (f e)

/-- A fold over one list keeps the values on the two sides related, if each step does. -/
lemma foldlM {f : α → γ → Except ε α} {g : β → γ → Except ε β} {v : α} {w : β} (h : R v w)
    (hf : ∀ v w z, R v w → Alike R (f v z) (g w z)) (zs : List γ) :
    Alike R (zs.foldlM f v) (zs.foldlM g w) := by
  induction zs generalizing v w with
  | nil => exact .ok h
  | cons z zs ih =>
    rw [List.foldlM_cons, List.foldlM_cons]
    exact (hf v w z h).bind fun _ _ => ih

/-- Every result is like itself. -/
lemma refl (x : Except ε α) : Alike Eq x x := by
  cases x with
  | ok v => exact .ok rfl
  | error e => exact .error e

/-- Equal results are alike. -/
lemma of_eq {x y : Except ε α} (h : y = x) : Alike Eq x y :=
  h ▸ refl x

/-- Results that are alike for equality are equal. -/
lemma eq {x y : Except ε α} (h : Alike Eq x y) : y = x := by
  cases h with
  | ok h => rw [h]
  | error e => rfl

/-- Values that are alike as results are related. -/
lemma of_ok {v : α} {w : β} (h : Alike R (.ok v : Except ε α) (.ok w)) : R v w := by
  cases h with
  | ok h => exact h

end Alike

/-! ## Nodes -/

/-- Nodes of two trees correspond if one is a directory where the other is, the same is known of
both, and the same ways lead on from both to nodes that correspond again. -/
structure Tree.Resemblance (t u : Tree) (S : NodeId → NodeId → Prop) : Prop where
  isDirectory {i j : NodeId} (h : S i j) : u.isDirectory j = t.isDirectory i
  metadata {i j : NodeId} (h : S i j) : u.metadata j = t.metadata i
  resolve {i j : NodeId} {way : List String} (h : S i j) (hway : ∀ s ∈ way, Path.IsName s) :
    Alike S (t.resolve i (Path.relativeText way)) (u.resolve j (Path.relativeText way))

/-! ## Handles -/

variable {t u : Tree} {S : NodeId → NodeId → Prop}

namespace Handle

/-- Handles on directories that correspond, which differ in the numbers of these. -/
structure Resembles (S : NodeId → NodeId → Prop) (h g : Handle) : Prop where
  name : g.name = h.name
  rights : g.rights = h.rights
  directory : Option.Rel S h.directory g.directory

namespace Resembles

variable {h g : Handle} {way : List String}

/-- Handles that correspond have the same name. -/
lemma nameText (hm : h.Resembles S g) : g.nameText = h.nameText := by
  rw [Handle.nameText, Handle.nameText, hm.name]

/-- Handles that correspond take a path to the same way. -/
lemma relative (hm : h.Resembles S g) (path : String) : g.relative path = h.relative path := by
  rw [Handle.relative, Handle.relative, hm.name]

/-- Handles that correspond grant the same rights. -/
lemma require (hm : h.Resembles S g) (r : Right) : g.require r = h.require r := by
  rw [Handle.require, Handle.require, grants, grants, hm.rights, hm.nameText]

/-- The descriptors of handles that correspond lead to nodes that correspond, or both are closed. -/
lemma descriptor (hm : h.Resembles S g) : Alike S h.descriptor g.descriptor := by
  have hdirectory := hm.directory
  rw [Handle.descriptor, Handle.descriptor, hm.nameText]
  generalize h.directory = x at hdirectory
  generalize g.directory = y at hdirectory
  cases hdirectory with
  | some hij => exact .ok hij
  | none => exact .error _

/-! ### Limits -/

/-- A limit leaves handles that correspond alike. -/
lemma limit (hm : h.Resembles S g) (rights : Rights) :
    Alike (Resembles S) (h.limit rights) (g.limit rights) := by
  rw [Handle.limit, Handle.limit, hm.rights]
  refine Alike.bind (R := fun _ _ => True) (hm.descriptor.bind fun _ _ _ => .ok trivial)
    fun _ _ _ => ?_
  split <;> exact .ok ⟨hm.name, rfl, hm.directory⟩

/-- Limits that are taken one after the other leave handles that correspond alike. -/
lemma limits (hm : h.Resembles S g) (limits : List Rights) :
    Alike (Resembles S) (limits.foldlM Handle.limit h) (limits.foldlM Handle.limit g) :=
  .foldlM hm (fun _ _ rights hm => hm.limit rights) limits

/-! ### Accesses -/

/-- What a path names is reached alike, and what goes on from there may use that it is made of
names. -/
lemma bind_relative {β γ : Type} {R : β → γ → Prop} {f : List String → Outcome β}
    {f' : List String → Outcome γ} {path : String} (hm : h.Resembles S g)
    (hf : ∀ way, (∀ s ∈ way, Path.IsName s) → Alike R (f way) (f' way)) :
    Alike R (h.relative path >>= f) (g.relative path >>= f') := by
  rw [hm.relative]
  cases hway : h.relative path with
  | error e => exact .error e
  | ok way => exact hf way (isName_of_relative hway)

variable (hS : t.Resemblance u S)

include hS

/-- What is reached through handles that correspond corresponds. -/
lemma reach (hm : h.Resembles S g) (hway : ∀ s ∈ way, Path.IsName s) :
    Alike S (h.reach t way) (g.reach u way) := by
  rw [reach_eq, reach_eq]
  split
  · exact .error _
  · exact hm.descriptor.bind fun i j hij => (hS.resolve hij hway).mapError _

/-- What is reached to be opened through handles that correspond corresponds. -/
lemma reachToOpen (hm : h.Resembles S g) (hway : ∀ s ∈ way, Path.IsName s) :
    Alike S (h.reachToOpen t way) (g.reachToOpen u way) :=
  (Alike.of_eq (hm.require .lookup)).bind fun _ _ _ => hm.reach hS hway

/-- Files that are opened through handles that correspond have the same name, and their nodes
correspond. -/
lemma openFile (hm : h.Resembles S g) (path : String) :
    Alike (fun file file' => file'.name = file.name ∧ S file.node file'.node)
      (h.openFile t path) (g.openFile u path) := by
  rw [Handle.openFile, Handle.openFile, openFileMode_eq, openFileMode_eq]
  split
  · exact .error _
  · refine hm.bind_relative fun way hway => ?_
    split
    · exact .error _
    · refine (Alike.of_eq (hm.require .read)).bind fun _ _ _ => ?_
      refine (hm.reachToOpen hS hway).bind fun i j hij => .ok ⟨?_, hij⟩
      rw [hm.name]

/-- Artifacts that are opened through handles that correspond have the same name, and their nodes
correspond. -/
lemma openArtifact (hm : h.Resembles S g) (path : String) :
    Alike (fun file file' => file'.name = file.name ∧ S file.node file'.node)
      (h.openArtifact t path) (g.openArtifact u path) := by
  rw [Handle.openArtifact, Handle.openArtifact, hm.nameText]
  exact (hm.openFile hS path).mapError _

/-- Subdirectories that are opened through handles that correspond do so as well. -/
lemma subdirectory (hm : h.Resembles S g) (path : String) :
    Alike (Resembles S) (h.subdirectory t path) (g.subdirectory u path) := by
  refine hm.bind_relative fun way hway => ?_
  refine (hm.reachToOpen hS hway).bind fun i j hij => ?_
  rw [hS.isDirectory hij]
  split
  · exact .ok ⟨by rw [hm.name], hm.rights, .some hij⟩
  · exact .error _

/-- The same is told through handles that correspond. -/
lemma stat (hm : h.Resembles S g) (path : String) : g.stat u path = h.stat t path := by
  refine Alike.eq (hm.bind_relative fun way hway => ?_)
  refine (Alike.of_eq (hm.require .fstat)).bind fun _ _ _ => ?_
  exact (hm.reach hS hway).bind fun i j hij => .ok (hS.metadata hij).symm

/-- Through handles that correspond the same paths are files. -/
lemma isFile (hm : h.Resembles S g) (path : String) : g.isFile u path = h.isFile t path := by
  rw [Handle.isFile, Handle.isFile, stat?, stat?, hm.stat hS]

/-- Through handles that correspond the same paths are directories. -/
lemma isDirectory (hm : h.Resembles S g) (path : String) :
    g.isDirectory u path = h.isDirectory t path := by
  rw [Handle.isDirectory, Handle.isDirectory, stat?, stat?, hm.stat hS]

/-- Through handles that correspond the same caches are fresh. -/
lemma ensureFresh (hm : h.Resembles S g) (source : String) (header : CacheHeader)
    (origin : String) :
    g.ensureFresh u source header origin = h.ensureFresh t source header origin := by
  rw [Handle.ensureFresh, Handle.ensureFresh, hm.stat hS]

/-- Through handles that correspond the same probe is the first with a file. -/
lemma firstFile (hm : h.Resembles S g) (ps : List Probe) :
    UnitLoader.firstFile g u ps = UnitLoader.firstFile h t ps := by
  induction ps with
  | nil => rfl
  | cons p ps ih => rw [UnitLoader.firstFile, UnitLoader.firstFile, hm.isFile hS, ih]

end Resembles

end Handle

/-! ## Lookups -/

/-- Artifacts that differ in the numbers of their directories only. -/
structure Artifact.Resembles (S : NodeId → NodeId → Prop) (x y : Artifact) : Prop where
  name : y.name = x.name
  path : y.path = x.path
  kind : y.kind = x.kind
  locations : y.locations = x.locations
  directory : x.directory.Resembles S y.directory

/-- Artifacts that correspond have the same origin. -/
lemma Artifact.Resembles.origin {x y : Artifact} (hm : x.Resembles S y) : y.origin = x.origin := by
  rw [Artifact.origin, Artifact.origin, hm.path, hm.directory.nameText]

/-- Resolutions that differ in the numbers of directories only. -/
inductive Resolution.Resembles (S : NodeId → NodeId → Prop) : Resolution → Resolution → Prop
  | artifact {x y : Artifact} (h : x.Resembles S y) (strategy : Strategy) :
      Resembles S (.artifact x strategy) (.artifact y strategy)
  | portions (name : String) (locations : List String) :
      Resembles S (.portions name locations) (.portions name locations)

namespace RootFinder

/-- Finders with the same rules, on roots that differ in their numbers only. -/
structure Resembles (S : NodeId → NodeId → Prop) (f g : RootFinder) : Prop where
  rules : g.rules = f.rules
  root : f.root.Resembles S g.root

variable {f g : RootFinder} {rules : SuffixRules} {name tail : String} (hS : t.Resemblance u S)

include hS

/-- The entries of a search path lead to directories that correspond, if the roots do. -/
lemma Resembles.open_ (hm : f.Resembles S g) (entries : List String) :
    Alike (Option.Rel (List.Forall₂ (Handle.Resembles S))) (directories.open_ f t entries)
      (directories.open_ g u entries) := by
  induction entries with
  | nil => exact .ok (.some .nil)
  | cons entry entries ih =>
    have hsub := hm.root.subdirectory hS entry
    rw [directories.open_, directories.open_]
    generalize f.root.subdirectory t entry = x at hsub
    generalize g.root.subdirectory u entry = y at hsub
    cases hsub with
    | ok hsub =>
      refine ih.bind fun hs gs hhs => .ok ?_
      cases hhs with
      | none => exact .none
      | some hhs => exact .some (.cons hsub hhs)
    | error e => cases e <;> first | exact .error _ | exact .ok .none

/-- Finders that correspond look through handles that correspond. -/
lemma Resembles.directories (hm : f.Resembles S g) (searchPath : Option (List String)) :
    Alike (Option.Rel (List.Forall₂ (Handle.Resembles S))) (f.directories t searchPath)
      (g.directories u searchPath) := by
  cases searchPath with
  | none => exact .ok (.some (.cons hm.root .nil))
  | some entries => exact hm.open_ hS entries

/-- Searches through handles that correspond find resolutions that do. -/
lemma search_resembles {hs gs : List Handle} (hm : List.Forall₂ (Handle.Resembles S) hs gs)
    (found : List String) :
    Alike (Option.Rel (Resolution.Resembles S)) (search rules t name tail hs found)
      (search rules u name tail gs found) := by
  induction hm generalizing found with
  | nil =>
    rw [search, search]
    split
    · exact .ok .none
    · exact .ok (.some (.portions name found))
  | @cons h g hs gs hhg _ ih =>
    rw [search, search, hhg.isDirectory hS]
    refine (Alike.refl _).bind fun hasDirectory _ hd => ?_
    subst hd
    rw [hhg.firstFile hS]
    refine (Alike.refl _).bind fun p? _ hp => ?_
    subst hp
    have hlocation : location g tail = location h tail := by rw [location, location, hhg.name]
    cases p? with
    | none =>
      dsimp only
      rw [hlocation]
      exact ih _
    | some p =>
      have hbind :
          Resolution.Resembles S (bind rules name tail h p) (bind rules name tail g p) := by
        rw [bind, bind, hlocation]
        refine .artifact ?_ _
        exact ⟨rfl, rfl, rfl, rfl, hhg⟩
      exact .ok (.some hbind)

/-- The same is found beneath roots that correspond. -/
lemma Resembles.resolve (hm : f.Resembles S g) (name : String) (searchPath : Option (List String)) :
    Alike (Option.Rel (Resolution.Resembles S)) (f.resolve t name searchPath)
      (g.resolve u name searchPath) := by
  rw [RootFinder.resolve, RootFinder.resolve]
  split
  · refine (hm.directories hS searchPath).bind fun hs? gs? hhs => ?_
    cases hhs with
    | none => exact .ok .none
    | some hhs =>
      dsimp only
      rw [hm.rules]
      exact search_resembles hS hhs []
  · exact .ok .none

end RootFinder

/-- The same is found in chains of finders on roots that correspond. -/
lemma findInChain_resembles {a b : Ambient} (hS : a.tree.Resemblance b.tree S)
    {fs gs : List RootFinder} (hm : List.Forall₂ (RootFinder.Resembles S) fs gs) (name : String)
    (searchPath : Option (List String)) :
    Alike (Option.Rel (Resolution.Resembles S)) (findInChain a name searchPath (fs.map .root))
      (findInChain b name searchPath (gs.map .root)) := by
  induction hm with
  | nil => exact .ok .none
  | cons hfg _ ih =>
    refine (hfg.resolve hS name searchPath).bind fun r? r?' hr => ?_
    cases hr with
    | none => exact ih
    | some hr => exact .ok (.some hr)

end UnitLoader
