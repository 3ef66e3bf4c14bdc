import UnitLoader.Proofs.Place
import UnitLoader.Proofs.Way

/-!
# Which root of a chain decides

A chain of finders looks beneath roots, one after the other. The first root that holds anything of a
unit's name decides what is found. A directory without an initializer is such a thing: it is the
last resort beneath its own root only, and a file beneath a later root does not matter any more.

## Main definitions

* `UnitLoader.chainRoots` — the roots of a chain, in order.
* `UnitLoader.RootFinder.HoldsUnit` — there is a file for a unit beneath a root.
* `UnitLoader.RootFinder.HoldsDirectory` — there is a directory of a unit's name beneath a root.

## Main results

* `UnitLoader.findInChain_eq_of_chainRoots` — a chain finds what its roots find one after the other.
* `UnitLoader.RootFinder.resolve_cases` — what is found beneath a root without a search path.
* `UnitLoader.find_eq_of_first` — what a chain finds is told by the first root that holds anything.
-/

set_option relaxedAutoImplicit false
set_option autoImplicit false

namespace UnitLoader

open UnitName (short)

variable {a : Ambient} {t : Tree} {name tail : String} {searchPath : Option (List String)}
  {h : Handle} {rules : SuffixRules}

-- Lookups on given trees are decided by what they find.
deriving instance DecidableEq for Handle, Artifact, Resolution, RootFinder

/-! ## The roots of a chain -/

/-- The roots that a finder looks beneath. Those that are found by path are opened for it. -/
def Finder.roots (a : Ambient) : Finder → Outcome (List RootFinder)
  | .root f => .ok [f]
  | .ambient paths rules =>
    (paths.filter a.isDirectory).mapM fun path => RootFinder.openRoot a path rules []

/-- The roots that a chain looks beneath, in order. -/
def chainRoots (a : Ambient) : List Finder → Outcome (List RootFinder)
  | [] => .ok []
  | f :: fs => do
    let ahead ← f.roots a
    let later ← chainRoots a fs
    return ahead ++ later

/-- A longer chain asks its later finders if the earlier ones find nothing. -/
lemma findInChain_append (fs gs : List Finder) :
    findInChain a name searchPath (fs ++ gs) =
      findInChain a name searchPath fs >>= fun
        | some r => .ok (some r)
        | none => findInChain a name searchPath gs := by
  induction fs with
  | nil => rfl
  | cons f fs ih =>
    rw [List.cons_append, findInChain, findInChain, ih]
    cases f.find a name searchPath with
    | error e => rfl
    | ok r? => cases r? <;> rfl

/-- A finder that opens its roots at each lookup finds what a chain of finders on these roots
does. -/
lemma findAmbient_eq {paths : List String} {roots : List RootFinder}
    (hr : (Finder.ambient paths rules).roots a = .ok roots) :
    Finder.findAmbient a rules name searchPath paths =
      findInChain a name searchPath (roots.map .root) := by
  induction paths generalizing roots with
  | nil =>
    obtain rfl : [] = roots := Except.ok.inj hr
    rfl
  | cons path paths ih =>
    rw [Finder.roots] at hr
    rw [Finder.findAmbient]
    by_cases hd : a.isDirectory path = true
    · rw [List.filter_cons_of_pos hd, List.mapM_cons] at hr
      obtain ⟨f, hf, hr⟩ := Outcome.bind_eq_ok.1 hr
      obtain ⟨later, hlater, hr⟩ := Outcome.bind_eq_ok.1 hr
      obtain rfl := Except.ok.inj hr
      rw [if_pos hd, hf, List.map_cons, findInChain, ← ih hlater]
      rfl
    · rw [List.filter_cons_of_neg hd] at hr
      rw [if_neg hd, ih hr]

/-- A chain finds what its roots find, asked one after the other. -/
theorem findInChain_eq_of_chainRoots {fs : List Finder} {roots : List RootFinder}
    (hr : chainRoots a fs = .ok roots) :
    findInChain a name searchPath fs = findInChain a name searchPath (roots.map .root) := by
  induction fs generalizing roots with
  | nil =>
    obtain rfl := Except.ok.inj hr
    rfl
  | cons f fs ih =>
    obtain ⟨ahead, hahead, hr⟩ := Outcome.bind_eq_ok.1 hr
    obtain ⟨later, hlater, hr⟩ := Outcome.bind_eq_ok.1 hr
    obtain rfl := Except.ok.inj hr
    rw [List.map_append, findInChain_append, findInChain, ih hlater]
    cases f with
    | root f =>
      obtain rfl := Except.ok.inj hahead
      rw [List.map_singleton, findInChain, findInChain]
      cases (Finder.root f).find a name searchPath with
      | error e => rfl
      | ok r? => cases r? <;> rfl
    | ambient paths rules =>
      rw [Finder.find, findAmbient_eq hahead]
      rfl

/-! ## What a root holds -/

/-- There is no such file. -/
lemma isFile_of_firstFile_none {ps : List Probe} (hf : firstFile h t ps = .ok none) :
    ∀ p ∈ ps, h.isFile t p.path = .ok false := by
  induction ps with
  | nil => simp
  | cons q ps ih =>
    obtain ⟨there, hthere, hf⟩ := Outcome.bind_eq_ok.1 hf
    cases there with
    | true => cases hf
    | false => exact List.forall_mem_cons.2 ⟨hthere, ih hf⟩

namespace RootFinder

variable {f : RootFinder} {r? : Option Resolution}

/-- There is a file for a unit beneath a root: one that the unit's short name with a suffix names,
or an initializer in a directory of the short name. -/
def HoldsUnit (f : RootFinder) (t : Tree) (name : String) : Prop :=
  isSearchable (short name) = true ∧ ∃ c ∈ f.rules.candidates,
    f.root.isFile t (short name ++ c.2) = .ok true ∨
    (f.root.isDirectory t (short name) = .ok true ∧
      f.root.isFile t (Path.join (short name) (f.rules.initializer ++ c.2)) = .ok true)

/-- There is a directory of the short name of a unit beneath a root. -/
def HoldsDirectory (f : RootFinder) (t : Tree) (name : String) : Prop :=
  isSearchable (short name) = true ∧ f.root.isDirectory t (short name) = .ok true

/-- The files for a unit are those that are looked for. -/
lemma holdsUnit_iff {hasDirectory : Bool} (hs : isSearchable (short name) = true)
    (hd : f.root.isDirectory t (short name) = .ok hasDirectory) :
    f.HoldsUnit t name ↔
      ∃ p ∈ probes f.rules (short name) hasDirectory, f.root.isFile t p.path = .ok true := by
  rw [HoldsUnit, and_iff_right hs, hd]
  constructor
  · rintro ⟨c, hc, hfile | ⟨hdirectory, hfile⟩⟩
    · exact ⟨⟨c.1, short name ++ c.2, false⟩,
        List.mem_flatMap.2 ⟨c, hc, List.mem_cons_self ..⟩, hfile⟩
    · obtain rfl := Except.ok.inj hdirectory
      exact ⟨⟨c.1, Path.join (short name) (f.rules.initializer ++ c.2), true⟩,
        List.mem_flatMap.2 ⟨c, hc, List.mem_cons_of_mem _ (List.mem_singleton_self _)⟩, hfile⟩
  · rintro ⟨p, hp, hfile⟩
    obtain ⟨c, hc, hp⟩ := List.mem_flatMap.1 hp
    refine ⟨c, hc, ?_⟩
    rcases List.mem_cons.1 hp with rfl | hp
    · exact .inl hfile
    · cases hasDirectory with
      | false => cases hp
      | true =>
        obtain rfl := List.mem_singleton.1 hp
        exact .inr ⟨rfl, hfile⟩

/-- What is found beneath a root without a search path: a file if there is one, else the directory
if there is one. -/
theorem resolve_cases (hr : f.resolve t name none = .ok r?) :
    (f.HoldsUnit t name ∧
      ∃ x strategy, r? = some (.artifact x strategy) ∧ x.directory = f.root) ∨
    (¬ f.HoldsUnit t name ∧ f.HoldsDirectory t name ∧
      r? = some (.portions name [location f.root (short name)])) ∨
    (¬ f.HoldsUnit t name ∧ ¬ f.HoldsDirectory t name ∧ r? = none) := by
  unfold resolve at hr
  extract_lets tail at hr
  split at hr
  · next hs =>
    obtain ⟨hs?, hdirectories, hr⟩ := Outcome.bind_eq_ok.1 hr
    obtain rfl : some [f.root] = hs? := Except.ok.inj hdirectories
    obtain ⟨hasDirectory, hd, hr⟩ := Outcome.bind_eq_ok.1 hr
    obtain ⟨p?, hp, hr⟩ := Outcome.bind_eq_ok.1 hr
    rw [holdsUnit_iff hs hd, HoldsDirectory, and_iff_right hs, hd]
    cases p? with
    | some p =>
      obtain rfl := Except.ok.inj hr
      exact .inl ⟨⟨p, mem_of_firstFile hp, isFile_of_firstFile hp⟩, _, _, rfl, rfl⟩
    | none =>
      have hnone : ¬ ∃ p ∈ probes f.rules (short name) hasDirectory,
          f.root.isFile t p.path = .ok true := by
        rintro ⟨p, hmem, hfile⟩
        rw [isFile_of_firstFile_none hp p hmem] at hfile
        cases hfile
      obtain rfl := Except.ok.inj hr
      cases hasDirectory with
      | true => exact .inr (.inl ⟨hnone, rfl, rfl⟩)
      | false => exact .inr (.inr ⟨hnone, nofun, rfl⟩)
  · next hs =>
    obtain rfl := Except.ok.inj hr
    exact .inr (.inr ⟨fun hu => hs hu.1, fun hd => hs hd.1, rfl⟩)

end RootFinder

/-! ## The first root that holds anything -/

/-- A tree with a directory `ns` beneath `a`, and with a file `ns.src` beneath `b`. -/
def Tree.split : Tree :=
  ⟨[.directory 0 (.ofList [("a", 1), ("b", 3)]) 0, .directory 0 (.ofList [("ns", 2)]) 0,
    .directory 1 .empty 0, .directory 0 (.ofList [("ns.src", 4)]) 0, .file (.bytes [0x23]) 0]⟩

variable {roots before after : List RootFinder} {f : RootFinder}

/-- Roots beneath which nothing is found do not matter. -/
lemma findInChain_roots_of_none (hnone : ∀ g ∈ before, g.resolve a.tree name none = .ok none) :
    findInChain a name none ((before ++ after).map .root) =
      findInChain a name none (after.map .root) := by
  induction before with
  | nil => rfl
  | cons g before ih =>
    obtain ⟨hg, hbefore⟩ := List.forall_mem_cons.1 hnone
    rw [List.cons_append, List.map_cons, findInChain, Finder.find, hg]
    exact ih hbefore

/-- What is found beneath a root is found by a chain if nothing is found beneath roots before it. -/
lemma findInChain_roots_of_some {r : Resolution}
    (hnone : ∀ g ∈ before, g.resolve a.tree name none = .ok none)
    (hf : f.resolve a.tree name none = .ok (some r)) :
    findInChain a name none ((before ++ f :: after).map .root) = .ok (some r) := by
  rw [findInChain_roots_of_none hnone, List.map_cons, findInChain, Finder.find, hf]
  rfl

/-- The first root of a chain that holds a file or a directory of a unit's name decides, if no
lookup fails. A file is found, as it is found beneath that root. A directory without an initializer
alone makes the unit, whatever there is beneath later roots. Nothing is found if no root holds
anything.

**Proof sketch.** Without a search path a lookup through the roots is the first lookup that finds
something, and what one of them finds is known by what the root holds (`RootFinder.resolve_cases`).
Roots that hold nothing find nothing, and are passed over. -/
theorem find_eq_of_first (a : Ambient) (l : Loader) (name : String) (roots : List RootFinder)
    (hroots : chainRoots a l.chain = .ok roots)
    (hok : ∀ f ∈ roots, ∃ r?, f.resolve a.tree name none = .ok r?) :
    (∀ before f after, roots = before ++ f :: after →
      (∀ g ∈ before, ¬ g.HoldsUnit a.tree name ∧ ¬ g.HoldsDirectory a.tree name) →
      (f.HoldsUnit a.tree name → ∃ x strategy, x.directory = f.root ∧
        f.resolve a.tree name none = .ok (some (.artifact x strategy)) ∧
        l.find a name none = .ok (some (.artifact x strategy))) ∧
      (¬ f.HoldsUnit a.tree name → f.HoldsDirectory a.tree name →
        l.find a name none =
          .ok (some (.portions name [RootFinder.location f.root (short name)])))) ∧
    ((∀ f ∈ roots, ¬ f.HoldsUnit a.tree name ∧ ¬ f.HoldsDirectory a.tree name) →
      l.find a name none = .ok none) := by
  have hnothing {g : RootFinder} (hg : g ∈ roots)
      (hnot : ¬ g.HoldsUnit a.tree name ∧ ¬ g.HoldsDirectory a.tree name) :
      g.resolve a.tree name none = .ok none := by
    obtain ⟨r?, hr⟩ := hok g hg
    rcases RootFinder.resolve_cases hr with ⟨hu, -⟩ | ⟨-, hd, -⟩ | ⟨-, -, rfl⟩
    · exact absurd hu hnot.1
    · exact absurd hd hnot.2
    · exact hr
  rw [Loader.find, findInChain_eq_of_chainRoots hroots]
  refine ⟨?_, fun hall => ?_⟩
  · rintro before f after rfl hbefore
    have hnone : ∀ g ∈ before, g.resolve a.tree name none = .ok none := fun g hg =>
      hnothing (List.mem_append_left _ hg) (hbefore g hg)
    obtain ⟨r?, hr⟩ := hok f (List.mem_append_right _ (List.mem_cons_self ..))
    refine ⟨fun hu => ?_, fun hu hd => ?_⟩
    · rcases RootFinder.resolve_cases hr with ⟨-, x, strategy, rfl, hx⟩ | ⟨hn, -⟩ | ⟨hn, -⟩
      · exact ⟨x, strategy, hx, hr, findInChain_roots_of_some hnone hr⟩
      · exact absurd hu hn
      · exact absurd hu hn
    · rcases RootFinder.resolve_cases hr with ⟨hu', -⟩ | ⟨-, -, rfl⟩ | ⟨-, hn, -⟩
      · exact absurd hu' hu
      · exact findInChain_roots_of_some hnone hr
      · exact absurd hd hn
  · have hnone : ∀ g ∈ roots, g.resolve a.tree name none = .ok none := fun g hg =>
      hnothing hg (hall g hg)
    rw [← List.append_nil roots, findInChain_roots_of_none hnone]
    rfl

/-- The first root of a chain holds the file of a unit, and the second its directory. The file is
found. -/
theorem find_eq_of_first_split :
    let a : Ambient := ⟨.split, 0⟩
    let l : Loader := { chain := [.ambient ["/none", "/b"] {}, .ambient ["/a"] {}] }
    let f : RootFinder := { root := ⟨["b"], some 3, none⟩, rules := {} }
    let g : RootFinder := { root := ⟨["a"], some 1, none⟩, rules := {} }
    chainRoots a l.chain = .ok [f, g] ∧
      (∀ k ∈ [f, g], ∃ r?, k.resolve a.tree "ns" none = .ok r?) ∧ f.HoldsUnit a.tree "ns" ∧
      ∃ x strategy, x.directory = f.root ∧
        l.find a "ns" none = .ok (some (.artifact x strategy)) := by
  intro a l f g
  have hroots : chainRoots a l.chain = .ok [f, g] := by decide +kernel
  have hunit : f.HoldsUnit a.tree "ns" :=
    ⟨by decide +kernel, (.source, ".src"), by decide +kernel, .inl (by decide +kernel)⟩
  have hf : f.resolve a.tree "ns" none = .ok (some (.artifact
      ⟨"ns", f.root, "ns.src", .source, none⟩ (.cacheThenSource "ns.cache"))) := by decide +kernel
  have hg : g.resolve a.tree "ns" none = .ok (some (.portions "ns" ["/a/ns"])) := by
    decide +kernel
  have hok : ∀ k ∈ [f, g], ∃ r?, k.resolve a.tree "ns" none = .ok r? := by
    simpa using ⟨⟨_, hf⟩, ⟨_, hg⟩⟩
  obtain ⟨hfirst, -⟩ := find_eq_of_first a l "ns" [f, g] hroots hok
  obtain ⟨x, strategy, hx, -, hfound⟩ := (hfirst [] f [g] rfl nofun).1 hunit
  exact ⟨hroots, hok, hunit, x, strategy, hx, hfound⟩

/-- The first root of a chain holds the directory of a unit, and the second its file. The directory
is found. -/
theorem find_portions_of_split :
    let a : Ambient := ⟨.split, 0⟩
    let f : RootFinder := { root := ⟨["a"], some 1, none⟩, rules := {} }
    let g : RootFinder := { root := ⟨["b"], some 3, none⟩, rules := {} }
    let l : Loader := { chain := [.root f, .root g] }
    RootFinder.openRoot a "/a" {} [] = .ok f ∧ RootFinder.openRoot a "/b" {} [] = .ok g ∧
      f.resolve a.tree "ns" none = .ok (some (.portions "ns" ["/a/ns"])) ∧
      g.resolve a.tree "ns" none = .ok (some (.artifact
        ⟨"ns", g.root, "ns.src", .source, none⟩ (.cacheThenSource "ns.cache"))) ∧
      g.HoldsUnit a.tree "ns" ∧ l.find a "ns" none = .ok (some (.portions "ns" ["/a/ns"])) := by
  refine ⟨by decide +kernel, by decide +kernel, by decide +kernel, by decide +kernel, ?_,
    by decide +kernel⟩
  exact ⟨by decide +kernel, (.source, ".src"), by decide +kernel, .inl (by decide +kernel)⟩

end UnitLoader
