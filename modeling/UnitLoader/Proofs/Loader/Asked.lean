import UnitLoader.Proofs.Loader.Isolation
import UnitLoader.Proofs.Loader.Placement
import UnitLoader.Proofs.Program.Names

/-!
# What running programs ask for

The programs of sources mention names that can be imported only. A reference to a unit gets into an
attribute when a program imports the unit it refers to, or when a unit that was brought in becomes
an attribute of the one around it; programs may copy it on. So where all code comes from sources,
programs ask for names that can be imported only.

## Main definitions

* `UnitLoader.FindsSources` — whatever program a chain finds is that of a source.
* `UnitLoader.Tree.HasNoCaches` — no file of a tree has the mark of a cache.
* `UnitLoader.Moment.AsksIn` — what is mentioned and what was asked for is among given units.

## Main results

* `UnitLoader.Tree.HasNoCaches.findsSources` — in a tree without caches, sources are found.
* `UnitLoader.Steps.asksIn`, `UnitLoader.Loader.importAll_asksIn` — loads ask for nothing else.
* `UnitLoader.isWellNamed_and_isImportable_of_asked` — names in programs, and those asked for.
-/

set_option relaxedAutoImplicit false
set_option autoImplicit false

namespace UnitLoader

open UnitName (isImportable lineage)

variable {a : Ambient} {chain : List Finder} {U names : List String} {name : String}
  {m m' : Moment} {k : Nat} {l : Loader}

/-! ## Sources -/

/-- Whatever program a chain finds is that of a source. -/
def FindsSources (a : Ambient) (chain : List Finder) : Prop :=
  ∀ name searchPath x strategy kind p,
    findInChain a name searchPath chain = .ok (some (.artifact x strategy)) →
      x.read a.tree strategy = .ok (kind, p) → kind = .source

/-- No file of a tree has the mark of a cache. -/
def Tree.HasNoCaches (t : Tree) : Prop :=
  ∀ content mtime, .file content mtime ∈ t.nodes →
    (CacheHeader.ofBytes content.read).magic ≠ CacheHeader.formatMagic

/-- In a tree without caches no program is read from one. -/
lemma Tree.HasNoCaches.findsSources (h : a.tree.HasNoCaches) (chain : List Finder) :
    FindsSources a chain := by
  intro _ _ x strategy kind p _ hread
  rcases Artifact.read_cases hread with ⟨hkind, -⟩ | ⟨-, cache, source, hcache⟩
  · exact hkind
  · obtain ⟨id, bytes, hbytes, hmagic, -⟩ := Handle.exists_bytes_of_readCache hcache
    obtain ⟨content, mtime, hnode, rfl⟩ := Tree.exists_file_of_read hbytes
    exact absurd hmagic (h content mtime (List.mem_of_getElem? hnode))

/-- The program of a source is well named. -/
lemma Program.isWellNamed_of_ofSource {origin : String} {bytes : Bytes} {p : Program}
    (h : Program.ofSource origin bytes = .ok p) : p.IsWellNamed := by
  unfold Program.ofSource at h
  split at h
  · exact Program.isWellNamed_of_parse (Outcome.mapError_eq_ok.1 h)
  · cases h

/-- The source that is read is a program whose names are well formed. -/
lemma Handle.isWellNamed_of_readSource {h : Handle} {t : Tree} {path : String} {p : Program}
    (hp : h.readSource t path = .ok p) : p.IsWellNamed := by
  obtain ⟨file, -, hp⟩ := Outcome.bind_eq_ok.1 hp
  obtain ⟨bytes, -, hp⟩ := Outcome.bind_eq_ok.1 hp
  exact Program.isWellNamed_of_ofSource hp

/-! ## The names of a run -/

/-- The units around given ones and those that a tree mentions, as far as they can be imported. -/
def Tree.importable (t : Tree) (names : List String) : List String :=
  UnitName.closure ((names ++ t.mentions).filter isImportable)

/-- What is in the list of importable units can be imported. -/
lemma Tree.isImportable_of_mem {t : Tree} (h : name ∈ t.importable names) : isImportable name := by
  obtain ⟨other, hother, hmem⟩ := UnitName.mem_closure_iff.1 h
  exact UnitName.isImportable_of_mem_lineage hmem (List.mem_filter.1 hother).2

/-- Given and mentioned units are in the list if they can be imported. -/
lemma Tree.mem_importable {t : Tree} (h : name ∈ names ++ t.mentions) (hi : isImportable name) :
    name ∈ t.importable names :=
  UnitName.mem_closure_iff.2 ⟨name, List.mem_filter.2 ⟨h, hi⟩, UnitName.self_mem_lineage name⟩

/-- What sources mention can be imported. -/
lemma FindsSources.findsMentionsIn (h : FindsSources a chain) (names : List String) :
    FindsMentionsIn (a.tree.importable names) a chain := by
  intro other searchPath x strategy kind p hfound hread name hname
  have hmem := Artifact.mentions_of_read hread hname
  obtain rfl := h _ _ _ _ _ _ hfound hread
  rcases Artifact.read_cases hread with ⟨-, hsource⟩ | ⟨hkind, -⟩
  · exact Tree.mem_importable (List.mem_append_right _ hmem)
      ((Handle.isWellNamed_of_readSource hsource).isImportable name hname)
  · cases hkind

/-! ## Loads -/

/-- All that is mentioned at a moment, and all that programs asked for before, is among given units.
The finders are those of a given chain. -/
structure Moment.AsksIn (U : List String) (chain : List Finder) (m : Moment) : Prop where
  chain_eq : m.loader.chain = chain
  mentions : m.MentionsIn U
  asked : ∀ name, .asked name ∈ m.loader.history → name ∈ U

/-- What was asked for was asked for before, or it is asked for now. -/
lemma Step.asked_cases (h : Step a k m m') (hasked : .asked name ∈ m'.loader.history) :
    .asked name ∈ m.loader.history ∨ .asking name ∈ m'.frames := by
  cases h with
  | ask _ =>
    rcases List.mem_cons.1 hasked with he | hasked
    · cases he
      exact .inr (List.mem_cons_self ..)
    · exact .inl hasked
  | give _ | begin _ _ _ _ | finish | fail | register _ _ | reregister _ =>
    exact .inl (by simpa using hasked)
  | _ => exact .inl hasked

/-- A step asks only for units that were mentioned before, or that the program it begins
mentions. -/
lemma Step.asksIn (h : Step a k m m') (hU : ∀ name ∈ U, lineage name ⊆ U)
    (hc : FindsMentionsIn U a chain) (hm : m.AsksIn U chain) : m'.AsksIn U chain := by
  obtain ⟨rfl, hmentions, hbefore⟩ := hm
  have hmentions' := h.mentionsIn_of_finds hU hc hmentions
  refine ⟨h.chain_eq, hmentions', fun name hname => ?_⟩
  rcases h.asked_cases hname with hasked | hasking
  · exact hbefore name hasked
  · exact hmentions'.frames _ hasking

/-- Loads ask for units that are mentioned by programs that the chain finds, or were before. -/
theorem Steps.asksIn (h : Steps a m m') (hU : ∀ name ∈ U, lineage name ⊆ U)
    (hc : FindsMentionsIn U a chain) (hm : m.AsksIn U chain) : m'.AsksIn U chain := by
  induction h with
  | refl => exact hm
  | tail _ hstep ih => exact hstep.asksIn hU hc ih

/-! ## Imports one after the other -/

namespace Loader

/-- An import asks only for the unit itself and for units that are mentioned. -/
lemma asksIn_after (hU : ∀ name ∈ U, lineage name ⊆ U) (hc : FindsMentionsIn U a chain)
    (hname : isImportable name → name ∈ U) (hl : Moment.AsksIn U chain ⟨[], l⟩) :
    Moment.AsksIn U chain ⟨[], l.after a name⟩ := by
  by_cases hi : isImportable name
  · have hbegin : Moment.AsksIn U chain ⟨[.asking name], l⟩ := by
      refine ⟨hl.chain_eq, ⟨fun f hf => ?_, hl.mentions.registry, hl.mentions.builtins⟩, hl.asked⟩
      obtain rfl := List.mem_singleton.1 hf
      exact hname hi
    obtain ⟨hchain, hmentions, hasked⟩ := (steps_import? a l name).asksIn hU hc hbegin
    exact ⟨hchain, ⟨nofun, hmentions.registry, hmentions.builtins⟩, hasked⟩
  · rw [after, exec_import?_of_not_isImportable a l hi]
    exact hl

/-- Any number of imports ask for units among given ones if these hold what the chain finds. -/
lemma importAll_asksIn (hU : ∀ name ∈ U, lineage name ⊆ U) (hc : FindsMentionsIn U a chain)
    (hnames : ∀ name ∈ names, isImportable name → name ∈ U)
    (hl : Moment.AsksIn U chain ⟨[], l⟩) :
    Moment.AsksIn U chain ⟨[], (l.importAll a names).2⟩ := by
  induction names generalizing l with
  | nil => exact hl
  | cons name names ih =>
    obtain ⟨hname, hnames⟩ := List.forall_mem_cons.1 hnames
    exact ih hnames (asksIn_after hU hc hname hl)

/-- Nothing is mentioned in a fresh loader. -/
lemma asksIn_fresh (U : List String) (chain : List Finder) :
    Moment.AsksIn U chain ⟨[], { chain }⟩ := by
  refine ⟨rfl, ⟨nofun, fun id => .ofName "", fun name bindings hget b hb => ?_⟩, nofun⟩
  have hplain : ∀ b ∈ Builtins.systemBindings, b.2.mentions = [] := by decide
  simp only [Builtins.standard, Table.get?_insert, Table.get?_empty] at hget
  split at hget
  · obtain rfl := Option.some.inj hget
    rw [hplain b hb]
    exact List.nil_subset U
  · cases hget

end Loader

/-- A program that is parsed binds identifiers, imports by dotted names and has no reference to a
unit among its literals. Where all programs that are found are those of sources, running programs
ask for names that can be imported only, however many units are imported in a fresh loader.

**Proof sketch.** Identifiers hold no character that keeps a segment from being looked up, so that
sources mention names that can be imported. Those names, with the units around them, are an
invariant of loads: a step puts references to them only into attributes, and programs ask for what
they mention or what an attribute refers to. -/
theorem isWellNamed_and_isImportable_of_asked :
    (∀ (text : List Char) (p : Program), Program.parse text = .ok p → p.IsWellNamed) ∧
    ∀ (a : Ambient) (chain : List Finder), FindsSources a chain →
      ∀ (names : List String) (name : String),
        .asked name ∈ (({ chain } : Loader).importAll a names).2.history → isImportable name := by
  refine ⟨fun text p h => Program.isWellNamed_of_parse h, fun a chain hf names name hasked => ?_⟩
  have hfresh := Loader.asksIn_fresh (a.tree.importable names) chain
  have hrun := Loader.importAll_asksIn (fun _ h => UnitName.lineage_subset_closure h)
    (hf.findsMentionsIn names)
    (fun n hn hi => Tree.mem_importable (List.mem_append_left _ hn) hi) hfresh
  exact Tree.isImportable_of_mem (hrun.asked name hasked)

/-- A package imports a child of itself and reads an attribute of it by its name. It asks for the
child twice. -/
theorem isWellNamed_and_isImportable_of_asked_package :
    let text := "from p import c\ny = c.x"
    let a : Ambient := ⟨.package text "x = 1", Tree.root⟩
    let chain : List Finder := [.ambient ["/"] {}]
    let history := (({ chain } : Loader).importAll a ["p"]).2.history
    (∃ p, Program.parse text.toList = .ok p ∧ p.statements.length = 2 ∧ p.IsWellNamed) ∧
      FindsSources a chain ∧ history.count (.asked "p.c") = 2 ∧ isImportable "p.c" := by
  intro text a chain history
  obtain ⟨hparsed, hasked⟩ := isWellNamed_and_isImportable_of_asked
  have hcaches : a.tree.HasNoCaches := by
    intro content mtime hmem
    obtain ⟨rfl, -⟩ | ⟨rfl, -⟩ : content = .bytes (Text.Utf8.encode text.toList) ∧ mtime = 0 ∨
        content = .bytes (Text.Utf8.encode "x = 1".toList) ∧ mtime = 0 := by
      simpa [a, Tree.package] using hmem
    · decide +kernel
    · decide +kernel
  have hf : FindsSources a chain := hcaches.findsSources chain
  have htwice : history.count (.asked "p.c") = 2 := by decide +kernel
  have hmem : .asked "p.c" ∈ history := List.count_pos_iff.1 (by rw [htwice]; decide)
  have htwo : (Program.parse text.toList).map (·.statements.length) = .ok 2 := by decide +kernel
  obtain ⟨p, hp, hlength⟩ := Outcome.map_eq_ok.1 htwo
  exact ⟨⟨p, hp, hlength, hparsed _ p hp⟩, hf, htwice, hasked a chain hf ["p"] "p.c" hmem⟩

end UnitLoader
