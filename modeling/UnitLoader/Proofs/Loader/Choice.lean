import UnitLoader.Proofs.Handle
import UnitLoader.Proofs.Loader.Artifacts
import UnitLoader.Proofs.Program.Cache

/-!
# The cache or the source

A unit that has a source and perhaps a cache is loaded from the cache if that was made from the
source as it is, and else from the source. Which of the two it is, is decided by the bytes of the
cache before anything runs. What happens while the program of the cache runs does not change it.

## Main definitions

* `UnitLoader.Handle.Offers` — what there is at the path of a cache.
* `UnitLoader.IsCacheOf` — the bytes of a cache that was made from a source of a given time.

## Main results

* `UnitLoader.Handle.readCache_eq_ok_iff` — a cache is read as a program if it is one of that
  program, made from the source as it is.
* `UnitLoader.Artifact.load_cacheThenSource` — what loading from the cache or the source does.
-/

set_option relaxedAutoImplicit false
set_option autoImplicit false

namespace UnitLoader

open LoadM (exec)

/-! ## What there is at the path of a cache -/

/-- What there is at a path from a handle: a file of certain bytes, or nothing. -/
inductive Handle.Offers (h : Handle) (t : Tree) (path : String) : Option Bytes → Prop
  | file {file : OpenFile} {content : Content} {mtime : Int} (ho : h.openFile t path = .ok file)
      (hn : t.node? file.node = some (.file content mtime)) : Offers h t path (some content.read)
  | nothing {fault : IoFault} (ho : h.openFile t path = .error (.io fault))
      (hf : fault.isNotFound) : Offers h t path none

/-- The bytes of a cache of a program that was made from a source of a given time: the mark of the
format and the low 32 bits of the time, both with the lowest byte first, and a body of the
program. -/
def IsCacheOf (p : Program) (mtime : Int) (bytes : Bytes) : Prop :=
  ∃ body, bytes = [0x43, 0x50, 0x43, 0x01] ++ bytesOfUInt32 (UInt32.ofInt mtime) ++ body ∧
    Program.ofBody? body = some p

/-- A cache of a program is told by its header and what is after it. -/
lemma isCacheOf_iff {p : Program} {mtime : Int} {bytes : Bytes} :
    IsCacheOf p mtime bytes ↔ ¬ bytes.length < 2 * CacheHeader.fieldSize ∧
      CacheHeader.ofBytes bytes = .ofMtime (UInt32.ofInt mtime) ∧
      Program.ofBody? (bytes.drop (2 * CacheHeader.fieldSize)) = some p := by
  constructor
  · rintro ⟨body, rfl, hbody⟩
    have hmagic : [0x43, 0x50, 0x43, 0x01] = bytesOfUInt32 CacheHeader.formatMagic := by decide
    refine ⟨?_, ?_, hbody⟩
    · simp [bytesOfUInt32, CacheHeader.fieldSize]
    · rw [hmagic]
      exact CacheHeader.ofBytes_append (.ofMtime (UInt32.ofInt mtime)) body
  · rintro ⟨hlong, hheader, hbody⟩
    rw [CacheHeader.fieldSize] at hlong
    obtain ⟨hmagic, hmtime⟩ := CacheHeader.mk.inj hheader
    have hfirst : bytes.take 4 = [0x43, 0x50, 0x43, 0x01] := by
      have hlength : (bytes.take 4).length = 4 := by
        rw [List.length_take]
        exact Nat.min_eq_left (by omega)
      have hback := bytesOfUInt32_uint32OfBytes hlength
      exact hback.symm.trans (congrArg bytesOfUInt32 hmagic)
    have hsecond : (bytes.drop 4).take 4 = bytesOfUInt32 (UInt32.ofInt mtime) := by
      have hlength : ((bytes.drop 4).take 4).length = 4 := by
        rw [List.length_take, List.length_drop]
        exact Nat.min_eq_left (by omega)
      have hback := bytesOfUInt32_uint32OfBytes hlength
      exact hback.symm.trans (congrArg bytesOfUInt32 hmtime)
    refine ⟨bytes.drop 8, ?_, hbody⟩
    calc bytes = bytes.take 4 ++ ((bytes.drop 4).take 4 ++ (bytes.drop 4).drop 4) := by
          rw [List.take_append_drop, List.take_append_drop]
      _ = _ := by rw [hfirst, hsecond, List.drop_drop, List.append_assoc]

namespace Handle

variable {h : Handle} {t : Tree} {cache source : String} {mtime : Int} {bytes : Bytes}
  {length : Nat} {p : Program}

/-- A cache is fresh if it records the low bits of the time of its source. -/
lemma ensureFresh_of_file (hs : h.stat t source = .ok (.file length mtime)) (header : CacheHeader)
    (origin : String) :
    h.ensureFresh t source header origin = if UInt32.ofInt mtime = header.sourceMtime then .ok ()
      else .error (.staleCache origin header.sourceMtime (UInt32.ofInt mtime)) := by
  rw [ensureFresh, hs]
  rfl

/-- What reading a cache gives that is there. -/
lemma readCache_of_file {file : OpenFile} (ho : h.openFile t cache = .ok file)
    (hr : t.read file.node = .ok bytes) (hs : h.stat t source = .ok (.file length mtime)) :
    h.readCache t cache (some source) =
      if bytes.length < CacheHeader.fieldSize then
        .error (.corruptCache file.name .truncatedMagic)
      else if (CacheHeader.ofBytes bytes).magic ≠ CacheHeader.formatMagic then
        .error (.corruptCache file.name (.badMagic (CacheHeader.ofBytes bytes).magic))
      else if bytes.length < 2 * CacheHeader.fieldSize then .error (.incompleteCache file.name)
      else if UInt32.ofInt mtime = (CacheHeader.ofBytes bytes).sourceMtime then
        Program.ofCachedBody file.name (bytes.drop (2 * CacheHeader.fieldSize))
      else .error (.staleCache file.name (CacheHeader.ofBytes bytes).sourceMtime
        (UInt32.ofInt mtime)) := by
  have hopen : h.openArtifact t cache = .ok file := by rw [openArtifact, ho]; rfl
  rw [readCache, hopen]
  simp only [bind, Except.bind, hr, CacheHeader.read_content]
  by_cases h₁ : bytes.length < CacheHeader.fieldSize
  · rw [if_pos h₁, if_pos h₁]
    rfl
  by_cases h₂ : (CacheHeader.ofBytes bytes).magic ≠ CacheHeader.formatMagic
  · rw [if_neg h₁, if_neg h₁, if_pos h₂, if_pos h₂]
    rfl
  by_cases h₃ : bytes.length < 2 * CacheHeader.fieldSize
  · rw [if_neg h₁, if_neg h₁, if_neg h₂, if_neg h₂, if_pos h₃, if_pos h₃]
    rfl
  rw [if_neg h₁, if_neg h₁, if_neg h₂, if_neg h₂, if_neg h₃, if_neg h₃]
  simp only [Except.mapError, ensureFresh_of_file hs]
  by_cases h₄ : UInt32.ofInt mtime = (CacheHeader.ofBytes bytes).sourceMtime
  · simp only [if_pos h₄, Stream.readAll_prepend]
  · simp only [if_neg h₄]

/-- A cache is read as a program if it is a cache of that program from the source as it is. -/
theorem readCache_eq_ok_iff {file : OpenFile} (ho : h.openFile t cache = .ok file)
    (hr : t.read file.node = .ok bytes) (hs : h.stat t source = .ok (.file length mtime)) :
    h.readCache t cache (some source) = .ok p ↔ IsCacheOf p mtime bytes := by
  have hbody : Program.ofCachedBody file.name (bytes.drop (2 * CacheHeader.fieldSize)) = .ok p ↔
      Program.ofBody? (bytes.drop (2 * CacheHeader.fieldSize)) = some p := by
    rw [Program.ofCachedBody]
    cases Program.ofBody? (bytes.drop (2 * CacheHeader.fieldSize)) <;> simp
  rw [readCache_of_file ho hr hs, isCacheOf_iff, ← hbody]
  generalize Program.ofCachedBody file.name (bytes.drop (2 * CacheHeader.fieldSize)) = body
  have hheader : CacheHeader.ofBytes bytes = .ofMtime (UInt32.ofInt mtime) ↔
      (CacheHeader.ofBytes bytes).magic = CacheHeader.formatMagic ∧
        (CacheHeader.ofBytes bytes).sourceMtime = UInt32.ofInt mtime := by
    cases CacheHeader.ofBytes bytes
    exact .of_eq (CacheHeader.mk.injEq ..)
  rw [hheader, CacheHeader.fieldSize]
  grind

/-- A cache that cannot be read stands back for the source. -/
lemma isCacheRecoverable_of_readCache {file : OpenFile} {e : LoadError}
    (ho : h.openFile t cache = .ok file) (hr : t.read file.node = .ok bytes)
    (hs : h.stat t source = .ok (.file length mtime))
    (he : h.readCache t cache (some source) = .error e) : e.isCacheRecoverable := by
  have hbody : ∀ {body : Bytes}, Program.ofCachedBody file.name body = .error e →
      e.isCacheRecoverable := by
    intro body hb
    rw [Program.ofCachedBody] at hb
    split at hb <;> cases hb
    rfl
  rw [readCache_of_file ho hr hs] at he
  split_ifs at he
  · cases he; rfl
  · cases he; rfl
  · cases he; rfl
  · exact hbody he
  · cases he; rfl

/-- A source that can be opened by its path is told about by that path. -/
lemma stat_of_openFile {file : OpenFile} {content : Content} (hrights : h.rights = none)
    (ho : h.openFile t source = .ok file)
    (hn : t.node? file.node = some (.file content mtime)) :
    h.stat t source = .ok (.file content.read.length mtime) := by
  obtain ⟨way, hway, -, hreach⟩ := of_openFileMode ho
  have hgrants : h.require .fstat = .ok () := by
    rw [require, grants, hrights]
    rfl
  rw [stat, hway]
  simp only [bind, Except.bind, hgrants, hreach]
  rw [Tree.metadata, hn]
  rfl

end Handle

/-! ## The choice -/

namespace Artifact

variable {t : Tree} {x : Artifact} {cache : String} {content : Content} {mtime : Int}
  {source : OpenFile} {p : Program}

/-- From the cache or the source a program of the cache is read if it is a cache of that program,
and else what the source is read as. -/
lemma read_cacheThenSource {c : Option Bytes} (hrights : x.directory.rights = none)
    (ho : x.directory.openFile t x.path = .ok source)
    (hn : t.node? source.node = some (.file content mtime))
    (hc : x.directory.Offers t cache c) :
    (∀ p, (∃ bytes ∈ c, IsCacheOf p mtime bytes) →
      x.read t (.cacheThenSource cache) = .ok (.compiledCache, p)) ∧
    ((∀ p, ¬ ∃ bytes ∈ c, IsCacheOf p mtime bytes) →
      x.read t (.cacheThenSource cache) = x.read t .source) := by
  have hstat := Handle.stat_of_openFile hrights ho hn
  rw [read, read]
  cases hc with
  | @file file cached cachedMtime hcache hnode =>
    have hread : t.read file.node = .ok cached.read := by
      rw [Tree.read, hnode]
    refine ⟨?_, fun hnone => ?_⟩
    · rintro p ⟨bytes, hbytes, hp⟩
      obtain rfl := Option.some.inj hbytes
      rw [(Handle.readCache_eq_ok_iff hcache hread hstat).2 hp]
    · cases hr : x.directory.readCache t cache (some x.path) with
      | ok p =>
        have hp := (Handle.readCache_eq_ok_iff hcache hread hstat).1 hr
        exact absurd ⟨_, rfl, hp⟩ (hnone p)
      | error e =>
        dsimp only
        rw [if_pos (Handle.isCacheRecoverable_of_readCache hcache hread hstat hr)]
  | @nothing fault hcache hfault =>
    refine ⟨?_, fun _ => ?_⟩
    · rintro p ⟨bytes, hbytes, -⟩
      cases hbytes
    · have hopen : x.directory.openArtifact t cache = .error (.missingArtifact
          (.absent (Path.join x.directory.nameText cache) fault)) := by
        rw [Handle.openArtifact, hcache]
        exact congrArg Except.error (if_pos hfault)
      have hr : x.directory.readCache t cache (some x.path) = .error (.missingArtifact
          (.absent (Path.join x.directory.nameText cache) fault)) := by
        rw [Handle.readCache, hopen]
        rfl
      rw [hr]
      rfl

/-- Beside a source that can be opened, the cache is run as the code of the unit if it was made from
the source as it is, and else the source is. Which of the two it is, is settled before anything
runs: where the program of the cache fails, that is the result, with the unit evicted, whatever the
error is and whatever the source holds.

**Proof sketch.** What the artifact is read as depends on the bytes of the cache and the time of
the source only. They are compared number by number, and every way in which the comparison fails
lets the source stand in. Installing what was read comes after that. -/
theorem load_cacheThenSource (i : Importer) (l : Loader) (c : Option Bytes)
    (hrights : x.directory.rights = none) (ho : x.directory.openFile t x.path = .ok source)
    (hn : t.node? source.node = some (.file content mtime)) (hc : x.directory.Offers t cache c)
    (hfree : l.registry.find? x.name = none) :
    (∀ p, (∃ bytes ∈ c, IsCacheOf p mtime bytes) →
      exec (x.load t i (.cacheThenSource cache)) l = exec (x.install i .compiledCache p) l ∧
      ∀ e l', exec (p.run i l.registry.nextId) (l.begin x .compiledCache) = (.error e, l') →
        exec (x.load t i (.cacheThenSource cache)) l =
          (.error e, (l'.evict x.name).note (.failed x.name l.registry.nextId))) ∧
    ((∀ p, ¬ ∃ bytes ∈ c, IsCacheOf p mtime bytes) →
      exec (x.load t i (.cacheThenSource cache)) l = exec (x.load t i .source) l) := by
  obtain ⟨hcache, hsource⟩ := read_cacheThenSource hrights ho hn hc
  have hs : Strategy.cacheThenSource cache ≠ .nativeLibrary := by simp
  have hload := LoadM.exec_load t (i := i) hfree hs
  refine ⟨fun p hp => ?_, fun hnone => ?_⟩
  · rw [hload, hcache p hp]
    refine ⟨rfl, fun e l' hrun => ?_⟩
    dsimp only
    rw [LoadM.exec_install hfree, hrun]
  · rw [hload, hsource hnone, LoadM.exec_load t hfree (by simp)]

/-- The cache of a source from before the beginning of times imports a unit that is missing. The
source is not run then; it is, if there is nothing at the path of the cache. -/
theorem load_cacheThenSource_missing :
    let p : Program := ⟨[.importUnit "absent" none]⟩
    let stored : Bytes := [0x43, 0x50, 0x43, 0x01, 0xff, 0xff, 0xff, 0xff] ++ p.body
    let t : Tree := ⟨[.directory 0 (.ofList [("m.src", 1), ("m.cache", 2)]) 0,
      .file (.bytes [0x78, 0x3d, 0x31]) (-4294967297),
      .file (.bytes stored) 0]⟩
    let x : Artifact := ⟨"m", ⟨["app"], some 0, none⟩, "m.src", .source, none⟩
    let i : Importer := fun name => throw (.missingArtifact (.unit name))
    (exec (x.load t i (.cacheThenSource "m.cache")) {}).1 =
        .error (.missingArtifact (.unit "absent")) ∧
      exec (x.load t i (.cacheThenSource "other.cache")) {} = exec (x.load t i .source) {} := by
  intro p stored t x i
  have hopen : (x.directory.openFile t "m.src").map (·.node) = .ok 1 := by decide +kernel
  have hopen' : (x.directory.openFile t "m.cache").map (·.node) = .ok 2 := by decide +kernel
  obtain ⟨source, hsource, hs⟩ := Outcome.map_eq_ok.1 hopen
  obtain ⟨file, hcache, hf⟩ := Outcome.map_eq_ok.1 hopen'
  have habsent : (x.directory.openFile t "other.cache").map (·.node) =
      .error (.io (.os .noEntry)) := by decide +kernel
  have hsource' : t.node? source.node = some (.file (.bytes [0x78, 0x3d, 0x31]) (-4294967297)) := by
    rw [hs]
    rfl
  have hcache' : t.node? file.node = some (.file (.bytes stored) 0) := by
    rw [hf]
    rfl
  have hp : IsCacheOf p (-4294967297) stored :=
    ⟨p.body, by rfl, Program.ofBody?_body (by decide) (by decide +kernel)⟩
  refine ⟨?_, ?_⟩
  · have hload := load_cacheThenSource i {} _ rfl hsource hsource' (.file hcache hcache') rfl
    rw [(hload.1 p ⟨_, rfl, hp⟩).2 (.missingArtifact (.unit "absent")) _ rfl]
  · cases hother : x.directory.openFile t "other.cache" with
    | ok other =>
      rw [hother] at habsent
      cases habsent
    | error e =>
      rw [hother] at habsent
      obtain rfl := Except.error.inj habsent
      refine (load_cacheThenSource i {} none rfl hsource hsource' (.nothing hother rfl) rfl).2 ?_
      rintro q ⟨bytes, hbytes, -⟩
      cases hbytes

end Artifact

end UnitLoader
