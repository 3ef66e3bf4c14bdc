import Mathlib.Data.List.Basic
import UnitLoader.Loader.Import
import UnitLoader.Proofs.Loader.Moment

/-!
# The units that a tree mentions

Whatever program an artifact is read as, from its source or from its cache, is the program of a file
of the tree. So all that a program that was read mentions is mentioned by the tree.

## Main definitions

* `UnitLoader.CacheHeader.ofBytes` — the header that bytes begin with.

## Main results

* `UnitLoader.CacheHeader.read_content` — the header of a content, or what is wrong with it.
* `UnitLoader.Artifact.read_cases` — what is read is the program of a source or of a cache.
* `UnitLoader.Artifact.mentions_of_read` — programs that are read mention what the tree mentions.
-/

set_option relaxedAutoImplicit false
set_option autoImplicit false

namespace UnitLoader

/-! ## The body of a cache -/

namespace Stream

variable {bytes : Bytes}

/-- From what is left of a single chunk bytes are taken as from the chunk. -/
lemma take_prepend {k : Nat} (hk : 0 < k) :
    take k (prepend bytes []) = .ok (if k ≤ bytes.length then
      some (bytes.take k, prepend (bytes.drop k) []) else none) := by
  unfold prepend
  split
  · next h => simp [h, take, Nat.ne_of_gt hk, Nat.not_le.2 hk]
  · exact take_singleton k bytes hk

/-- All bytes of what is left of a single chunk are those that are left. -/
lemma readAll_prepend : readAll (prepend bytes []) = .ok bytes := by
  unfold prepend
  split
  · next h => rw [h]; rfl
  · exact readAll_singleton bytes

end Stream

namespace CacheHeader

/-- The header that bytes begin with, if they are enough for one. -/
def ofBytes (bytes : Bytes) : CacheHeader :=
  ⟨uint32OfBytes (bytes.take fieldSize), uint32OfBytes ((bytes.drop fieldSize).take fieldSize)⟩

/-- The number at the front of what is left of a content. -/
lemma readField_prepend (bytes : Bytes) :
    readField (Stream.prepend bytes []) = .ok (if fieldSize ≤ bytes.length then
      some (uint32OfBytes (bytes.take fieldSize), Stream.prepend (bytes.drop fieldSize) [])
      else none) := by
  rw [readField, Stream.take_prepend (by decide)]
  by_cases h : fieldSize ≤ bytes.length <;> simp only [h, if_true, if_false] <;> rfl

/-- The header of a content, or what is wrong with it. -/
lemma read_content (path : String) (bytes : Bytes) :
    CacheHeader.read path (.ofRead (.ok bytes)) =
      if bytes.length < fieldSize then .error (.corruptCache path .truncatedMagic)
      else if (ofBytes bytes).magic ≠ formatMagic then
        .error (.corruptCache path (.badMagic (ofBytes bytes).magic))
      else if bytes.length < 2 * fieldSize then .error (.incompleteCache path)
      else .ok (ofBytes bytes, Stream.prepend (bytes.drop (2 * fieldSize)) []) := by
  have hchunk : readField (.ofRead (.ok bytes)) = readField (Stream.prepend bytes []) := by
    have htake := Stream.take_singleton fieldSize bytes (by decide)
    rw [readField, readField, Stream.take_prepend (by decide), ← htake]
    rfl
  have hlong : fieldSize ≤ (bytes.drop fieldSize).length ↔ ¬ bytes.length < 2 * fieldSize := by
    rw [List.length_drop, fieldSize]
    omega
  rw [CacheHeader.read, hchunk, readField_prepend]
  by_cases hshort : bytes.length < fieldSize
  · rw [if_neg (Nat.not_le.2 hshort), if_pos hshort]
    rfl
  rw [if_pos (Nat.not_lt.1 hshort), if_neg hshort]
  by_cases hmagic : (ofBytes bytes).magic ≠ formatMagic
  · rw [if_pos hmagic]
    exact if_pos hmagic
  rw [if_neg hmagic]
  refine (if_neg hmagic).trans ?_
  simp only [bind, Except.bind, readField_prepend, hlong, List.drop_drop, ← Nat.two_mul]
  by_cases hend : bytes.length < 2 * fieldSize <;>
    simp only [hend, if_true, if_false, not_true_eq_false, not_false_eq_true] <;> rfl

/-- A header is read from a content only. -/
lemma exists_of_read {path : String} {content : Except IoFault Bytes} {header : CacheHeader}
    {rest : Stream} (h : CacheHeader.read path (.ofRead content) = .ok (header, rest)) :
    ∃ bytes, content = .ok bytes := by
  cases content with
  | ok bytes => exact ⟨bytes, rfl⟩
  | error fault =>
    obtain ⟨first, hfirst, h⟩ := Outcome.bind_eq_ok.1 h
    cases hf : fault.isInterruption with
    | false => simp [readField, Stream.ofRead, Stream.take, hf, fieldSize] at hfirst
    | true =>
      obtain rfl : none = first := by
        simpa [readField, Stream.ofRead, Stream.take, hf, fieldSize] using hfirst
      cases h

/-- A header that is read has the mark of the format, and after it comes the body. -/
lemma of_read {path : String} {bytes : Bytes} {header : CacheHeader} {rest : Stream}
    (h : CacheHeader.read path (.ofRead (.ok bytes)) = .ok (header, rest)) :
    (ofBytes bytes).magic = formatMagic ∧ rest.readAll = .ok (bytes.drop (2 * fieldSize)) := by
  rw [read_content] at h
  split_ifs at h with _ hmagic
  cases h
  exact ⟨not_not.1 hmagic, Stream.readAll_prepend⟩

end CacheHeader

/-! ## Programs that are read -/

/-- It does not matter where a source comes from. -/
lemma Program.ofSource_of_ok {origin : String} {bytes : Bytes} {p : Program} (other : String)
    (h : Program.ofSource origin bytes = .ok p) : Program.ofSource other bytes = .ok p := by
  unfold Program.ofSource at h ⊢
  split at h
  · exact Outcome.mapError_eq_ok.2 (Outcome.mapError_eq_ok.1 h)
  · cases h

namespace Tree

variable {t : Tree} {id : NodeId} {bytes : Bytes} {p : Program}

/-- What is read is the content of a file. -/
lemma exists_file_of_read (h : t.read id = .ok bytes) :
    ∃ content mtime, t.node? id = some (.file content mtime) ∧ content.read = bytes := by
  unfold Tree.read at h
  split at h
  · next content mtime hnode => exact ⟨content, mtime, hnode, Except.ok.inj h⟩
  · cases h

/-- A tree mentions what its sources mention. -/
lemma mentions_of_source (h : t.read id = .ok bytes) {origin : String}
    (hp : Program.ofSource origin bytes = .ok p) : p.mentions ⊆ t.mentions := by
  obtain ⟨content, mtime, hnode, rfl⟩ := exists_file_of_read h
  intro name hname
  refine List.mem_flatMap.2 ⟨_, List.mem_of_getElem? hnode, ?_⟩
  simp [Program.ofSource_of_ok "" hp, hname]

/-- A tree mentions what its caches mention. -/
lemma mentions_of_body (h : t.read id = .ok bytes)
    (hp : Program.ofBody? (bytes.drop (2 * CacheHeader.fieldSize)) = some p) :
    p.mentions ⊆ t.mentions := by
  obtain ⟨content, mtime, hnode, rfl⟩ := exists_file_of_read h
  intro name hname
  refine List.mem_flatMap.2 ⟨_, List.mem_of_getElem? hnode, ?_⟩
  simp [hp, hname]

end Tree

variable {handle : Handle} {t : Tree} {path : String} {p : Program}

/-- A source that is read mentions no more than its tree does. -/
lemma Handle.mentions_of_readSource (h : handle.readSource t path = .ok p) :
    p.mentions ⊆ t.mentions := by
  obtain ⟨file, -, h⟩ := Outcome.bind_eq_ok.1 h
  obtain ⟨bytes, hread, h⟩ := Outcome.bind_eq_ok.1 h
  exact Tree.mentions_of_source (Outcome.mapError_eq_ok.1 hread) h

/-- A cache that is read is a file with the mark of the format and a body. -/
lemma Handle.exists_bytes_of_readCache {source : Option String}
    (h : handle.readCache t path source = .ok p) :
    ∃ id bytes, t.read id = .ok bytes ∧
      (CacheHeader.ofBytes bytes).magic = CacheHeader.formatMagic ∧
      Program.ofBody? (bytes.drop (2 * CacheHeader.fieldSize)) = some p := by
  obtain ⟨file, -, h⟩ := Outcome.bind_eq_ok.1 h
  obtain ⟨⟨header, rest⟩, hheader, h⟩ := Outcome.bind_eq_ok.1 h
  obtain ⟨bytes, hread⟩ := CacheHeader.exists_of_read (Outcome.mapError_eq_ok.1 hheader)
  rw [hread] at hheader
  obtain ⟨hmagic, hrest⟩ := CacheHeader.of_read (Outcome.mapError_eq_ok.1 hheader)
  dsimp only at h
  rw [hrest] at h
  have hp : Program.ofCachedBody file.name (bytes.drop (2 * CacheHeader.fieldSize)) = .ok p := by
    cases source with
    | none => exact h
    | some source =>
      obtain ⟨-, -, h⟩ := Outcome.bind_eq_ok.1 h
      exact h
  refine ⟨file.node, bytes, hread, hmagic, ?_⟩
  unfold Program.ofCachedBody at hp
  split at hp
  · next hbody =>
    cases hp
    exact hbody
  · cases hp

/-- What an artifact is read as is the program of its source or the program of a cache. -/
lemma Artifact.read_cases {artifact : Artifact} {strategy : Strategy} {kind : ArtifactKind}
    (h : artifact.read t strategy = .ok (kind, p)) :
    (kind = .source ∧ artifact.directory.readSource t artifact.path = .ok p) ∨
      kind = .compiledCache ∧
        ∃ cache source, artifact.directory.readCache t cache source = .ok p := by
  have hsource : (do return (.source, ← artifact.directory.readSource t artifact.path)) =
      (.ok (kind, p) : Outcome _) →
      kind = .source ∧ artifact.directory.readSource t artifact.path = .ok p := by
    intro h
    obtain ⟨p', hp, h⟩ := Outcome.bind_eq_ok.1 h
    cases h
    exact ⟨rfl, hp⟩
  cases strategy with
  | source => exact .inl (hsource h)
  | compiledCache source =>
    obtain ⟨p', hp, h⟩ := Outcome.bind_eq_ok.1 h
    cases h
    exact .inr ⟨rfl, _, _, hp⟩
  | cacheThenSource cache =>
    rw [Artifact.read] at h
    split at h
    · next hp =>
      cases h
      exact .inr ⟨rfl, _, _, hp⟩
    · split at h
      · exact .inl (hsource h)
      · cases h
  | nativeLibrary => cases h

/-- Programs that are read mention what the tree mentions. -/
theorem Artifact.mentions_of_read {artifact : Artifact} {strategy : Strategy}
    {kind : ArtifactKind} (h : artifact.read t strategy = .ok (kind, p)) :
    p.mentions ⊆ t.mentions := by
  rcases Artifact.read_cases h with ⟨-, hsource⟩ | ⟨-, cache, source, hcache⟩
  · exact Handle.mentions_of_readSource hsource
  · obtain ⟨id, bytes, hread, -, hbody⟩ := Handle.exists_bytes_of_readCache hcache
    exact Tree.mentions_of_body hread hbody

end UnitLoader
