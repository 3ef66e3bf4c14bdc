import UnitLoader.Cache.Header
import UnitLoader.Program.Parser
import UnitLoader.Proofs.Handle
import UnitLoader.Proofs.Mention
import UnitLoader.Proofs.Program.Body

/-!
# Caches are read back

A cache is read as its header and its program, unless the body of the program cannot be read. Such
caches are written: the unit language has literals for which the body has none.

## Main results

* `UnitLoader.uint32OfBytes_bytesOfUInt32`, `UnitLoader.bytesOfUInt32_uint32OfBytes` — a number is
  read from its four bytes, and these from the number.
* `UnitLoader.Program.ofBody?_body` — a program is read from its body.
* `UnitLoader.Program.ofBody?_body_of_ofBody?` — whatever is read as a program can be written again.
* `UnitLoader.readCacheStream_toCache` — what is read of the cache of a program.
-/

set_option relaxedAutoImplicit false
set_option autoImplicit false

namespace UnitLoader

open Json (ofText)

/-! ## Bodies -/

/-- The body of a storable program is read as the program. -/
theorem Program.ofBody?_body {p : Program} (hp : p.IsStorable) (hback : p.FloatsReadBack) :
    Program.ofBody? p.body = some p := by
  rw [Program.ofBody?_body_eq hback, if_pos hp]

/-- A list with a double, a text with a quote and a nested list, and an import. -/
theorem Program.ofBody?_body_list :
    let p : Program := ⟨[.assign "x" (.literal (.list [.float ⟨0x3fe0000000000000⟩, .str "\"",
      .list [.int (-5), .unit "m"]])), .importUnit "m" none]⟩
    Program.ofBody? p.body = some p :=
  Program.ofBody?_body (by decide) (by decide +kernel)

/-- Whatever is read as a program, in whatever spelling, is written as a body that is read as the
same program.

**Proof sketch.** What is read from bytes is storable: a reader that takes no numbers out of range
gives finite doubles, and it takes nothing that nests too deep. -/
theorem Program.ofBody?_body_of_ofBody? {bytes : Bytes} {p : Program}
    (h : Program.ofBody? bytes = some p) (hback : p.FloatsReadBack) :
    Program.ofBody? p.body = some p := by
  rw [Program.ofBody?_body_eq hback, if_pos (Program.isStorable_of_ofBody? h)]

/-- A body of arrays, with one tag by its place and an integer for a double. -/
theorem Program.ofBody?_body_of_ofBody?_arrays :
    let p : Program := ⟨[.assign "x" (.literal (.float ⟨0x4014000000000000⟩))]⟩
    Program.ofBody? p.body = some p := by
  let five : Json := .array [.ofText "Float", .number (some (.integer 5))]
  let s : Json := .array [.ofText "Assign", .ofText "x", .array [.number (some (.integer 0)), five]]
  have hlegible : (Json.array [.array [s]]).written.IsLegible := by
    have hnumber : (Json.Number.integer 0).ReadsBack ∧ (Json.Number.integer 5).ReadsBack := by
      decide
    simpa [s, five, Json.IsLegible, Json.written, Json.writtenItems, Json.toTokens,
      Json.itemTokens, Json.Token.ReadsBack] using hnumber
  have hvalue : Value.ofJson? five = some (.float ⟨0x4014000000000000⟩) := by
    have htag : five.tagged? Value.tags = some ("Float", some (.number (some (.integer 5)))) := rfl
    have hfive : (Json.Number.integer 5).toBinary64 = ⟨0x4014000000000000⟩ := by decide +kernel
    rw [Value.ofJson?_scalar htag (by decide), ← hfive]
    rfl
  have hstatement : Statement.ofJson? s =
      some (.assign "x" (.literal (.float ⟨0x4014000000000000⟩))) := by
    have hread : Statement.ofJson? s =
        ((Value.ofJson? five).map .literal).map (.assign "x") := rfl
    rw [hread, hvalue]
    rfl
  have hread : Program.ofBody? (Text.Utf8.encode (Json.print (.array [.array [s]]))) =
      some ⟨[.assign "x" (.literal (.float ⟨0x4014000000000000⟩))]⟩ := by
    have hwritten : (Json.array [.array [s]]).written = .array [.array [s]] := rfl
    have hbound : ((Json.array [s]).isReadable && (Json.array [s]).depth < Program.maxDepth) =
      true := rfl
    rw [Program.ofBody?, Json.readBytes?_encode_print hlegible, hwritten, Option.bind_some,
      Program.ofJson?, Program.ofStatements?, if_pos hbound, List.mapM_cons, hstatement]
    rfl
  exact Program.ofBody?_body_of_ofBody? hread (by decide +kernel)

/-! ## Headers -/

/-- A byte below a number. -/
lemma toNat_shiftLeft_or (n : UInt32) (b : UInt8) :
    (n <<< 8 ||| b.toUInt32).toNat = n.toNat * 256 % 2 ^ 32 + b.toNat := by
  have hb : b.toNat < 2 ^ 8 := b.toNat_lt
  have hshift : n.toNat * 256 % 2 ^ 32 = (n.toNat % 2 ^ 24) <<< 8 := by
    rw [Nat.shiftLeft_eq]
    omega
  rw [UInt32.toNat_or, UInt32.toNat_shiftLeft, UInt8.toNat_toUInt32, hshift,
    Nat.shiftLeft_add_eq_or_of_lt hb]
  congr 1
  rw [← hshift, Nat.shiftLeft_eq]
  rfl

/-- A number is read from its four bytes. -/
theorem uint32OfBytes_bytesOfUInt32 (n : UInt32) : uint32OfBytes (bytesOfUInt32 n) = n := by
  have hn : n.toNat < 2 ^ 32 := n.toNat_lt
  rw [← UInt32.toNat_inj]
  simp only [uint32OfBytes, bytesOfUInt32, List.foldr_cons, List.foldr_nil, toNat_shiftLeft_or,
    UInt32.toNat_toUInt8, UInt32.toNat_shiftRight, Nat.shiftRight_eq_div_pow, UInt32.reduceToNat,
    Nat.reduceMod, Nat.reducePow]
  omega

/-- Four bytes are read back from the number that is read from them. -/
theorem bytesOfUInt32_uint32OfBytes {bytes : Bytes} (h : bytes.length = CacheHeader.fieldSize) :
    bytesOfUInt32 (uint32OfBytes bytes) = bytes := by
  obtain ⟨b₀, b₁, b₂, b₃, rfl⟩ : ∃ b₀ b₁ b₂ b₃, bytes = [b₀, b₁, b₂, b₃] := by
    match bytes, h with
    | [b₀, b₁, b₂, b₃], _ => exact ⟨b₀, b₁, b₂, b₃, rfl⟩
  have h₀ := b₀.toNat_lt
  have h₁ := b₁.toNat_lt
  have h₂ := b₂.toNat_lt
  have h₃ := b₃.toNat_lt
  have hvalue : (uint32OfBytes [b₀, b₁, b₂, b₃]).toNat =
      b₀.toNat + 256 * (b₁.toNat + 256 * (b₂.toNat + 256 * b₃.toNat)) := by
    simp only [uint32OfBytes, List.foldr_cons, List.foldr_nil, toNat_shiftLeft_or]
    simp only [UInt32.toNat_zero, Nat.reducePow] at *
    omega
  simp only [bytesOfUInt32, List.cons.injEq, ← UInt8.toNat_inj, UInt32.toNat_toUInt8,
    UInt32.toNat_shiftRight, Nat.shiftRight_eq_div_pow, UInt32.reduceToNat, Nat.reduceMod,
    Nat.reducePow, hvalue, and_true] at *
  omega

namespace CacheHeader

/-- A header is read back from its bytes. -/
lemma ofBytes_append (header : CacheHeader) (bytes : Bytes) :
    ofBytes (header.toBytes ++ bytes) = header :=
  congrArg₂ mk (uint32OfBytes_bytesOfUInt32 header.magic)
    (uint32OfBytes_bytesOfUInt32 header.sourceMtime)

/-- A header is read from the front of a content. -/
lemma read_append (path : String) (mtime : UInt32) (bytes : Bytes) :
    CacheHeader.read path [.data ((ofMtime mtime).toBytes ++ bytes)] =
      .ok (ofMtime mtime, Stream.prepend bytes []) := by
  have hlength : ((ofMtime mtime).toBytes ++ bytes).length = 2 * fieldSize + bytes.length := by
    rw [List.length_append]
    rfl
  have hread := read_content path ((ofMtime mtime).toBytes ++ bytes)
  rw [if_neg (by rw [hlength, fieldSize]; omega), ofBytes_append, if_neg (by simp [ofMtime]),
    if_neg (by rw [hlength]; omega)] at hread
  exact hread

end CacheHeader

/-! ## Caches -/

/-- A cache is read as its header and what its body is read as. -/
lemma readCacheStream_data (p : Program) (path : String) (mtime : UInt32) :
    readCacheStream path [.data (p.toCache mtime)] =
      (Program.ofCachedBody path p.body).map fun q => (.ofMtime mtime, q) := by
  rw [readCacheStream, Program.toCache, CacheHeader.read_append]
  generalize p.body = body
  simp only [bind, Except.bind, Stream.readAll_prepend, Except.mapError]
  cases Program.ofCachedBody path body <;> rfl

/-- What is compiled is the program that is read, with the time of the source. -/
lemma Handle.of_compileSource {h : Handle} {t : Tree} {path : String} {bytes : Bytes}
    (hc : h.compileSource t path = .ok bytes) :
    ∃ way id content since p, way ≠ [] ∧ h.relative path = .ok way ∧ h.reach t way = .ok id ∧
      t.node? id = some (.file content since) ∧ h.stat t path = .ok (t.metadata id) ∧
      h.readSource t path = .ok p ∧ (∀ origin, Program.ofSource origin content.read = .ok p) ∧
      bytes = p.toCache (t.metadata id).mtimeLow := by
  obtain ⟨file, hfile, hc⟩ := Outcome.bind_eq_ok.1 hc
  obtain ⟨read, hread, hc⟩ := Outcome.bind_eq_ok.1 hc
  obtain ⟨p, hp, hc⟩ := Outcome.bind_eq_ok.1 hc
  obtain ⟨m, hm, hbytes⟩ := Outcome.bind_eq_ok.1 hc
  obtain ⟨way, hway, -, hid⟩ := of_openFileMode hfile
  obtain ⟨way', id', hway', hid', rfl⟩ := of_stat hm
  obtain rfl := Except.ok.inj (hway.symm.trans hway')
  obtain rfl := Except.ok.inj (hid.symm.trans hid')
  have hne : way ≠ [] := by
    rintro rfl
    have hletters : "rb".toList.filter isRefusedLetter = [] := by decide
    rw [openFile, openFileMode_eq, if_neg (not_not.2 hletters), hway] at hfile
    cases hfile
  have hsource : h.readSource t path = .ok p := by
    rw [readSource, openArtifact, hfile]
    simp only [Except.mapError, bind, Except.bind, Outcome.mapError_eq_ok.1 hread]
    exact Program.ofSource_of_ok _ hp
  obtain ⟨content, since, hnode, rfl⟩ := Tree.exists_file_of_read (Outcome.mapError_eq_ok.1 hread)
  exact ⟨way, _, content, since, p, hne, hway, hid, hnode, hm, hsource,
    fun other => Program.ofSource_of_ok other hp, (Except.ok.inj hbytes).symm⟩

/-- The cache of a program is compared with a source by the time that it records, and then read as
its body is. -/
lemma Handle.readCache_toCache {h : Handle} {t : Tree} {cache : String} {file : OpenFile}
    {p : Program} {mtime : UInt32} (hfile : h.openArtifact t cache = .ok file)
    (hbytes : t.read file.node = .ok (p.toCache mtime)) (source : String) :
    h.readCache t cache (some source) =
      h.ensureFresh t source (.ofMtime mtime) file.name >>= fun _ =>
        Program.ofCachedBody file.name p.body := by
  rw [readCache, hfile]
  simp only [bind, Except.bind, hbytes, Stream.ofRead, Program.toCache]
  generalize p.body = body
  simp only [CacheHeader.read_append, Except.mapError, Stream.readAll_prepend]

/-- What is read of the cache of a program: its header and the program if the program is storable,
and else that the body cannot be decoded.

**Proof sketch.** The header is read back byte by byte. The body is written as text that is read token
by token; an infinity is written `null`, which is no number, and the reader gives up on a value that
nests too deep. -/
theorem readCacheStream_toCache {p : Program} (hback : p.FloatsReadBack) (path : String)
    (mtime : UInt32) :
    readCacheStream path [.data (p.toCache mtime)] =
      if p.IsStorable then .ok (.ofMtime mtime, p)
      else .error (.corruptCache path .undecodable) := by
  rw [readCacheStream_data, Program.ofCachedBody, Program.ofBody?_body_eq hback]
  by_cases hp : p.IsStorable <;> simp only [hp, if_true, if_false] <;> rfl

/-- The cache of an assignment of a half. -/
theorem readCacheStream_toCache_half :
    let p : Program := ⟨[.assign "x" (.literal (.float ⟨0x3fe0000000000000⟩))]⟩
    readCacheStream "m.cache" [.data (p.toCache 7)] = .ok (.ofMtime 7, p) :=
  (readCacheStream_toCache (by decide +kernel) _ _).trans (if_pos (by decide))

/-- A source with a literal beyond all doubles is compiled to a cache that its own reader rejects. -/
theorem readCacheStream_toCache_infinite : ∃ p : Program,
    Program.parse "x = 1.0e999".toList = .ok p ∧ p.FloatsReadBack ∧
      readCacheStream "m.cache" [.data (p.toCache 7)] =
        .error (.corruptCache "m.cache" .undecodable) := by
  have hok : (Program.parse "x = 1.0e999".toList).toOption.any
      (fun p => decide (p.FloatsReadBack ∧ ¬ p.IsStorable)) = true := by
    decide +kernel
  cases hp : Program.parse "x = 1.0e999".toList with
  | error e =>
    rw [hp] at hok
    cases hok
  | ok p =>
    rw [hp] at hok
    obtain ⟨hback, hnot⟩ : p.FloatsReadBack ∧ ¬ p.IsStorable := of_decide_eq_true hok
    refine ⟨p, rfl, hback, ?_⟩
    rw [readCacheStream_data, Program.ofCachedBody, Program.ofBody?_body_eq hback, if_neg hnot]
    rfl

end UnitLoader
