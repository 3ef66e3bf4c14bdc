import UnitLoader.Proofs.Program.Cache

/-!
# How a cache is delivered does not matter

The reader of a cache takes two fields from the front of a stream and then all that is left. It goes
on where a chunk ends within a field, where a field ends within a chunk, and after interruptions. So
only the bytes matter that a stream delivers, and at what byte another failure meets the reader.

## Main definitions

* `UnitLoader.Stream.Delivers` — what bytes a stream delivers, in whatever chunks.
* `UnitLoader.Stream.Ends` — a stream is over, without or with a failure.
* `UnitLoader.readCacheBytes` — the header and the program of bytes.

## Main results

* `UnitLoader.Stream.take_append_of_le`, `UnitLoader.Stream.take_append_of_lt` — bytes are taken
  across chunks and interruptions.
* `UnitLoader.readCacheStream_append` — what is read of a stream that delivers bytes and then ends.
* `UnitLoader.readCacheStream_of_delivers` — a cache is read alike however it is delivered, and a
  failure shows unless the mark of the format was found wrong before.
-/

set_option relaxedAutoImplicit false
set_option autoImplicit false

namespace UnitLoader

namespace Stream

/-- A stream delivers bytes: in chunks that are not empty, with interruptions before, between and
after them. -/
inductive Delivers : Stream → Bytes → Prop
  | nil : Delivers [] []
  | interruption {fault : IoFault} {s : Stream} {bytes : Bytes}
      (hfault : fault.isInterruption = true) (h : Delivers s bytes) :
      Delivers (.failure fault :: s) bytes
  | chunk {front : Bytes} {s : Stream} {bytes : Bytes}
      (hfront : front ≠ []) (h : Delivers s bytes) :
      Delivers (.data front :: s) (front ++ bytes)

/-- A stream gives no byte more, for the reason that is given. -/
structure Ends (t : Stream) (reason : Except IoFault Unit) : Prop where
  take {n : ℕ} (hn : 0 < n) : t.take n = reason.map fun _ => none
  readAll : t.readAll = reason.map fun _ => []

/-- An empty stream has ended well. -/
lemma ends_nil : Ends [] (.ok ()) :=
  ⟨fun hn => by simp [take, Except.map, Nat.ne_of_gt hn], rfl⟩

/-- A chunk without bytes is the end of a stream. -/
lemma ends_empty (rest : Stream) : Ends (.data [] :: rest) (.ok ()) :=
  ⟨fun hn => by simp [take, Except.map, Nat.ne_of_gt hn], rfl⟩

/-- A failure that is no interruption is the end of a stream. -/
lemma ends_failure {fault : IoFault} (hfault : fault.isInterruption = false) (rest : Stream) :
    Ends (.failure fault :: rest) (.error fault) :=
  ⟨fun hn => by simp [take, Except.map, Nat.ne_of_gt hn, hfault],
    by simp [readAll, Except.map, hfault]⟩

/-- Taking no bytes leaves a stream as it is. -/
lemma take_zero (s : Stream) : s.take 0 = .ok (some ([], s)) := by
  cases s <;> rfl

/-- What is left of a chunk is delivered like another chunk. -/
lemma Delivers.prepend {s : Stream} {bytes : Bytes} (front : Bytes) (h : s.Delivers bytes) :
    (s.prepend front).Delivers (front ++ bytes) := by
  unfold Stream.prepend
  split
  · next hfront => rwa [hfront, List.nil_append]
  · next hfront => exact .chunk hfront h

/-- Bytes in front of a stream are in front of what comes after it. -/
lemma prepend_append (front : Bytes) (s t : Stream) :
    prepend front s ++ t = prepend front (s ++ t) := by
  unfold prepend
  split <;> rfl

/-- From a chunk that is longer, bytes are taken, and what is left comes before the rest. -/
lemma take_data_of_le {n : ℕ} {front : Bytes} (hn : 0 < n) (h : n ≤ front.length) (s : Stream) :
    take n (.data front :: s) =
      .ok (some (front.take n, prepend (front.drop n) s)) := by
  cases front with
  | nil => exact absurd h (Nat.not_le.2 hn)
  | cons b bs => simp only [take, Nat.ne_of_gt hn, h, if_true, if_false]

/-- A chunk that is shorter is taken, and what is missing from the rest. -/
lemma take_data_of_lt {n : ℕ} {front : Bytes} (hfront : front ≠ []) (h : front.length < n)
    (s : Stream) :
    take n (.data front :: s) = (take (n - front.length) s).map fun taken =>
      taken.map fun (more, rest) => (front ++ more, rest) := by
  cases front with
  | nil => exact absurd rfl hfront
  | cons b bs => simp only [take, Nat.ne_of_gt (Nat.zero_lt_of_lt h), Nat.not_le.2 h, if_false]

/-- An interruption is passed over when bytes are taken. -/
lemma take_interruption {n : ℕ} {fault : IoFault} (hn : 0 < n)
    (hfault : fault.isInterruption = true) (s : Stream) :
    take n (.failure fault :: s) = take n s := by
  simp only [take, Nat.ne_of_gt hn, hfault, if_true, if_false]

variable {s t : Stream} {bytes : Bytes} {reason : Except IoFault Unit}

/-- As many bytes as a stream delivers can be taken from it, whatever follows, and the others are
delivered then. -/
lemma take_append_of_le (h : s.Delivers bytes) (t : Stream) : ∀ n ≤ bytes.length,
    ∃ s' : Stream, s'.Delivers (bytes.drop n) ∧
      take n (s ++ t) = .ok (some (bytes.take n, s' ++ t)) := by
  intro n hn
  -- Nothing is taken as long as nothing is missing, not even an interruption.
  rcases Nat.eq_zero_or_pos n with rfl | hpos
  · exact ⟨s, h, take_zero _⟩
  induction h generalizing n with
  | nil => exact absurd hn (Nat.not_le.2 hpos)
  | @interruption fault s bytes hfault h ih =>
    rw [List.cons_append, take_interruption hpos hfault]
    exact ih n hn hpos
  | @chunk front s bytes hfront h ih =>
    rw [List.cons_append]
    by_cases hle : n ≤ front.length
    · refine ⟨prepend (front.drop n) s, ?_, ?_⟩
      · rw [List.drop_append_of_le_length hle]
        exact h.prepend _
      · rw [take_data_of_le hpos hle, List.take_append_of_le_length hle, prepend_append]
    · have hlt : front.length < n := Nat.not_le.1 hle
      have hrest : n - front.length ≤ bytes.length := by
        rw [List.length_append] at hn
        omega
      obtain ⟨s', hs', htake⟩ := ih (n - front.length) hrest (Nat.sub_pos_of_lt hlt)
      refine ⟨s', ?_, ?_⟩
      · rwa [List.drop_append, List.drop_of_length_le (Nat.le_of_lt hlt), List.nil_append]
      · rw [take_data_of_lt hfront hlt, htake, List.take_append,
          List.take_of_length_le (Nat.le_of_lt hlt)]
        rfl

/-- More bytes than a stream delivers cannot be taken from it before its end. -/
lemma take_append_of_lt (h : s.Delivers bytes) (hend : t.Ends reason) : ∀ n, bytes.length < n →
    take n (s ++ t) = reason.map fun _ => none := by
  induction h with
  | nil => exact fun n hn => hend.take hn
  | interruption hfault h ih =>
    intro n hn
    rw [List.cons_append, take_interruption (Nat.zero_lt_of_lt hn) hfault, ih n hn]
  | @chunk front s bytes hfront h ih =>
    intro n hn
    rw [List.length_append] at hn
    rw [List.cons_append, take_data_of_lt hfront (by omega), ih (n - front.length) (by omega)]
    cases reason <;> rfl

/-- All bytes of a stream are those that it delivers, unless it ends with a failure. -/
lemma readAll_append (h : s.Delivers bytes) (hend : t.Ends reason) :
    readAll (s ++ t) = reason.map fun _ => bytes := by
  induction h with
  | nil => exact hend.readAll
  | interruption hfault h ih => rw [List.cons_append, readAll, if_pos hfault, ih]
  | @chunk front s bytes hfront h ih =>
    rw [List.cons_append, readAll, ih]
    · cases reason <;> rfl
    · exact hfront

end Stream

namespace CacheHeader

variable {s t : Stream} {bytes : Bytes} {reason : Except IoFault Unit}

/-- A field is read from as many bytes as it has. -/
lemma readField_append_of_le (h : s.Delivers bytes) (t : Stream) (hle : fieldSize ≤ bytes.length) :
    ∃ s' : Stream, s'.Delivers (bytes.drop fieldSize) ∧
      readField (s ++ t) = .ok (some (uint32OfBytes (bytes.take fieldSize), s' ++ t)) := by
  obtain ⟨s', hs', htake⟩ := Stream.take_append_of_le h t fieldSize hle
  exact ⟨s', hs', by rw [readField, htake]; rfl⟩

/-- From fewer bytes no field is read. -/
lemma readField_append_of_lt (h : s.Delivers bytes) (hend : t.Ends reason)
    (hlt : bytes.length < fieldSize) :
    readField (s ++ t) = (reason.mapError .io).map fun _ => none := by
  rw [readField, Stream.take_append_of_lt h hend fieldSize hlt]
  cases reason <;> rfl

/-- From as many bytes as a header has, with the mark of the format, the header is read. -/
lemma read_append_of_le (h : s.Delivers bytes) (t : Stream) (path : String)
    (hmagic : (ofBytes bytes).magic = formatMagic) (hle : 2 * fieldSize ≤ bytes.length) :
    ∃ s' : Stream, s'.Delivers (bytes.drop (2 * fieldSize)) ∧
      CacheHeader.read path (s ++ t) = .ok (ofBytes bytes, s' ++ t) := by
  have hrest : fieldSize ≤ (bytes.drop fieldSize).length := by
    rw [List.length_drop]
    omega
  obtain ⟨s₁, hs₁, hfirst⟩ := readField_append_of_le h t (by omega)
  obtain ⟨s₂, hs₂, hsecond⟩ := readField_append_of_le hs₁ t hrest
  rw [List.drop_drop, ← Nat.two_mul] at hs₂
  refine ⟨s₂, hs₂, ?_⟩
  have hmagic' : uint32OfBytes (bytes.take fieldSize) = formatMagic := hmagic
  rw [CacheHeader.read, hfirst]
  simp only [bind, Except.bind, hmagic', ne_eq, not_true_eq_false, if_false]
  rw [hsecond, ofBytes, hmagic']
  rfl

/-- What is wrong with too few bytes, or with the mark of the format. -/
lemma read_append_of_not (h : s.Delivers bytes) (hend : t.Ends reason) (path : String)
    (hnot : ¬ ((ofBytes bytes).magic = formatMagic ∧ 2 * fieldSize ≤ bytes.length)) :
    CacheHeader.read path (s ++ t) =
      if fieldSize ≤ bytes.length ∧ (ofBytes bytes).magic ≠ formatMagic then
        .error (.corruptCache path (.badMagic (ofBytes bytes).magic))
      else (reason.mapError .io).bind fun _ => .error
        (if bytes.length < fieldSize then .corruptCache path .truncatedMagic
          else .incompleteCache path) := by
  rw [CacheHeader.read]
  by_cases hshort : bytes.length < fieldSize
  · rw [if_neg (fun hle => absurd hle.1 (Nat.not_le.2 hshort)), if_pos hshort,
      readField_append_of_lt h hend hshort]
    cases reason <;> rfl
  obtain ⟨s₁, hs₁, hfirst⟩ := readField_append_of_le h t (Nat.not_lt.1 hshort)
  rw [hfirst]
  by_cases hmagic : (ofBytes bytes).magic = formatMagic
  · have hrest : (bytes.drop fieldSize).length < fieldSize := by
      rw [List.length_drop]
      exact Nat.lt_of_not_le fun hle => hnot ⟨hmagic, by omega⟩
    have hmagic' : uint32OfBytes (bytes.take fieldSize) = formatMagic := hmagic
    rw [if_neg fun hboth => hboth.2 hmagic, if_neg hshort]
    simp only [bind, Except.bind, hmagic', ne_eq, not_true_eq_false, if_false]
    rw [readField_append_of_lt hs₁ hend hrest]
    cases reason <;> rfl
  · have hmagic' : uint32OfBytes (bytes.take fieldSize) ≠ formatMagic := hmagic
    rw [if_pos ⟨Nat.not_lt.1 hshort, hmagic⟩]
    simp only [bind, Except.bind, hmagic', ne_eq, not_false_eq_true, if_true]
    rfl

end CacheHeader

open CacheHeader (fieldSize formatMagic)

/-- The header and the program of bytes that are a cache. -/
def readCacheBytes (path : String) (bytes : Bytes) : Outcome (CacheHeader × Program) :=
  if bytes.length < fieldSize then .error (.corruptCache path .truncatedMagic)
  else if (CacheHeader.ofBytes bytes).magic ≠ formatMagic then
    .error (.corruptCache path (.badMagic (CacheHeader.ofBytes bytes).magic))
  else if bytes.length < 2 * fieldSize then .error (.incompleteCache path)
  else (Program.ofCachedBody path (bytes.drop (2 * fieldSize))).map fun p =>
    (CacheHeader.ofBytes bytes, p)

/-- What is read of a stream that delivers bytes and then ends. A failure at the end comes before
all that is wrong with the bytes but a wrong mark, which is found as soon as it was read. -/
lemma readCacheStream_append {s t : Stream} {bytes : Bytes} {reason : Except IoFault Unit}
    (path : String) (h : s.Delivers bytes) (hend : t.Ends reason) :
    readCacheStream path (s ++ t) =
      if fieldSize ≤ bytes.length ∧ (CacheHeader.ofBytes bytes).magic ≠ formatMagic then
        .error (.corruptCache path (.badMagic (CacheHeader.ofBytes bytes).magic))
      else (reason.mapError .io).bind fun _ => readCacheBytes path bytes := by
  rw [readCacheStream, readCacheBytes]
  by_cases hheader : (CacheHeader.ofBytes bytes).magic = formatMagic ∧ 2 * fieldSize ≤ bytes.length
  · obtain ⟨s', hs', hread⟩ := CacheHeader.read_append_of_le h t path hheader.1 hheader.2
    rw [hread, if_neg fun hboth => hboth.2 hheader.1, if_neg (by omega), if_neg (not_not.2 hheader.1),
      if_neg (Nat.not_lt.2 hheader.2)]
    simp only [bind, Except.bind, Stream.readAll_append hs' hend]
    cases reason with
    | error fault => rfl
    | ok =>
      simp only [Except.map, Except.mapError]
      cases Program.ofCachedBody path (bytes.drop (2 * fieldSize)) <;> rfl
  · rw [CacheHeader.read_append_of_not h hend path hheader]
    split_ifs with hwrong hshort hmagic hincomplete
    · rfl
    · cases reason <;> rfl
    · exact absurd ⟨Nat.not_lt.1 hshort, hmagic⟩ hwrong
    · cases reason <;> rfl
    · exact absurd ⟨not_not.1 hmagic, Nat.not_lt.1 hincomplete⟩ hheader

/-- **However a cache is delivered**, the same is read: the header and the program of its bytes, or
what is wrong with them. Another failure than an interruption is what is read of the cache, wherever
in it and whatever follows, unless it comes after a wrong mark of the format.

**Proof sketch.** Taking bytes from the front of a stream gives those that it delivers, and leaves a
stream that delivers the others (`Stream.take_append_of_le`, by induction on the delivery). So a
header and a body are read from the same bytes, and where the bytes do not suffice, the reader comes
to the end of the stream, which is one of the two that `Stream.Ends` has. -/
theorem readCacheStream_of_delivers {s : Stream} {bytes : Bytes} (path : String)
    (h : s.Delivers bytes) :
    readCacheStream path s = readCacheStream path [.data bytes] ∧
      readCacheStream path s = readCacheBytes path bytes ∧
      ∀ (fault : IoFault) (rest : Stream), fault.isInterruption = false →
        readCacheStream path (s ++ .failure fault :: rest) =
          if fieldSize ≤ bytes.length ∧ (CacheHeader.ofBytes bytes).magic ≠ formatMagic then
            .error (.corruptCache path (.badMagic (CacheHeader.ofBytes bytes).magic))
          else .error (.io fault) := by
  have hbytes : ∀ {s t : Stream}, s.Delivers bytes → t.Ends (.ok ()) →
      readCacheStream path (s ++ t) = readCacheBytes path bytes := by
    intro s t h hend
    rw [readCacheStream_append path h hend]
    split_ifs with hwrong
    · rw [readCacheBytes, if_neg (Nat.not_lt.2 hwrong.1), if_pos hwrong.2]
    · rfl
  have hwhole : readCacheStream path s = readCacheBytes path bytes := by
    rw [← hbytes h Stream.ends_nil, List.append_nil]
  have hone : readCacheStream path [.data bytes] = readCacheBytes path bytes := by
    cases bytes with
    | nil => exact hbytes .nil (Stream.ends_empty [])
    | cons b bs =>
      have hdata : Stream.Delivers [.data (b :: bs)] (b :: bs) := by
        simpa using Stream.Delivers.chunk (List.cons_ne_nil b bs) .nil
      exact hbytes hdata Stream.ends_nil
  refine ⟨hwhole.trans hone.symm, hwhole, fun fault rest hfault => ?_⟩
  exact readCacheStream_append path h (Stream.ends_failure hfault rest)

/-- A cache in two chunks, the first of which ends within the mark of the format, with an
interruption before each: it is read, and if a third access before the second chunk times out, that
is what is read. -/
theorem readCacheStream_of_delivers_interrupted :
    let bytes := Program.toCache ⟨[.raise "boom"]⟩ 7
    let front : Stream :=
      [.failure (.os .interrupted), .data (bytes.take 3), .failure (.kind .interrupted)]
    readCacheStream "m.cache" (front ++ [.data (bytes.drop 3)]) =
        .ok (.ofMtime 7, ⟨[.raise "boom"]⟩) ∧
      readCacheStream "m.cache" (front ++ [.failure (.kind .timedOut), .data (bytes.drop 3)]) =
        .error (.io (.kind .timedOut)) := by
  intro bytes front
  have hlength : 3 < bytes.length := by
    have : bytes.length = 2 * fieldSize + (Program.body ⟨[.raise "boom"]⟩).length :=
      List.length_append
    rw [fieldSize] at this
    omega
  have htake : bytes.take 3 ≠ [] := by
    rw [← List.length_pos_iff, List.length_take]
    omega
  have hdrop : bytes.drop 3 ≠ [] := by
    rw [← List.length_pos_iff, List.length_drop]
    omega
  have hfront : ∀ {s : Stream} {rest : Bytes}, s.Delivers rest →
      Stream.Delivers (front ++ s) (bytes.take 3 ++ rest) := fun h =>
    .interruption rfl (.chunk htake (.interruption rfl h))
  have hwhole : Stream.Delivers (front ++ [.data (bytes.drop 3)])
      (bytes.take 3 ++ (bytes.drop 3 ++ [])) := hfront (.chunk hdrop .nil)
  rw [List.append_nil, List.take_append_drop] at hwhole
  constructor
  · rw [(readCacheStream_of_delivers "m.cache" hwhole).1, readCacheStream_data,
      Program.ofCachedBody, Program.ofBody?_body_eq (by decide), if_pos (by decide)]
    rfl
  · have htimeout := (readCacheStream_of_delivers "m.cache" (hfront .nil)).2.2
      (.kind .timedOut) [.data (bytes.drop 3)] rfl
    have hshort : ¬ fieldSize ≤ (bytes.take 3 ++ []).length := by
      rw [List.append_nil, List.length_take]
      simp [fieldSize]
    rwa [if_neg fun hboth => hshort hboth.1, List.append_assoc] at htimeout

end UnitLoader
