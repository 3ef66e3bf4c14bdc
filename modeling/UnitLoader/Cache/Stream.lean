import UnitLoader.Fault.Io
import UnitLoader.Text.Utf8

/-!
# Streams

Bytes arrive in chunks, with failures between them. An interruption is passed over; any other
failure ends the reading. An empty chunk says that nothing more comes, as does the end of the
chunks.

## Main definitions

* `UnitLoader.Stream`: streams.
* `UnitLoader.Stream.take`: so many bytes from the front of a stream.
* `UnitLoader.Stream.readAll`: all bytes of a stream.

## Main results

* `UnitLoader.Stream.take_singleton`: bytes taken from a single chunk.
* `UnitLoader.Stream.readAll_singleton`: all bytes of a single chunk.
-/

namespace UnitLoader

/-- What one reading of a stream gives. -/
inductive Chunk where
  | data (bytes : Bytes)
  | failure (fault : IoFault)
  deriving DecidableEq, Repr

/-- Bytes and failures in the order in which they arrive. -/
abbrev Stream := List Chunk

namespace Stream

/-- The stream of a content that is read as a whole. -/
def ofRead : Except IoFault Bytes → Stream
  | .ok bytes => [.data bytes]
  | .error fault => [.failure fault]

/-- Bytes that are left of a chunk, in front of a stream. -/
def prepend (bytes : Bytes) (s : Stream) : Stream :=
  if bytes = [] then s else .data bytes :: s

/-- So many bytes from the front of a stream, and the stream after them; nothing, if the stream
ends before. -/
def take (n : Nat) : Stream → Except IoFault (Option (Bytes × Stream))
  | [] => .ok (if n = 0 then some ([], []) else none)
  | chunk :: s =>
    if n = 0 then .ok (some ([], chunk :: s))
    else match chunk with
      | .failure fault => if fault.isInterruption then take n s else .error fault
      | .data [] => .ok none
      | .data bytes =>
        if n ≤ bytes.length then .ok (some (bytes.take n, prepend (bytes.drop n) s))
        else (take (n - bytes.length) s).map fun taken =>
          taken.map fun (more, rest) => (bytes ++ more, rest)

/-- All bytes of a stream. -/
def readAll : Stream → Except IoFault Bytes
  | [] => .ok []
  | .failure fault :: s => if fault.isInterruption then readAll s else .error fault
  | .data [] :: _ => .ok []
  | .data bytes :: s => (readAll s).map (bytes ++ ·)

/-- From a single chunk bytes are taken if it has so many. -/
theorem take_singleton (n : Nat) (bytes : Bytes) (h : 0 < n) :
    take n [.data bytes] = .ok (if n ≤ bytes.length then
      some (bytes.take n, prepend (bytes.drop n) []) else none) := by
  cases bytes with
  | nil => simp [take, Nat.pos_iff_ne_zero.1 h]
  | cons b bs =>
    by_cases hn : n ≤ (b :: bs).length
    · simp only [take, Nat.ne_of_gt h, hn, if_true, if_false]
    · have : n - (b :: bs).length ≠ 0 := by omega
      simp only [take, Nat.ne_of_gt h, hn, if_false, this]
      rfl

/-- All bytes of a single chunk are its bytes. -/
theorem readAll_singleton (bytes : Bytes) : readAll [.data bytes] = .ok bytes := by
  cases bytes with
  | nil => rfl
  | cons b bs => simp [readAll, Except.map]

end Stream

end UnitLoader
