import UnitLoader.Cache.Stream
import UnitLoader.Fault.Load
import UnitLoader.Program.Body

/-!
# Compiled caches

A cache is a header of two numbers of 32 bits, the lowest byte first, and a program's body. The
first number marks the format, the second is the time of the source that the program was compiled
from.

## Main definitions

* `UnitLoader.CacheHeader`: headers, with `toBytes` and `read`.
* `UnitLoader.Program.toCache`: the cache of a program.
* `UnitLoader.Program.ofCachedBody`: the program of a body.
-/

namespace UnitLoader

/-- The header of a cache. -/
structure CacheHeader where
  magic : UInt32
  sourceMtime : UInt32
  deriving DecidableEq, Repr

/-- The four bytes of a number, the lowest first. -/
def bytesOfUInt32 (n : UInt32) : Bytes :=
  [n.toUInt8, (n >>> 8).toUInt8, (n >>> 16).toUInt8, (n >>> 24).toUInt8]

/-- The number of bytes, the lowest first. -/
def uint32OfBytes (bytes : Bytes) : UInt32 :=
  bytes.foldr (fun b n => n <<< 8 ||| b.toUInt32) 0

namespace CacheHeader

/-- The mark of the format: `CPC` and a one. -/
def formatMagic : UInt32 := 0x01435043

/-- The number of bytes of each of the two numbers. -/
def fieldSize : Nat := 4

/-- The header of a cache of a source with the given time. -/
def ofMtime (mtime : UInt32) : CacheHeader :=
  ⟨formatMagic, mtime⟩

/-- The bytes of a header. -/
def toBytes (h : CacheHeader) : Bytes :=
  bytesOfUInt32 h.magic ++ bytesOfUInt32 h.sourceMtime

/-- One number from the front of a stream. -/
def readField (s : Stream) : Outcome (Option (UInt32 × Stream)) :=
  match s.take fieldSize with
  | .ok taken => .ok (taken.map fun (bytes, rest) => (uint32OfBytes bytes, rest))
  | .error fault => .error (.io fault)

/-- The header at the front of a stream, and the stream after it. The path is that of the cache. -/
def read (path : String) (s : Stream) : Outcome (CacheHeader × Stream) := do
  match ← readField s with
  | none => throw (.corruptCache path .truncatedMagic)
  | some (magic, rest) =>
    if magic ≠ formatMagic then throw (.corruptCache path (.badMagic magic))
    match ← readField rest with
    | none => throw (.incompleteCache path)
    | some (mtime, rest) => return (⟨magic, mtime⟩, rest)

end CacheHeader

/-- The cache of a program that was compiled from a source with the given time. -/
def Program.toCache (p : Program) (mtime : UInt32) : Bytes :=
  (CacheHeader.ofMtime mtime).toBytes ++ p.body

/-- The program of a body from the cache at a path. -/
def Program.ofCachedBody (path : String) (body : Bytes) : Outcome Program :=
  match Program.ofBody? body with
  | some p => .ok p
  | none => .error (.corruptCache path .undecodable)

/-- The header and the program of a stream that is a cache. -/
def readCacheStream (path : String) (s : Stream) : Outcome (CacheHeader × Program) := do
  let (header, rest) ← CacheHeader.read path s
  let body ← rest.readAll.mapError .io
  return (header, ← Program.ofCachedBody path body)

end UnitLoader
