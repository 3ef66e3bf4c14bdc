import UnitLoader.Fault.ErrnoTable

/-!
# Input and output faults

What the tree of files and the streams over its contents report when an access fails: an error
number of the operating system, or a kind without a number.

## Main definitions

* `UnitLoader.Errno`: the error numbers.
* `UnitLoader.IoKind`: the kinds of faults that have no number.
* `UnitLoader.IoFault`: both, with `message`, `isInterruption` and `isAbsence`.
-/

namespace UnitLoader

/-- An error number of the operating system. -/
structure Errno where
  code : Int
  deriving DecidableEq, Repr

namespace Errno

/-- Nothing is there. -/
@[match_pattern] def noEntry : Errno := ⟨2⟩

/-- The access was interrupted. -/
@[match_pattern] def interrupted : Errno := ⟨4⟩

/-- Something on the way is no directory. -/
@[match_pattern] def notDirectory : Errno := ⟨20⟩

/-- A directory is there. -/
@[match_pattern] def isDirectory : Errno := ⟨21⟩

/-- A name or a path is too long. -/
@[match_pattern] def nameTooLong : Errno := ⟨36⟩

/-- A way leads over too many links. -/
@[match_pattern] def tooManyLinks : Errno := ⟨40⟩

/-- What the number means. -/
def text (e : Errno) : String :=
  (e.code.toNat?.bind fun n => errnoTexts.lookup n).getD s!"Unknown error {e.code}"

end Errno

/-- The kind of a fault that has no number. -/
inductive IoKind where
  | addrInUse
  | addrNotAvailable
  | alreadyExists
  | argumentListTooLong
  | brokenPipe
  | connectionAborted
  | connectionRefused
  | connectionReset
  | crossesDevices
  | deadlock
  | directoryNotEmpty
  | executableFileBusy
  | fileTooLarge
  | filesystemLoop
  | hostUnreachable
  | inProgress
  /-- The access was interrupted and may be tried again. -/
  | interrupted
  | invalidData
  | invalidFilename
  | invalidInput
  | isADirectory
  | networkDown
  | networkUnreachable
  | notADirectory
  | notConnected
  | notFound
  | notSeekable
  | other
  | outOfMemory
  | permissionDenied
  | quotaExceeded
  | readOnlyFilesystem
  | resourceBusy
  | staleNetworkFileHandle
  | storageFull
  | timedOut
  | tooManyLinks
  | unexpectedEof
  | unsupported
  | wouldBlock
  | writeZero
  deriving DecidableEq, Repr

namespace IoKind

/-- What a kind means. -/
def text : IoKind → String
  | .addrInUse => "address in use"
  | .addrNotAvailable => "address not available"
  | .alreadyExists => "entity already exists"
  | .argumentListTooLong => "argument list too long"
  | .brokenPipe => "broken pipe"
  | .connectionAborted => "connection aborted"
  | .connectionRefused => "connection refused"
  | .connectionReset => "connection reset"
  | .crossesDevices => "cross-device link or rename"
  | .deadlock => "deadlock"
  | .directoryNotEmpty => "directory not empty"
  | .executableFileBusy => "executable file busy"
  | .fileTooLarge => "file too large"
  | .filesystemLoop => "filesystem loop or indirection limit (e.g. symlink loop)"
  | .hostUnreachable => "host unreachable"
  | .inProgress => "in progress"
  | .interrupted => "operation interrupted"
  | .invalidData => "invalid data"
  | .invalidFilename => "invalid filename"
  | .invalidInput => "invalid input parameter"
  | .isADirectory => "is a directory"
  | .networkDown => "network down"
  | .networkUnreachable => "network unreachable"
  | .notADirectory => "not a directory"
  | .notConnected => "not connected"
  | .notFound => "entity not found"
  | .notSeekable => "seek on unseekable file"
  | .other => "other error"
  | .outOfMemory => "out of memory"
  | .permissionDenied => "permission denied"
  | .quotaExceeded => "quota exceeded"
  | .readOnlyFilesystem => "read-only filesystem or storage medium"
  | .resourceBusy => "resource busy"
  | .staleNetworkFileHandle => "stale network file handle"
  | .storageFull => "no storage space"
  | .timedOut => "timed out"
  | .tooManyLinks => "too many links"
  | .unexpectedEof => "unexpected end of file"
  | .unsupported => "unsupported"
  | .wouldBlock => "operation would block"
  | .writeZero => "write zero"

/-- All the kinds, by their names in the alphabet. -/
def all : List IoKind :=
  [.addrInUse, .addrNotAvailable, .alreadyExists, .argumentListTooLong, .brokenPipe,
    .connectionAborted, .connectionRefused, .connectionReset, .crossesDevices, .deadlock,
    .directoryNotEmpty, .executableFileBusy, .fileTooLarge, .filesystemLoop, .hostUnreachable,
    .inProgress, .interrupted, .invalidData, .invalidFilename, .invalidInput, .isADirectory,
    .networkDown, .networkUnreachable, .notADirectory, .notConnected, .notFound, .notSeekable,
    .other, .outOfMemory, .permissionDenied, .quotaExceeded, .readOnlyFilesystem, .resourceBusy,
    .staleNetworkFileHandle, .storageFull, .timedOut, .tooManyLinks, .unexpectedEof, .unsupported,
    .wouldBlock, .writeZero]

end IoKind

/-- A failed access. -/
inductive IoFault where
  | os (errno : Errno)
  | kind (kind : IoKind)
  /-- A kind with a text of its own. -/
  | custom (kind : IoKind) (text : String)
  deriving DecidableEq, Repr

namespace IoFault

/-- How a fault reads in a message. -/
def message : IoFault → String
  | .os errno => s!"{errno.text} (os error {errno.code})"
  | .kind k => k.text
  | .custom _ text => text

/-- Whether the fault says that nothing is there. -/
def isNotFound : IoFault → Bool
  | .os errno => errno = .noEntry
  | .kind k | .custom k _ => k = .notFound

/-- Whether the access was interrupted, so that it may be tried again. -/
def isInterruption : IoFault → Bool
  | .os errno => errno = .interrupted
  | .kind k | .custom k _ => k = .interrupted

/-- Whether the fault says that nothing is there, or that what should be a directory on the way to
it is none. -/
def isAbsence (fault : IoFault) : Bool :=
  fault.isNotFound || fault = .os .notDirectory

/-- A path with a NUL has no form that the operating system takes. -/
def nulInName : IoFault :=
  .custom .invalidInput "file name contained an unexpected NUL byte"

end IoFault

end UnitLoader
