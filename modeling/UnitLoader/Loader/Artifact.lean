import UnitLoader.Cache.Header
import UnitLoader.Handle

/-!
# Reading artifacts

Sources and caches are read through a handle on their directory. An artifact that cannot be
accessed is missing if nothing is there, and inaccessible otherwise.

## Main definitions

* `UnitLoader.Program.ofSource`: the program of a source's bytes.
* `UnitLoader.Handle.readSource`, `UnitLoader.Handle.readCache`: the program of an artifact.
* `UnitLoader.Handle.compileSource`: the cache of a source.
-/

namespace UnitLoader

/-- The program that the text of a source denotes. -/
def Program.ofText (origin : String) (text : List Char) : Outcome Program :=
  (Program.parse text).mapError fun e => .badSource origin e.line (.line e.fault)

/-- The program that the bytes of a source denote. -/
def Program.ofSource (origin : String) (bytes : Bytes) : Outcome Program :=
  match Text.Utf8.decode bytes with
  | .ok text => Program.ofText origin text
  | .error fault => .error (.badSource origin 0 (.notUtf8 fault))

namespace Handle

/-- Open an artifact. -/
def openArtifact (h : Handle) (t : Tree) (path : String) : Outcome OpenFile :=
  (h.openFile t path).mapError (LoadError.atArtifact (Path.join h.nameText path))

/-- The program of a source. -/
def readSource (h : Handle) (t : Tree) (path : String) : Outcome Program := do
  let file ← h.openArtifact t path
  let bytes ← (t.read file.node).mapError (LoadError.ofArtifactFault file.name)
  Program.ofSource file.name bytes

/-- An error if there is something at the path of a source and its time is not the one that the
cache records. -/
def ensureFresh (h : Handle) (t : Tree) (source : String) (header : CacheHeader)
    (origin : String) : Outcome Unit :=
  match h.stat t source with
  | .ok m =>
    if m.mtimeLow = header.sourceMtime then .ok ()
    else .error (.staleCache origin header.sourceMtime m.mtimeLow)
  | .error e => if e.isNotFound then .ok () else .error e

/-- The program of a cache, which has to be as old as its source, if there is one. -/
def readCache (h : Handle) (t : Tree) (cache : String) (source : Option String) :
    Outcome Program := do
  let file ← h.openArtifact t cache
  let (header, rest) ← (CacheHeader.read file.name (.ofRead (t.read file.node))).mapError
    (LoadError.atArtifact file.name)
  if let some source := source then
    h.ensureFresh t source header file.name
  let body ← rest.readAll.mapError (LoadError.ofArtifactFault file.name)
  Program.ofCachedBody file.name body

/-- The bytes of the cache of a source. -/
def compileSource (h : Handle) (t : Tree) (path : String) : Outcome Bytes := do
  let file ← h.openFile t path
  let bytes ← (t.read file.node).mapError .io
  let p ← Program.ofSource file.name bytes
  return p.toCache (← h.stat t path).mtimeLow

end Handle

end UnitLoader
