import UnitLoader.Proofs.Lookup.Precedence
import UnitLoader.Proofs.Mention

/-!
# What is found is not missing

That nothing is there is an answer of a lookup, and not an error. So a lookup that fails does not
say that nothing is there, and neither does reading or linking an artifact that was found. The one
exception is a working directory that was taken out of the tree: paths cannot be taken from it.

## Main definitions

* `UnitLoader.Avoids` — an operation does not fail with errors of some kind.
* `UnitLoader.LoadError.IsOfAccess`, `UnitLoader.LoadError.IsOfContent` — errors of reaching
  something, and of making use of what was reached.

## Main results

* `UnitLoader.Loader.avoids_find` — a chain does not fail because nothing is there.
* `UnitLoader.Loader.isFile_of_find` — where an artifact is found there is a file.
* `UnitLoader.Artifact.avoids_read`, `UnitLoader.Artifact.avoids_link` — an artifact that is a file
  is not missing when it is read or linked.
-/

set_option relaxedAutoImplicit false
set_option autoImplicit false

namespace UnitLoader

/-- An operation does not fail with errors of some kind. -/
def Avoids {α : Type} (P : LoadError → Prop) (x : Outcome α) : Prop :=
  ∀ e, x = .error e → ¬ P e

namespace LoadError

/-- An error says that nothing is there. -/
def SaysAbsent (e : LoadError) : Prop :=
  e.isNotFound = true

/-- An error says why nothing was reached by a path. -/
def IsOfAccess : LoadError → Prop
  | .badPath (.unitName _) => False
  | .badPath _ | .badMode _ | .closedHandle _ | .rightsDenied _ _ | .io _ => True
  | _ => False

/-- An error says why a file that was reached is of no use. -/
def IsOfContent : LoadError → Prop
  | .inaccessibleArtifact _ _ | .corruptCache _ _ | .incompleteCache _ | .badSource _ _ _ => True
  | _ => False

/-- A file that is of no use is there. -/
lemma SaysAbsent.not_isOfContent {e : LoadError} (h : e.SaysAbsent) : ¬ e.IsOfContent := by
  cases e with
  | missingArtifact _ | io _ => exact id
  | _ => cases h

end LoadError

namespace Avoids

variable {α β ε : Type} {P Q : LoadError → Prop} {x : Outcome α}

/-- A value is no error. -/
lemma ok (v : α) : Avoids P (.ok v) := nofun

/-- An error that is not of a kind avoids that kind. -/
lemma error {e : LoadError} (h : ¬ P e) : Avoids P (.error e : Outcome α) := by
  rintro _ ⟨⟩
  exact h

/-- What avoids a kind of errors avoids every narrower kind. -/
lemma mono (h : Avoids Q x) (hQ : ∀ e, P e → Q e) : Avoids P x :=
  fun e he hp => h e he (hQ e hp)

/-- Two operations one after the other avoid what each of them does. -/
lemma bind {f : α → Outcome β} (hx : Avoids P x) (hf : ∀ v, x = .ok v → Avoids P (f v)) :
    Avoids P (x >>= f) := by
  cases x with
  | ok v => exact hf v rfl
  | error e => exact error (hx e rfl)

/-- What is done to the value does not matter for the errors. -/
lemma map {f : α → β} (hx : Avoids P x) : Avoids P (x.map f) := by
  cases x with
  | ok v => exact ok (f v)
  | error e => exact error (hx e rfl)

/-- Errors are avoided after they are wrapped if what they are wrapped into is of another kind. -/
lemma mapError {x : Except ε α} {f : ε → LoadError} (h : ∀ e, x = .error e → ¬ P (f e)) :
    Avoids P (x.mapError f) := by
  cases x with
  | ok v => exact ok v
  | error e => exact error (h e rfl)

end Avoids

open LoadError (SaysAbsent)

/-! ## Accesses -/

/-- A normal form does not fail for the name of a unit. -/
lemma Path.normal?_ne_unitName (path name : String) : normal? path ≠ .error (.unitName name) := by
  unfold normal?
  split <;> simp

/-- What is wrong with a path is not a unit name. -/
lemma Path.relativeTo?_ne_unitName (directory : List String) (path name : String) :
    relativeTo? directory path ≠ .error (.unitName name) := by
  unfold relativeTo?
  intro h
  split at h
  · cases h
  · cases hn : normal? path with
    | error e =>
      rw [hn] at h
      cases h
      exact normal?_ne_unitName path name hn
    | ok n =>
      rw [hn] at h
      revert h
      simp only [bind, Except.bind, pure, Except.pure]
      split
      · split <;> nofun
      · nofun

/-- An absolute path does not fail for the name of a unit. -/
lemma Path.absolute?_ne_unitName (working : List String) (path name : String) :
    absolute? working path ≠ .error (.unitName name) := by
  unfold absolute?
  intro h
  cases hn : normal? (join (absoluteText working) path) with
  | error e =>
    rw [hn] at h
    cases h
    exact normal?_ne_unitName _ name hn
  | ok n =>
    rw [hn] at h
    cases h

namespace Handle

variable {h : Handle} {t : Tree} {path : String} {m : Metadata} {source : Option String}

/-- Requiring a right fails for that right only. -/
lemma avoids_require {P : LoadError → Prop} (hP : ∀ name right, ¬ P (.rightsDenied name right))
    (h : Handle) (r : Right) : Avoids P (h.require r) := by
  unfold require
  split
  · exact .ok ()
  · exact .error (hP _ _)

/-- Reaching a node fails with errors of access only. -/
lemma avoids_reach (h : Handle) (t : Tree) (way : List String) :
    Avoids (¬ ·.IsOfAccess) (h.reach t way) := by
  rw [reach_eq]
  split
  · exact .error (not_not_intro trivial)
  · refine .bind ?_ fun _ _ => .mapError fun _ _ => not_not_intro trivial
    unfold descriptor
    split
    · exact .ok _
    · exact .error (not_not_intro trivial)

/-- Taking a path to its way fails with errors of access only. -/
lemma avoids_relative (h : Handle) (path : String) :
    Avoids (¬ ·.IsOfAccess) (h.relative path) := by
  refine .mapError fun fault hfault => ?_
  cases fault with
  | unitName name => exact absurd hfault (Path.relativeTo?_ne_unitName h.name path name)
  | _ => exact not_not_intro trivial

/-- What is known of a node is not told if nothing is reached. -/
lemma avoids_stat (h : Handle) (t : Tree) (path : String) :
    Avoids (¬ ·.IsOfAccess) (h.stat t path) :=
  .bind (h.avoids_relative path) fun way _ =>
    .bind (avoids_require (fun _ _ => not_not_intro trivial) h .fstat) fun _ _ =>
      .bind (h.avoids_reach t way) fun _ _ => .ok _

/-- Opening a file fails with errors of access only. -/
lemma avoids_openFile (h : Handle) (t : Tree) (path : String) :
    Avoids (¬ ·.IsOfAccess) (h.openFile t path) := by
  have hrequire := avoids_require (P := (¬ ·.IsOfAccess)) (fun _ _ => not_not_intro trivial) h
  rw [openFile, openFileMode_eq, if_neg (by decide)]
  refine .bind (h.avoids_relative path) fun way _ => ?_
  split
  · exact .error (not_not_intro trivial)
  · exact .bind (hrequire .read) fun _ _ =>
      .bind (.bind (hrequire .lookup) fun _ _ => h.avoids_reach t way) fun _ _ => .ok _

/-- To questions absence is an answer. -/
lemma avoids_stat? (h : Handle) (t : Tree) (path : String) :
    Avoids SaysAbsent (h.stat? t path) := by
  have haccess := avoids_stat h t path
  unfold stat?
  split
  · exact .ok _
  · exact .ok _
  · next fault _ =>
    split
    · exact .ok _
    · next hpresent =>
      refine .error fun habsent => hpresent ?_
      rw [IoFault.isAbsence, show fault.isNotFound = true from habsent, Bool.true_or]
  · next e hne hio hs =>
    refine .error fun habsent => ?_
    cases e with
    | missingArtifact what => exact haccess _ hs id
    | io fault => exact hio fault rfl
    | _ => cases habsent

/-- A file that is there is opened or may not be opened; it is not missing. -/
lemma avoids_openArtifact (hs : h.stat t path = .ok m) :
    Avoids SaysAbsent (h.openArtifact t path) := by
  obtain ⟨way, id, hway, hid, -⟩ := of_stat hs
  have hgrants (r : Right) :
      Avoids (fun e => SaysAbsent (.atArtifact (Path.join h.nameText path) e)) (h.require r) :=
    avoids_require (fun _ _ => Bool.false_ne_true) h r
  have hopen : Avoids (fun e => SaysAbsent (.atArtifact (Path.join h.nameText path) e))
      (h.openFile t path) := by
    rw [openFile, openFileMode_eq, if_neg (by decide), hway]
    refine .bind (.ok way) fun way' hway' => ?_
    obtain rfl := Except.ok.inj hway'
    split
    · exact .error Bool.false_ne_true
    · refine .bind (hgrants .read) fun _ _ =>
        .bind (.bind (hgrants .lookup) fun _ _ => ?_) fun _ _ => .ok _
      rw [hid]
      exact .ok id
  exact .mapError hopen

/-- If an artifact is missing, this is what the error says. -/
lemma isCacheRecoverable_of_openArtifact (h : Handle) (t : Tree) (path : String) :
    Avoids (fun e => SaysAbsent e ∧ e.isCacheRecoverable = false) (h.openArtifact t path) := by
  refine .mapError fun e _ => ?_
  rintro ⟨habsent, hnot⟩
  cases e with
  | io fault =>
    simp only [LoadError.atArtifact, LoadError.ofArtifactFault] at habsent hnot
    split at hnot
    · cases hnot
    · next hfault =>
      rw [if_neg hfault] at habsent
      cases habsent
  | missingArtifact what => cases hnot
  | _ => cases habsent

end Handle

/-- What cannot be read of a node that is there is no file. -/
lemma Tree.isNotFound_of_read {t : Tree} {id : NodeId} {fault : IoFault}
    (h : t.read id = .error fault) : fault.isNotFound = false := by
  unfold Tree.read at h
  split at h
  · cases h
  · cases h
    rfl

/-! ## Artifacts -/

section

variable {P : LoadError → Prop} {h : Handle} {t : Tree} {path : String} {id : NodeId}

/-- A content that cannot be read is not missing. -/
lemma Tree.avoids_read (t : Tree) (id : NodeId) (path : String) :
    Avoids (¬ ·.IsOfContent) ((t.read id).mapError (LoadError.ofArtifactFault path)) := by
  refine .mapError fun fault hfault => ?_
  rw [LoadError.ofArtifactFault, Tree.isNotFound_of_read hfault]
  exact not_not_intro trivial

/-- Reading the text of a program fails with errors of content only. -/
lemma Program.avoids_ofSource (origin : String) (bytes : Bytes) :
    Avoids (¬ ·.IsOfContent) (Program.ofSource origin bytes) := by
  unfold Program.ofSource
  split
  · exact .mapError fun _ _ => not_not_intro trivial
  · exact .error (not_not_intro trivial)

/-- Reading the body of a cache fails with errors of content only. -/
lemma Program.avoids_ofCachedBody (path : String) (body : Bytes) :
    Avoids (¬ ·.IsOfContent) (Program.ofCachedBody path body) := by
  unfold Program.ofCachedBody
  split
  · exact .ok _
  · exact .error (not_not_intro trivial)

/-- A header that cannot be read is damaged, or its file is no file; it is not missing. -/
lemma CacheHeader.avoids_read (t : Tree) (id : NodeId) (path : String) :
    Avoids (¬ ·.IsOfContent) ((CacheHeader.read path (.ofRead (t.read id))).mapError
      (LoadError.atArtifact path)) := by
  refine .mapError fun e he => ?_
  cases hread : t.read id with
  | ok bytes =>
    rw [hread, CacheHeader.read_content] at he
    split_ifs at he <;> cases he <;> exact not_not_intro trivial
  | error fault =>
    have hfault := Tree.isNotFound_of_read hread
    obtain rfl : fault = .os .isDirectory := by
      unfold Tree.read at hread
      split at hread
      · cases hread
      · cases hread
        rfl
    rw [hread] at he
    cases he
    exact not_not_intro trivial

/-- That a cache is not fresh does not say that nothing is there. -/
lemma Handle.avoids_ensureFresh (h : Handle) (t : Tree) (source : String) (header : CacheHeader)
    (origin : String) : Avoids SaysAbsent (h.ensureFresh t source header origin) := by
  unfold Handle.ensureFresh
  split
  · split
    · exact .ok ()
    · exact .error nofun
  · split
    · exact .ok ()
    · next habsent => exact .error habsent

section

variable (hP : ∀ e, P e → ¬ e.IsOfContent) (ho : Avoids P (h.openArtifact t path))

include hP ho

/-- A source that is opened is at most of no use. -/
lemma Handle.avoids_readSource : Avoids P (h.readSource t path) :=
  .bind ho fun file _ => .mono (.bind (t.avoids_read file.node file.name) fun bytes _ =>
    Program.avoids_ofSource file.name bytes) hP

/-- A cache that is opened is at most of no use, or not as old as its source. -/
lemma Handle.avoids_readCache (source : Option String)
    (hfresh : ∀ s ∈ source, ∀ header origin, Avoids P (h.ensureFresh t s header origin)) :
    Avoids P (h.readCache t path source) := by
  refine .bind ho fun file _ => ?_
  refine .bind (.mono (CacheHeader.avoids_read t file.node file.name) hP)
    fun ⟨header, rest⟩ hheader => ?_
  have hbody : Avoids P (rest.readAll.mapError (LoadError.ofArtifactFault file.name) >>=
      Program.ofCachedBody file.name) := by
    obtain ⟨bytes, hread⟩ := CacheHeader.exists_of_read (Outcome.mapError_eq_ok.1 hheader)
    rw [hread] at hheader
    rw [(CacheHeader.of_read (Outcome.mapError_eq_ok.1 hheader)).2]
    exact .mono (Program.avoids_ofCachedBody _ _) hP
  cases source with
  | none => exact hbody
  | some source => exact .bind (hfresh source rfl header file.name) fun _ _ => hbody

end

end

namespace Artifact

variable {t : Tree} {x : Artifact}

/-- That a file that is there cannot be opened does not say that nothing is there. -/
lemma avoids_openArtifact (hx : x.directory.isFile t x.path = .ok true) :
    Avoids SaysAbsent (x.directory.openArtifact t x.path) := by
  obtain ⟨m, hm, -⟩ := Handle.map_stat?_eq_ok_true_iff.1 hx
  exact Handle.avoids_openArtifact hm

/-- An artifact that is a file is not missing when it is read, be it a source or a cache, or a
source whose cache is of no use. -/
theorem avoids_read (hx : x.directory.isFile t x.path = .ok true) (strategy : Strategy) :
    Avoids SaysAbsent (x.read t strategy) := by
  have hopen := avoids_openArtifact hx
  have hsource := Handle.avoids_readSource (fun _ h => h.not_isOfContent) hopen
  cases strategy with
  | source => exact .bind hsource fun _ _ => .ok _
  | compiledCache source =>
    exact .bind (Handle.avoids_readCache (fun _ h => h.not_isOfContent) hopen source
      fun s _ => x.directory.avoids_ensureFresh t s) fun _ _ => .ok _
  | cacheThenSource cache =>
    rw [Artifact.read]
    split
    · exact .ok _
    · next e he =>
      split
      · exact .bind hsource fun _ _ => .ok _
      · next hnot =>
        have hcache := Handle.avoids_readCache (fun _ h => h.1.not_isOfContent)
          (x.directory.isCacheRecoverable_of_openArtifact t cache) (some x.path)
          fun s _ header origin =>
            .mono (x.directory.avoids_ensureFresh t s header origin) fun _ h => h.1
        exact .error fun habsent => hcache e he ⟨habsent, Bool.eq_false_iff.2 hnot⟩
  | nativeLibrary => exact .error Bool.false_ne_true

/-- An artifact that is a file is not missing when it is linked. -/
theorem avoids_link (hx : x.directory.isFile t x.path = .ok true) :
    Avoids SaysAbsent (x.link t) := by
  refine .bind (avoids_openArtifact hx) fun file _ => ?_
  split
  · exact .ok _
  · exact .error nofun

end Artifact

/-! ## Lookups -/

section

variable {t : Tree} {a : Ambient} {l : Loader} {name tail : String}
  {searchPath : Option (List String)} {x : Artifact} {strategy : Strategy}

section

variable {P : LoadError → Prop} (hstat : ∀ (h : Handle) (path : String), Avoids P (h.stat? t path))

include hstat

/-- Asking for the first file fails only as asking about a path does. -/
lemma avoids_firstFile (h : Handle) (ps : List Probe) : Avoids P (firstFile h t ps) := by
  induction ps with
  | nil => exact .ok none
  | cons p ps ih =>
    refine .bind (.map (hstat h p.path)) fun there _ => ?_
    split
    · exact .ok _
    · exact ih

/-- A search fails only as asking about a path does. -/
lemma RootFinder.avoids_search (rules : SuffixRules) (name tail : String) (hs : List Handle)
    (found : List String) : Avoids P (search rules t name tail hs found) := by
  induction hs generalizing found with
  | nil => exact .ok _
  | cons h hs ih =>
    refine .bind (.map (hstat h tail)) fun hasDirectory _ =>
      .bind (avoids_firstFile hstat h _) fun p? _ => ?_
    cases p? with
    | none => exact ih _
    | some p => exact .ok _

end

section

variable {P : LoadError → Prop} (hclosed : ∀ name, ¬ P (.closedHandle name))

include hclosed

/-- Opening the directories of a search path fails for a closed handle only. -/
lemma RootFinder.avoids_open (f : RootFinder) (t : Tree) (entries : List String) :
    Avoids P (directories.open_ f t entries) := by
  induction entries with
  | nil => exact .ok _
  | cons entry entries ih =>
    rw [directories.open_]
    split
    · exact .bind ih fun _ _ => .ok _
    · exact .error (hclosed _)
    · exact .ok _

/-- A lookup fails only if a question does, or if a handle is closed. -/
lemma RootFinder.avoids_resolve
    (hstat : ∀ (h : Handle) (path : String), Avoids P (h.stat? t path)) (f : RootFinder)
    (name : String) (searchPath : Option (List String)) :
    Avoids P (f.resolve t name searchPath) := by
  unfold resolve
  extract_lets tail
  split
  · refine .bind ?_ fun hs? _ => ?_
    · cases searchPath with
      | none => exact .ok _
      | some entries => exact f.avoids_open hclosed t entries
    · cases hs? with
      | none => exact .ok _
      | some hs => exact avoids_search hstat _ name tail hs []
  · exact .ok _

variable (hstat : ∀ (h : Handle) (path : String), Avoids P (h.stat? a.tree path))
  (hopen : ∀ path rules, a.isDirectory path = true → Avoids P (RootFinder.openRoot a path rules []))

include hstat hopen

/-- A finder that opens its roots at each lookup fails only as asking about a path or opening a root
does. -/
lemma Finder.avoids_findAmbient (rules : SuffixRules) (name : String)
    (searchPath : Option (List String)) (roots : List String) :
    Avoids P (findAmbient a rules name searchPath roots) := by
  induction roots with
  | nil => exact .ok none
  | cons path paths ih =>
    rw [findAmbient]
    split
    · next hd =>
      refine .bind (hopen path rules hd) fun f _ =>
        .bind (f.avoids_resolve hclosed hstat name searchPath) fun r? _ => ?_
      cases r? with
      | none => exact ih
      | some r => exact .ok _
    · exact ih

/-- A chain fails only if a lookup does, or if a root cannot be opened. -/
lemma avoids_findInChain (name : String) (searchPath : Option (List String)) (fs : List Finder) :
    Avoids P (findInChain a name searchPath fs) := by
  induction fs with
  | nil => exact .ok none
  | cons f fs ih =>
    refine .bind ?_ fun r? _ => ?_
    · cases f with
      | root f => exact f.avoids_resolve hclosed hstat name searchPath
      | ambient roots rules =>
        exact Finder.avoids_findAmbient hclosed hstat hopen rules name searchPath roots
    · cases r? with
      | none => exact ih
      | some r => exact .ok _

end

/-- A finder is opened where there is a directory, unless there is no working directory. -/
lemma RootFinder.avoids_openRoot {path : String}
    (hw : (a.tree.placeOf? a.working).isSome = true) (hd : a.isDirectory path = true)
    (rules : SuffixRules) : Avoids SaysAbsent (openRoot a path rules []) := by
  refine .bind (.bind ?_ fun names _ => .bind ?_ fun _ _ => .ok _) fun h _ => .ok _
  · unfold Ambient.absolute
    split
    · exact .mapError fun _ _ => nofun
    · split
      · exact .mapError fun _ _ => nofun
      · next hnone => simp [hnone] at hw
  · unfold Ambient.isDirectory at hd
    split at hd
    · next id hid =>
      rw [Ambient.openDirectory_eq_ok_iff.2 ⟨hid, hd⟩]
      exact .ok id
    · cases hd

/-- A chain does not fail because nothing is there, unless the working directory is not in the
tree. -/
theorem Loader.avoids_find (hw : (a.tree.placeOf? a.working).isSome = true) (l : Loader)
    (name : String) (searchPath : Option (List String)) :
    Avoids SaysAbsent (l.find a name searchPath) :=
  avoids_findInChain (fun _ => Bool.false_ne_true) (fun h path => h.avoids_stat? a.tree path)
    (fun _ rules hd => RootFinder.avoids_openRoot hw hd rules) name searchPath l.chain

/-- Where an artifact is found there is a file. -/
theorem Loader.isFile_of_find
    (h : l.find a name searchPath = .ok (some (.artifact x strategy))) :
    x.directory.isFile a.tree x.path = .ok true := by
  obtain ⟨-, -, f, -, hf⟩ := resolve_of_find h
  unfold RootFinder.resolve at hf
  extract_lets tail at hf
  split at hf
  · obtain ⟨hs?, -, hf⟩ := Outcome.bind_eq_ok.1 hf
    cases hs? with
    | none => cases hf
    | some hs =>
      obtain ⟨h, -, hasDirectory, p, -, hfile, hbind⟩ := RootFinder.found_of_search hf
      cases hbind
      exact hfile
  · cases hf

end

end UnitLoader
