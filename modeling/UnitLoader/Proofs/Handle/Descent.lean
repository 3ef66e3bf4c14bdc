import UnitLoader.Proofs.Handle.Relative
import UnitLoader.Proofs.Handle.Rights
import UnitLoader.Proofs.Tree.Descent

/-!
# Descending step by step

What a path names beneath what another path names is reached through a handle in two steps as in
one: a handle on the directory of the first path does for the second what the handle itself does for
both. In one step the operating system may refuse a path that it takes in two, because of its length
or of the links on it.

## Main definitions

* `UnitLoader.Handle.AgreesInSteps` — an operation does the same in one step and in two.

## Main results

* `UnitLoader.Handle.subdirectory_eq_ok_iff` — when a directory beneath a handle is opened.
* `UnitLoader.Handle.agreesInSteps` — files are opened, and directories opened and told about, in
  one step as in two.
-/

set_option relaxedAutoImplicit false
set_option autoImplicit false

namespace UnitLoader

/-- What keeps the operating system from taking a path at once: it is too long, or there are too
many links on its way. -/
def LoadError.IsPathLimit (e : LoadError) : Prop :=
  e = .io (.os .nameTooLong) ∨ e = .io (.os .tooManyLinks)

namespace Handle

open UnitLoader.Path (IsName relativeText)

variable {α : Type} {h g : Handle} {t : Tree} {path path' : String} {before way : List String}
  {rights : List Right} {dir id mid : NodeId}

/-! ## Accesses that succeed -/

/-- Several rights are there if each of them is granted. -/
lemma forM_require_eq_ok_iff :
    rights.forM h.require = .ok () ↔ ∀ r ∈ rights, h.grants r = true := by
  rw [forM_require]
  split
  · next r hr =>
    have hr' := List.find?_some hr
    simp only [reduceCtorEq, false_iff, not_forall]
    exact ⟨r, List.mem_of_find?_eq_some hr, by simpa using hr'⟩
  · next hnone => simpa using hnone

/-- An access is to the end of its way, if it is granted. -/
lemma access_eq_ok_iff {reached : List String × NodeId} :
    h.access t rights (.ok way) = .ok reached ↔
      (∀ r ∈ rights, h.grants r = true) ∧ reached.1 = way ∧ h.reach t way = .ok reached.2 := by
  have haccess : h.access t rights (.ok way) =
      rights.forM h.require >>= fun _ => h.reach t way >>= fun id => .ok (way, id) := rfl
  obtain ⟨way', id⟩ := reached
  rw [haccess, Outcome.bind_eq_ok, ← forM_require_eq_ok_iff]
  constructor
  · rintro ⟨granted, hgranted, hreach⟩
    obtain ⟨id', hid, he⟩ := Outcome.bind_eq_ok.1 hreach
    obtain ⟨rfl, rfl⟩ := Prod.mk.inj (Except.ok.inj he)
    exact ⟨hgranted, rfl, hid⟩
  · rintro ⟨hgranted, rfl, hid⟩
    exact ⟨(), hgranted, Outcome.bind_eq_ok.2 ⟨id, hid, rfl⟩⟩

/-- An access fails with what reaching the node fails with, if the rights are there. -/
lemma access_of_reach_error {e : LoadError} (hg : ∀ r ∈ rights, h.grants r = true)
    (hr : h.reach t way = .error e) : h.access t rights (.ok way) = .error e := by
  have haccess : h.access t rights (.ok way) =
      rights.forM h.require >>= fun _ => h.reach t way >>= fun id => .ok (way, id) := rfl
  rw [haccess, forM_require_eq_ok_iff.2 hg, hr]
  rfl

/-- The end of a way is reached if its path holds no NUL and leads there. -/
lemma reach_eq_ok_iff (hd : h.directory = some dir) :
    h.reach t way = .ok id ↔
      holdsNul (relativeText way) = false ∧ t.resolve dir (relativeText way) = .ok id := by
  have hdescriptor : h.descriptor = .ok dir := by rw [descriptor, hd]
  rw [reach_eq, hdescriptor]
  cases holdsNul (relativeText way) with
  | true => simp
  | false =>
    rw [if_neg Bool.false_ne_true, and_iff_right rfl]
    exact Outcome.mapError_eq_ok

/-- An access leads to the end of its way, and the rights for it are there. -/
lemma exists_of_access {way? : Outcome (List String)} {reached : List String × NodeId}
    (ha : h.access t rights way? = .ok reached) :
    ∃ way, way? = .ok way ∧ (∀ r ∈ rights, h.grants r = true) ∧ reached.1 = way ∧
      h.reach t way = .ok reached.2 := by
  obtain ⟨way, rfl, -⟩ := Outcome.bind_eq_ok.1 ha
  exact ⟨way, rfl, access_eq_ok_iff.1 ha⟩

/-- A directory beneath a handle is opened if names may be looked up and the path leads to a
directory. -/
theorem subdirectory_eq_ok_iff :
    h.subdirectory t path = .ok g ↔ ∃ way id, h.relative path = .ok way ∧ h.grants .lookup = true ∧
      h.reach t way = .ok id ∧ t.isDirectory id = true ∧
      g = ⟨h.name ++ way, some id, h.rights⟩ := by
  rw [subdirectory_eq_access]
  constructor
  · intro hs
    obtain ⟨reached, ha, hs⟩ := Outcome.bind_eq_ok.1 hs
    obtain ⟨way, hway, hg, rfl, hid⟩ := exists_of_access ha
    split at hs
    · next hdir => exact ⟨_, _, hway, hg _ (by simp), hid, hdir, (Except.ok.inj hs).symm⟩
    · cases hs
  · rintro ⟨way, id, hway, hg, hid, hdir, rfl⟩
    have ha : h.access t [.lookup] (.ok way) = .ok (way, id) :=
      access_eq_ok_iff.2 ⟨by simpa using hg, rfl, hid⟩
    rw [hway, ha]
    exact if_pos hdir

/-- A directory beneath a handle is not opened if it is not reached. -/
lemma subdirectory_of_reach_error {e : LoadError} (hp : h.relative path = .ok way)
    (hg : h.grants .lookup = true) (hr : h.reach t way = .error e) :
    h.subdirectory t path = .error e := by
  rw [subdirectory_eq_access, hp, access_of_reach_error (by simpa using hg) hr]
  rfl

/-- A path is told about if that is granted and the path leads to a node. -/
theorem stat_eq_ok_iff {m : Metadata} :
    h.stat t path = .ok m ↔ ∃ way id, h.relative path = .ok way ∧ h.grants .fstat = true ∧
      h.reach t way = .ok id ∧ m = t.metadata id := by
  rw [stat_eq_access]
  constructor
  · intro hs
    obtain ⟨reached, ha, hs⟩ := Outcome.bind_eq_ok.1 hs
    obtain ⟨way, hway, hg, rfl, hid⟩ := exists_of_access ha
    exact ⟨_, _, hway, hg _ (by simp), hid, (Except.ok.inj hs).symm⟩
  · rintro ⟨way, id, hway, hg, hid, rfl⟩
    have ha : h.access t [.fstat] (.ok way) = .ok (way, id) :=
      access_eq_ok_iff.2 ⟨by simpa using hg, rfl, hid⟩
    rw [hway, ha]
    rfl

/-! ## Two steps -/

/-- Relative paths are taken in the same way by all handles. -/
lemma relative_of_not_isAbsolute (hp : Path.isAbsolute path = false)
    (hr : h.relative path = .ok way) (g : Handle) : g.relative path = .ok way := by
  rw [relative_eq_ok_iff, hp] at hr ⊢
  exact hr

/-- Through a handle by which something is reached there is a directory. -/
lemma exists_directory_of_reach (hr : h.reach t way = .ok id) : ∃ dir, h.directory = some dir := by
  obtain ⟨dir, hdir, -⟩ := of_reach hr
  rw [descriptor] at hdir
  split at hdir
  · next dir' hd => exact ⟨dir', hd⟩
  · cases hdir

/-- The end of a way is reached from a directory on it. -/
lemma exists_of_reach_append (hbefore : ∀ s ∈ before, IsName s) (hway : ∀ s ∈ way, IsName s)
    (hw : way ≠ []) (hr : h.reach t (before ++ way) = .ok id) :
    ∃ mid, h.reach t before = .ok mid ∧ t.isDirectory mid = true ∧
      ∀ g : Handle, g.directory = some mid → g.reach t way = .ok id := by
  obtain ⟨dir, hd⟩ := exists_directory_of_reach hr
  rw [reach_eq_ok_iff hd, holdsNul_relativeText_append hw, Bool.or_eq_false_iff] at hr
  obtain ⟨⟨hnulBefore, hnulWay⟩, hresolve⟩ := hr
  obtain ⟨mid, hmid, hdirectory, hid⟩ := Tree.exists_of_resolve_append hbefore hway hw hresolve
  exact ⟨mid, (reach_eq_ok_iff hd).2 ⟨hnulBefore, hmid⟩, hdirectory,
    fun g hg => (reach_eq_ok_iff hg).2 ⟨hnulWay, hid⟩⟩

/-- What is reached from the directory of a handle is at the end of the way from there. -/
lemma walk_of_reach (hd : h.directory = some dir) (hway : ∀ s ∈ way, IsName s)
    (hr : h.reach t way = .ok id) : t.walk Tree.maxLinks dir way = .ok id :=
  Tree.walk_of_resolve hway ((reach_eq_ok_iff hd).1 hr).2

/-- What is reached from a directory on the way is at the end of the way, within the limits of the
operating system. -/
lemma reach_append (hd : h.directory = some dir) (hbefore : ∀ s ∈ before, IsName s)
    (hway : ∀ s ∈ way, IsName s) (hw : way ≠ []) (hmid : h.reach t before = .ok mid)
    (hg : g.directory = some mid) (hid : g.reach t way = .ok id) :
    h.reach t (before ++ way) =
      if Tree.maxPath ≤ (relativeText (before ++ way)).utf8ByteSize then
        .error (.io (.os .nameTooLong))
      else if t.walk Tree.maxLinks dir (before ++ way) = .error .tooManyLinks then
        .error (.io (.os .tooManyLinks))
      else .ok id := by
  obtain ⟨hnulBefore, hmid⟩ := (reach_eq_ok_iff hd).1 hmid
  obtain ⟨hnulWay, hid⟩ := (reach_eq_ok_iff hg).1 hid
  have hdescriptor : h.descriptor = .ok dir := by rw [descriptor, hd]
  rw [reach_eq, holdsNul_relativeText_append hw, hnulBefore, hnulWay, hdescriptor]
  simp only [Bool.or_self, Bool.false_eq_true, if_false, Bind.bind, Except.bind]
  rw [Tree.resolve_append hbefore hway hw hmid hid]
  split_ifs <;> rfl

/-- What is reached from a directory on the way is at the end of the way, or the way has passed a
limit of the operating system. -/
lemma reach_append_cases (hbefore : ∀ s ∈ before, IsName s) (hway : ∀ s ∈ way, IsName s)
    (hw : way ≠ []) (hmid : h.reach t before = .ok mid) (hg : g.directory = some mid)
    (hid : g.reach t way = .ok id) :
    h.reach t (before ++ way) = .ok id ∨
      ∃ e : LoadError, e.IsPathLimit ∧ h.reach t (before ++ way) = .error e := by
  obtain ⟨dir, hd⟩ := exists_directory_of_reach hmid
  rw [reach_append hd hbefore hway hw hmid hg hid]
  split_ifs
  · exact .inr ⟨_, .inl rfl, rfl⟩
  · exact .inr ⟨_, .inr rfl, rfl⟩
  · exact .inl rfl

/-- Without links, only the length of the path is a limit. -/
lemma reach_append_of_isLinkFree (hl : t.IsLinkFree) (hbefore : ∀ s ∈ before, IsName s)
    (hway : ∀ s ∈ way, IsName s) (hw : way ≠ []) (hmid : h.reach t before = .ok mid)
    (hg : g.directory = some mid) (hid : g.reach t way = .ok id) :
    h.reach t (before ++ way) =
      if Tree.maxPath ≤ (relativeText (before ++ way)).utf8ByteSize then
        .error (.io (.os .nameTooLong))
      else .ok id := by
  obtain ⟨dir, hd⟩ := exists_directory_of_reach hmid
  have hlinks := hl.walk_ne_tooManyLinks Tree.maxLinks dir (before ++ way)
  rw [reach_append hd hbefore hway hw hmid hg hid, if_neg hlinks]

/-- An operation does for a path beneath another one in one step what it does in two. What it gives
in one step, a handle on the directory of the first path gives for the second. What it gives in two
steps, it gives in one, unless the operating system does not take the path at once. -/
def AgreesInSteps (h : Handle) (t : Tree) (path path' : String)
    (operation : Handle → String → Outcome α) : Prop :=
  (∀ v, operation h (Path.join path path') = .ok v →
    ∃ g, h.subdirectory t path = .ok g ∧ operation g path' = .ok v) ∧
  ∀ g v, h.subdirectory t path = .ok g → operation g path' = .ok v →
    operation h (Path.join path path') = .ok v ∨
      ∃ e : LoadError, e.IsPathLimit ∧ operation h (Path.join path path') = .error e

/-- An operation agrees in steps if it is told by the node at the end of the way, by the path of
that node and by the rights. -/
lemma agreesInSteps_of_access {operation : Handle → String → Outcome α} (rights : List Right)
    (finish : List String → NodeId → Outcome α) (hlookup : h.grants .lookup = true)
    (hp : Path.isAbsolute path = false) (hp' : Path.isAbsolute path' = false)
    (hr : h.relative path = .ok before) (hr' : h.relative path' = .ok way) (hw : way ≠ [])
    (hop : ∀ (g : Handle) (p : String) (w : List String), g.rights = h.rights →
      g.relative p = .ok w → w ≠ [] → operation g p =
        g.access t rights (.ok w) >>= fun reached => finish (g.name ++ reached.1) reached.2) :
    h.AgreesInSteps t path path' operation := by
  have hbefore := isName_of_relative hr
  have hway := isName_of_relative hr'
  have hjoin : h.relative (Path.join path path') = .ok (before ++ way) :=
    relative_join hp hp' hr hr'
  -- The operation in one step, and the same operation through the handle in between.
  have hone := hop h _ _ rfl hjoin (by simp [hw])
  have htwo (g : Handle) (hg : g.rights = h.rights) :=
    hop g _ _ hg (relative_of_not_isAbsolute hp' hr' g) hw
  refine ⟨fun v hv => ?_, fun g v hs hv => ?_⟩
  · rw [hone] at hv
    obtain ⟨reached, ha, hfinish⟩ := Outcome.bind_eq_ok.1 hv
    obtain ⟨hgrants, hreached, hid⟩ := access_eq_ok_iff.1 ha
    obtain ⟨mid, hmid, hdirectory, hend⟩ := exists_of_reach_append hbefore hway hw hid
    refine ⟨⟨h.name ++ before, some mid, h.rights⟩,
      subdirectory_eq_ok_iff.2 ⟨before, mid, hr, hlookup, hmid, hdirectory, rfl⟩, ?_⟩
    rw [htwo ⟨h.name ++ before, some mid, h.rights⟩ rfl]
    refine Outcome.bind_eq_ok.2 ⟨(way, reached.2),
      access_eq_ok_iff.2 ⟨hgrants, rfl, hend _ rfl⟩, ?_⟩
    rw [hreached] at hfinish
    rwa [List.append_assoc]
  · obtain ⟨before', mid, hr'', -, hmid, -, rfl⟩ := subdirectory_eq_ok_iff.1 hs
    obtain rfl := Except.ok.inj (hr.symm.trans hr'')
    rw [htwo ⟨h.name ++ before, some mid, h.rights⟩ rfl] at hv
    obtain ⟨reached, ha, hfinish⟩ := Outcome.bind_eq_ok.1 hv
    obtain ⟨hgrants, hreached, hid⟩ := access_eq_ok_iff.1 ha
    rw [hreached, List.append_assoc] at hfinish
    rw [hone]
    rcases reach_append_cases hbefore hway hw hmid rfl hid with hend | ⟨e, he, hend⟩
    · exact .inl (Outcome.bind_eq_ok.2
        ⟨(before ++ way, reached.2), access_eq_ok_iff.2 ⟨hgrants, rfl, hend⟩, hfinish⟩)
    · refine .inr ⟨e, he, ?_⟩
      rw [access_of_reach_error (h := h) hgrants hend]
      rfl

/-- A file is opened, and a directory opened and told about, in one step as in two: what a path
names beneath the directory of another path, through a handle that grants to look names up. A file
that is opened is the same node by the same name.

**Proof sketch.** The ways of both paths make up the way of the path that is joined from them. A
walk along it is in the directory of the first path when it is through the first way, has fewer
links left than a walk that begins there, and has a longer path. -/
theorem agreesInSteps (h : Handle) (t : Tree) (path path' : String) (before way : List String)
    (hlookup : h.grants .lookup = true) (hp : Path.isAbsolute path = false)
    (hp' : Path.isAbsolute path' = false) (hr : h.relative path = .ok before)
    (hr' : h.relative path' = .ok way) (hw : way ≠ []) :
    (∀ mode, h.AgreesInSteps t path path' (·.openFileMode t · mode)) ∧
      h.AgreesInSteps t path path' (·.stat t ·) ∧
      h.AgreesInSteps t path path' (·.subdirectory t ·) := by
  refine ⟨fun mode => ?_, ?_, ?_⟩
  · by_cases hletters : mode.toList.filter isRefusedLetter = []
    · refine agreesInSteps_of_access [.read, .lookup]
        (fun name id => .ok ⟨Path.absoluteText name, id⟩) hlookup hp hp' hr hr' hw
        fun g p w _ hgp hne => ?_
      have hway : g.wayToFile p mode = .ok w := by
        rw [wayToFile, if_neg (not_not.2 hletters), hgp]
        exact if_neg hne
      rw [openFileMode_eq_access, hway]
    · -- A mode that is refused opens nothing in any number of steps.
      have hrefused (g : Handle) (p : String) : ∃ e, g.openFileMode t p mode = .error e := by
        rw [openFileMode_eq, if_pos hletters]
        exact ⟨_, rfl⟩
      refine ⟨fun v hv => ?_, fun g v _ hv => ?_⟩
      · obtain ⟨e, he⟩ := hrefused h (Path.join path path')
        exact absurd (he.symm.trans hv) (by simp)
      · obtain ⟨e, he⟩ := hrefused g path'
        exact absurd (he.symm.trans hv) (by simp)
  · refine agreesInSteps_of_access [.fstat] (fun _ id => .ok (t.metadata id))
      hlookup hp hp' hr hr' hw fun g p w _ hgp _ => ?_
    rw [stat_eq_access, hgp]
  · refine agreesInSteps_of_access [.lookup]
      (fun name id =>
        if t.isDirectory id then .ok ⟨name, some id, h.rights⟩
        else .error (.io (.os .notDirectory)))
      hlookup hp hp' hr hr' hw fun g p w hg hgp _ => ?_
    rw [subdirectory_eq_access, hgp, hg]

/-- Through a link out of its directory, a handle leads to a file at once and in two steps. -/
theorem agreesInSteps_linked :
    let t : Tree := .linked
    let h : Handle := ⟨["box"], some 1, none⟩
    ∃ g file, h.openFileMode t "x/../link/x/.././secret.txt" "rb" = .ok file ∧
      h.subdirectory t "x/../link" = .ok g ∧
      g.openFileMode t "x/.././secret.txt" "rb" = .ok file := by
  intro t h
  have hone : (h.openFileMode t (Path.join "x/../link" "x/.././secret.txt") "rb").toOption.isSome =
      true := by
    decide +kernel
  cases ho : h.openFileMode t (Path.join "x/../link" "x/.././secret.txt") "rb" with
  | error e =>
    rw [ho] at hone
    cases hone
  | ok file =>
    obtain ⟨g, hg, htwo⟩ := ((agreesInSteps h t "x/../link" "x/.././secret.txt" ["link"]
      ["secret.txt"] rfl (by decide) (by decide) rfl rfl (by decide)).1 "rb").1 file ho
    exact ⟨g, file, ho, hg, htwo⟩

end Handle

end UnitLoader
