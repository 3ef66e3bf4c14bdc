import UnitLoader.Proofs.Handle.Rights

/-!
# Closed handles

A handle that was closed stays closed. Nothing is reached through it any more, and it cannot be
limited. But that it is closed is found out last, when the directory is needed: before that, a path,
a mode or a right can be refused, and a question about a path that is refused is answered with no.

## Main definitions

* `UnitLoader.LeadsOn` — a way can be gone by the operating system.
* `UnitLoader.Handle.FailsAsClosed` — an operation fails, and whether it does so because the handle
  is closed.
* `UnitLoader.Handle.DeniesAsClosed` — the same for a question.

## Main results

* `UnitLoader.Handle.access_closed` — an access through a closed handle fails.
* `UnitLoader.HandleAction.isClosed_of_performAll` — no action opens a closed handle again.
* `UnitLoader.HandleAction.fails_of_close` — what comes of everything that is done with a handle
  after it was closed.
-/

set_option relaxedAutoImplicit false
set_option autoImplicit false

namespace UnitLoader

/-- There is a way, and its text holds no NUL. -/
def LeadsOn (way : Outcome (List String)) : Prop :=
  ∃ names, way = .ok names ∧ holdsNul (Path.relativeText names) = false

namespace Handle

variable {α : Type} {h : Handle} {asked : Prop}

/-- An operation fails. What it fails with is that the handle is closed if what is asked for is
proper, and something else if not. -/
def FailsAsClosed (h : Handle) (x : Outcome α) (asked : Prop) : Prop :=
  ∃ e, x = .error e ∧ (e = .closedHandle h.nameText ↔ asked)

/-- A question about a path is not affirmed. It fails with that the handle is closed if there is a
way and the right to ask, and is denied only if there is no way. -/
def DeniesAsClosed (h : Handle) (x : Outcome Bool) (path : String) : Prop :=
  x ≠ .ok true ∧
  (x = .error (.closedHandle h.nameText) ↔ LeadsOn (h.relative path) ∧ h.grants .fstat = true) ∧
  (x = .ok false → ¬ LeadsOn (h.relative path))

/-! ## Accesses -/

/-- What is to be done after an operation that fails as closed does not matter. -/
lemma FailsAsClosed.bind {β : Type} {x : Outcome α} (hx : h.FailsAsClosed x asked)
    (next : α → Outcome β) : h.FailsAsClosed (x >>= next) asked := by
  obtain ⟨e, rfl, he⟩ := hx
  exact ⟨e, rfl, he⟩

/-- A closed handle takes no limit. -/
lemma limit_closed (hc : h.isClosed = true) (limit : Rights) :
    h.limit limit = .error (.closedHandle h.nameText) := by
  rw [limit_eq, if_pos hc]

/-- From a closed handle nothing is reached. A path with a NUL is refused before that is noticed. -/
lemma reach_closed (hc : h.isClosed = true) (t : Tree) (way : List String) :
    h.reach t way = .error (if holdsNul (Path.relativeText way) then
      .badPath (.holdsNul (Path.relativeText way)) else .closedHandle h.nameText) := by
  have hdescriptor : h.descriptor = .error (.closedHandle h.nameText) := by
    rw [descriptor, Option.isNone_iff_eq_none.1 hc]
  rw [reach_eq, hdescriptor]
  split <;> rfl

/-- That the handle is closed is told by an access for which everything else is in order. -/
lemma access_closed (hc : h.isClosed = true) (t : Tree) (rights : List Right)
    {way : Outcome (List String)} (hway : way ≠ .error (.closedHandle h.nameText)) :
    h.FailsAsClosed (h.access t rights way) (LeadsOn way ∧ ∀ r ∈ rights, h.grants r = true) := by
  cases way with
  | error e =>
    refine ⟨e, rfl, fun he => ?_, ?_⟩
    · exact absurd (congrArg Except.error he) hway
    · rintro ⟨⟨names, hnames, -⟩, -⟩
      cases hnames
  | ok names =>
    -- The rights are asked for before the directory is.
    have haccess : h.access t rights (.ok names) =
        rights.forM h.require >>= fun _ => h.reach t names >>= fun id => .ok (names, id) := rfl
    rw [haccess, forM_require]
    cases hr : rights.find? (!h.grants ·) with
    | some r =>
      refine ⟨.rightsDenied h.nameText r.name, rfl, nofun, fun ⟨_, hall⟩ => ?_⟩
      have hdenied := List.find?_some hr
      rw [hall r (List.mem_of_find?_eq_some hr)] at hdenied
      cases hdenied
    | none =>
      have hall : ∀ r ∈ rights, h.grants r = true := by simpa using hr
      rw [reach_closed hc]
      refine ⟨_, rfl, ?_⟩
      cases hnul : holdsNul (Path.relativeText names) with
      | true =>
        refine ⟨nofun, ?_⟩
        rintro ⟨⟨names', hnames, hnul'⟩, -⟩
        obtain rfl := Except.ok.inj hnames
        rw [hnul] at hnul'
        cases hnul'
      | false => exact ⟨fun _ => ⟨⟨names, rfl, hnul⟩, hall⟩, fun _ => rfl⟩

/-- That a path names no way is never for a closed handle. -/
lemma relative_ne_closed (h : Handle) (path : String) :
    h.relative path ≠ .error (.closedHandle h.nameText) := by
  rw [relative]
  cases Path.relativeTo? h.name path <;> simp [Except.mapError]

/-- That a path names no way to a file is never for a closed handle. -/
lemma wayToFile_ne_closed (h : Handle) (path mode : String) :
    h.wayToFile path mode ≠ .error (.closedHandle h.nameText) := by
  have hrelative := h.relative_ne_closed path
  rw [wayToFile]
  split
  · simp
  · generalize h.relative path = way at hrelative
    cases way with
    | error e => exact hrelative
    | ok way =>
      show (if way = [] then _ else _) ≠ _
      split <;> simp

/-- A file is not opened through a closed handle. -/
lemma openFileMode_closed (hc : h.isClosed = true) (t : Tree) (path mode : String) :
    h.FailsAsClosed (h.openFileMode t path mode)
      (LeadsOn (h.wayToFile path mode) ∧ ∀ r ∈ [Right.read, .lookup], h.grants r = true) := by
  rw [openFileMode_eq_access]
  exact (access_closed hc t _ (h.wayToFile_ne_closed path mode)).bind _

/-- A subdirectory is not opened through a closed handle. -/
lemma subdirectory_closed (hc : h.isClosed = true) (t : Tree) (path : String) :
    h.FailsAsClosed (h.subdirectory t path)
      (LeadsOn (h.relative path) ∧ ∀ r ∈ [Right.lookup], h.grants r = true) := by
  rw [subdirectory_eq_access]
  exact (access_closed hc t _ (h.relative_ne_closed path)).bind _

/-- Nothing is told through a closed handle. -/
lemma stat_closed (hc : h.isClosed = true) (t : Tree) (path : String) :
    h.FailsAsClosed (h.stat t path)
      (LeadsOn (h.relative path) ∧ ∀ r ∈ [Right.fstat], h.grants r = true) := by
  rw [stat_eq_access]
  exact (access_closed hc t _ (h.relative_ne_closed path)).bind _

/-- Nothing is listed through a closed handle. -/
lemma list_closed (hc : h.isClosed = true) (t : Tree) :
    h.FailsAsClosed (h.list t) (∀ r ∈ [Right.read, .lookup], h.grants r = true) := by
  have hself : LeadsOn (.ok []) := ⟨[], rfl, by decide⟩
  rw [list_eq_access]
  have haccess : h.FailsAsClosed (h.access t [.read, .lookup] (.ok []))
      (LeadsOn (.ok []) ∧ ∀ r ∈ [Right.read, .lookup], h.grants r = true) :=
    access_closed hc t _ (by simp)
  rw [and_iff_right hself] at haccess
  exact haccess.bind _

/-- Where there is a way, a lack of rights is told first. -/
lemma stat_closed_of_leadsOn (hc : h.isClosed = true) (t : Tree) {path : String}
    (hway : LeadsOn (h.relative path)) :
    h.stat t path = .error (if h.grants .fstat then .closedHandle h.nameText
      else .rightsDenied h.nameText Right.fstat.name) := by
  obtain ⟨names, hnames, hnul⟩ := hway
  rw [stat, hnames]
  show (h.require .fstat >>= fun _ => h.reach t names >>= _) = _
  rw [require, reach_closed hc, hnul]
  split <;> rfl

/-- A question is denied only if there is no way. -/
lemma question_closed (hc : h.isClosed = true) (t : Tree) (path : String)
    {f : Option Metadata → Bool} (hf : f none = false) :
    h.DeniesAsClosed ((h.stat? t path).map f) path := by
  obtain ⟨e, he, hiff⟩ := stat_closed hc t path
  refine ⟨map_stat?_ne_true he hf, ?_⟩
  by_cases hway : LeadsOn (h.relative path)
  · simp only [stat?, stat_closed_of_leadsOn hc t hway]
    cases h.grants .fstat <;> simp [hway, Except.map]
  · refine ⟨⟨fun hclosed => ?_, fun hasked => absurd hasked.1 hway⟩, fun _ => hway⟩
    cases hs : h.stat? t path with
    | ok m? => simp [hs, Except.map] at hclosed
    | error e' =>
      have hsame : e = e' := Except.error.inj (he.symm.trans (stat_of_stat?_error hs))
      obtain rfl : e' = .closedHandle h.nameText := by simpa [hs, Except.map] using hclosed
      exact absurd (hiff.1 hsame).1 hway

end Handle

namespace HandleAction

variable {hs : List Handle} {h : Handle} {n : Nat}

/-- A handle that was closed is closed after any actions. -/
lemma isClosed_of_performAll {g : Handle} (steps : List (Ambient × HandleAction))
    (hn : hs[n]? = some h) (hc : h.isClosed = true) (hg : (performAll hs steps)[n]? = some g) :
    g.isClosed = true := by
  obtain ⟨g', hg', -, -, hdirectory⟩ := get?_performAll steps hn
  obtain rfl : g' = g := Option.some.inj (hg'.symm.trans hg)
  have hnone : h.directory = none := Option.isNone_iff_eq_none.1 hc
  rw [Handle.isClosed, hdirectory.elim (·.trans hnone) id]
  rfl

/-- A handle that was closed is closed after whatever is done then. -/
lemma isClosed_of_close (a : Ambient) (steps : List (Ambient × HandleAction))
    (hn : n < hs.length) (hh : (performAll hs ((a, close n) :: steps))[n]? = some h) :
    h.isClosed = true := by
  refine isClosed_of_performAll (h := hs[n].close) steps ?_ rfl hh
  simp [perform, hn]

/-- A handle that was closed at any time stays closed, whatever is done afterwards. It cannot be
limited. Nothing is opened, told about or listed through it, and no question is affirmed. What they
fail with is that the handle is closed exactly if the path leads on and the rights are there; if
not, a path, a mode or a right that is refused is told before. A question is denied only for a path
that leads nowhere.

**Proof sketch.** No action opens a handle again, and each operation is an access that asks for the
way first, for the rights next, and for the directory last (`Handle.access`). -/
theorem fails_of_close (before after : List (Ambient × HandleAction)) (a : Ambient) (n : Nat)
    (h : Handle) (hn : n < (performAll [] before).length)
    (hh : (performAll [] (before ++ (a, close n) :: after))[n]? = some h) :
    h.isClosed = true ∧ (∀ limit, h.limit limit = .error (.closedHandle h.nameText)) ∧
    ∀ t, h.FailsAsClosed (h.list t) (∀ r ∈ [Right.read, .lookup], h.grants r = true) ∧
      ∀ path,
        (∀ mode, h.FailsAsClosed (h.openFileMode t path mode)
          (LeadsOn (h.wayToFile path mode) ∧ ∀ r ∈ [Right.read, .lookup], h.grants r = true)) ∧
        h.FailsAsClosed (h.subdirectory t path)
          (LeadsOn (h.relative path) ∧ ∀ r ∈ [Right.lookup], h.grants r = true) ∧
        h.FailsAsClosed (h.stat t path)
          (LeadsOn (h.relative path) ∧ ∀ r ∈ [Right.fstat], h.grants r = true) ∧
        h.DeniesAsClosed (h.leadsAnywhere t path) path ∧
        h.DeniesAsClosed (h.isFile t path) path ∧ h.DeniesAsClosed (h.isDirectory t path) path := by
  have hc : h.isClosed = true := by
    rw [performAll_append] at hh
    exact isClosed_of_close a after hn hh
  refine ⟨hc, Handle.limit_closed hc, fun t => ⟨Handle.list_closed hc t, fun path => ?_⟩⟩
  exact ⟨Handle.openFileMode_closed hc t path, Handle.subdirectory_closed hc t path,
    Handle.stat_closed hc t path, Handle.question_closed hc t path rfl,
    Handle.question_closed hc t path rfl, Handle.question_closed hc t path rfl⟩

/-- A file beneath a directory is not told about once the handle on the directory was closed. -/
theorem fails_of_close_box :
    let t : Tree := ⟨[.directory 0 (.ofList [("box", 1)]) 0, .directory 0 (.ofList [("a", 2)]) 0,
      .file (.bytes [0x78]) 0]⟩
    let before : List (Ambient × HandleAction) := [(⟨t, 0⟩, openRoot "/box")]
    0 < (performAll [] before).length ∧
    ∃ h, (performAll [] (before ++ [(⟨t, 0⟩, close 0)]))[0]? = some h ∧ h.isClosed = true ∧
      h.stat t "a" = .error (.closedHandle "/box") := by
  intro t before
  have hn : 0 < (performAll [] before).length := by decide +kernel
  have hh : (performAll [] (before ++ [(⟨t, 0⟩, close 0)]))[0]? = some ⟨["box"], none, none⟩ := by
    rfl
  obtain ⟨hc, -, hfails⟩ := fails_of_close before [] ⟨t, 0⟩ 0 _ hn hh
  obtain ⟨-, -, ⟨e, he, hiff⟩, -⟩ := (hfails t).2 "a"
  have hway : LeadsOn (Handle.relative ⟨["box"], none, none⟩ "a") := ⟨["a"], rfl, by decide⟩
  exact ⟨hn, _, hh, hc, he.trans (congrArg _ (hiff.2 ⟨hway, by simp [Handle.grants]⟩))⟩

/-- Through a closed handle, a question about an empty path is answered, and what lacks a right
fails for that. -/
theorem not_closed_of_close :
    let t : Tree := ⟨[.directory 0 (.ofList [("box", 1)]) 0, .directory 0 (.ofList [("a", 2)]) 0,
      .file (.bytes [0x78]) 0]⟩
    let steps : List (Ambient × HandleAction) :=
      [openRoot "/box", limit 0 (.ofList [.lookup]), close 0].map (⟨t, 0⟩, ·)
    ∃ h, (performAll [] steps)[0]? = some h ∧ h.isClosed = true ∧
      h.leadsAnywhere t "" = .ok false ∧ h.openFile t "" = .error (.badPath .empty) ∧
      h.list t = .error (.rightsDenied "/box" "read") ∧
      h.stat t "a" = .error (.rightsDenied "/box" "fstat") := by
  exact ⟨⟨["box"], none, some (.ofList [.lookup])⟩, rfl, rfl, rfl, rfl, rfl, rfl⟩

end HandleAction

end UnitLoader
