import UnitLoader.Proofs.Handle

/-!
# The rights of handles

A root is opened without a limit, and a directory beneath it with the rights of the handle that it
is opened through. After that, every limit leaves what both have. So what a handle grants is told by
the way in which it was opened and by its limits, in whatever order they came. What a handle does
not grant cannot be done through it, and the attempt tells nothing of the tree.

## Main definitions

* `UnitLoader.Handle.access` — what all operations have in common: a way, rights, and a node.
* `UnitLoader.Handle.FailsBlindly` — an operation fails without a look at the tree.
* `UnitLoader.HandleAction` — what is done with handles, with `perform` and `performAll`.
* `UnitLoader.HandleAction.Opens` — an action opens a handle, with certain rights.
* `UnitLoader.HandleAction.allLimitsOn` — the limits that actions put on a handle.

## Main results

* `UnitLoader.Handle.access_denied` — without one of its rights, an access fails blindly.
* `UnitLoader.HandleAction.get?_performAll` — what actions do to a handle that is open already.
* `UnitLoader.HandleAction.rights_performAll` — the rights of every handle after any actions, and
  what cannot be done without them.
-/

set_option relaxedAutoImplicit false
set_option autoImplicit false

namespace UnitLoader

namespace Handle

variable {α : Type} {h : Handle} {t : Tree} {r : Right} {rights : List Right}
  {path mode : String} {e : LoadError}

/-! ## Accesses -/

/-- The way to a file that a path names, which is to be opened in a mode. -/
def wayToFile (h : Handle) (path mode : String) : Outcome (List String) :=
  if mode.toList.filter isRefusedLetter ≠ [] then
    .error (.badMode (.refused (String.ofList (mode.toList.filter isRefusedLetter))))
  else do
    let way ← h.relative path
    if way = [] then .error (.badPath (.namesDirectory path)) else .ok way

/-- A way and the node at its end, if there are the rights to go there. -/
def access (h : Handle) (t : Tree) (rights : List Right) (way : Outcome (List String)) :
    Outcome (List String × NodeId) := do
  let way ← way
  rights.forM h.require
  let id ← h.reach t way
  return (way, id)

/-- Two rights are required one after the other. -/
lemma forM_require_pair (h : Handle) (r q : Right) :
    [r, q].forM h.require = h.require r >>= fun _ => h.require q := by
  simp

/-- One right is required by itself. -/
lemma forM_require_singleton (h : Handle) (r : Right) : [r].forM h.require = h.require r := by
  simp

/-- Opening a file is an access with the rights to read and to look up. -/
lemma openFileMode_eq_access (h : Handle) (t : Tree) (path mode : String) :
    h.openFileMode t path mode =
      h.access t [.read, .lookup] (h.wayToFile path mode) >>= fun reached =>
        .ok ⟨Path.absoluteText (h.name ++ reached.1), reached.2⟩ := by
  rw [openFileMode_eq, access, wayToFile, forM_require_pair]
  split
  · rfl
  · simp only [bind_assoc, reachToOpen]
    refine bind_congr fun way => ?_
    split <;> rfl

/-- Opening a subdirectory is an access with the right to look up, to a directory. -/
lemma subdirectory_eq_access (h : Handle) (t : Tree) (path : String) :
    h.subdirectory t path =
      h.access t [.lookup] (h.relative path) >>= fun reached =>
        if t.isDirectory reached.2 then .ok ⟨h.name ++ reached.1, some reached.2, h.rights⟩
        else .error (.io (.os .notDirectory)) := by
  rw [subdirectory, access, forM_require_singleton]
  simp only [bind_assoc, reachToOpen]
  rfl

/-- Telling of a path is an access with the right to do so. -/
lemma stat_eq_access (h : Handle) (t : Tree) (path : String) :
    h.stat t path =
      h.access t [.fstat] (h.relative path) >>= fun reached => .ok (t.metadata reached.2) := by
  rw [stat, access, forM_require_singleton]
  simp only [bind_assoc]
  rfl

/-- Listing is an access to the directory itself with the rights to read and to look up. -/
lemma list_eq_access (h : Handle) (t : Tree) :
    h.list t = h.access t [.read, .lookup] (.ok []) >>= fun reached =>
      match t.node? reached.2 with
      | some (.directory _ entries _) => .ok entries.sortedNames
      | _ => .error (.io (.os .notDirectory)) := by
  rw [list, access, forM_require_pair]
  simp only [bind_assoc, reachToOpen]
  rfl

/-! ## What is not granted -/

/-- An operation fails in the same way in all trees, wherever in them the directory is. -/
def FailsBlindly (h : Handle) (operation : Handle → Tree → Outcome α) : Prop :=
  ∃ e, ∀ t directory, operation { h with directory } t = .error e

/-- A question is never answered with yes, and answered in the same way in all trees. -/
def NeverAffirms (h : Handle) (question : Handle → Tree → Outcome Bool) : Prop :=
  ∃ x, x ≠ .ok true ∧ ∀ t directory, question { h with directory } t = x

/-- The first right that is not granted is told. -/
lemma forM_require (h : Handle) (rights : List Right) :
    rights.forM h.require = match rights.find? (!h.grants ·) with
      | some r => .error (.rightsDenied h.nameText r.name)
      | none => .ok () := by
  induction rights with
  | nil => rfl
  | cons r rights ih =>
    rw [List.forM_eq_forM, List.forM_cons, require]
    cases hr : h.grants r with
    | true =>
      rw [List.find?_cons_of_neg (by simp [hr]), ← ih]
      rfl
    | false =>
      rw [List.find?_cons_of_pos (by simp [hr])]
      rfl

/-- Without one of its rights, an access fails before the tree is looked at. -/
lemma access_denied (hd : ∃ r ∈ rights, h.grants r = false) {way : Handle → Outcome (List String)}
    (hway : ∀ directory, way { h with directory } = way h) :
    h.FailsBlindly fun h t => h.access t rights (way h) := by
  obtain ⟨r, hr⟩ : ∃ r, rights.find? (!h.grants ·) = some r := by
    rw [← Option.isSome_iff_exists, List.find?_isSome]
    simpa using hd
  have hrights := h.forM_require rights
  rw [hr] at hrights
  cases hw : way h with
  | error e =>
    refine ⟨e, fun t directory => ?_⟩
    show (way { h with directory } >>= _) = _
    rw [hway, hw]
    rfl
  | ok names =>
    refine ⟨.rightsDenied h.nameText r.name, fun t directory => ?_⟩
    show (way { h with directory } >>= _) = _
    rw [hway, hw]
    show (rights.forM h.require >>= _) = _
    rw [hrights]
    rfl

/-- What fails blindly fails blindly also where it is gone on from. -/
lemma FailsBlindly.bind {β : Type} {operation : Handle → Tree → Outcome α}
    (hf : h.FailsBlindly operation) (next : Handle → Tree → α → Outcome β) :
    h.FailsBlindly fun h t => operation h t >>= next h t := by
  obtain ⟨e, he⟩ := hf
  refine ⟨e, fun t directory => ?_⟩
  simp only [he, Bind.bind, Except.bind]

/-- A file is opened with both rights only, whatever is in the tree. -/
lemma openFileMode_denied (hd : h.grants .read = false ∨ h.grants .lookup = false)
    (path mode : String) : h.FailsBlindly (·.openFileMode · path mode) := by
  have hrights : ∃ r ∈ [Right.read, .lookup], h.grants r = false := by simpa using hd
  simp only [openFileMode_eq_access]
  exact (access_denied hrights fun _ => rfl).bind _

/-- A subdirectory is opened with the right to look up only, whatever is in the tree. -/
lemma subdirectory_denied (hd : h.grants .lookup = false) (path : String) :
    h.FailsBlindly (·.subdirectory · path) := by
  have hrights : ∃ r ∈ [Right.lookup], h.grants r = false := by simpa using hd
  simp only [subdirectory_eq_access]
  exact (access_denied hrights fun _ => rfl).bind _

/-- A path is told about with the right to do so only, whatever is in the tree. -/
lemma stat_denied (hd : h.grants .fstat = false) (path : String) :
    h.FailsBlindly (·.stat · path) := by
  have hrights : ∃ r ∈ [Right.fstat], h.grants r = false := by simpa using hd
  simp only [stat_eq_access]
  exact (access_denied hrights fun _ => rfl).bind _

/-- A directory is listed with both rights only, whatever is in the tree. -/
lemma list_denied (hd : h.grants .read = false ∨ h.grants .lookup = false) :
    h.FailsBlindly (·.list ·) := by
  have hrights : ∃ r ∈ [Right.read, .lookup], h.grants r = false := by simpa using hd
  simp only [list_eq_access]
  exact (access_denied hrights fun _ => rfl).bind _

/-- Something is told of a path, absent or not, if it is told of one that must be there. -/
lemma stat?_eq_ok_some {m : Metadata} :
    h.stat? t path = .ok (some m) ↔ h.stat t path = .ok m := by
  rw [stat?]
  cases h.stat t path with
  | ok _ => simp
  | error e =>
    cases e with
    | io fault => dsimp only; split <;> simp
    | _ => simp

/-- Errors other than absence are the same whether or not something must be there. -/
lemma stat_of_stat?_error (hs : h.stat? t path = .error e) : h.stat t path = .error e := by
  rw [stat?] at hs
  cases hstat : h.stat t path with
  | ok _ => simp [hstat] at hs
  | error e' =>
    rw [hstat] at hs
    cases e' with
    | badPath _ => cases hs
    | io fault =>
      dsimp only at hs
      split at hs
      · cases hs
      · cases hs
        rfl
    | _ => cases hs; rfl

/-- No question is affirmed about something that nothing is known of. -/
lemma map_stat?_ne_true {f : Option Metadata → Bool} (hs : h.stat t path = .error e)
    (hf : f none = false) : (h.stat? t path).map f ≠ .ok true := by
  intro hyes
  cases hs? : h.stat? t path with
  | error e' => simp [hs?, Except.map] at hyes
  | ok m? =>
    cases m? with
    | none => simp [hs?, Except.map, hf] at hyes
    | some m =>
      rw [stat?_eq_ok_some, hs] at hs?
      cases hs?

/-- No question is affirmed about something that may not be told about. -/
lemma question_denied (hd : h.grants .fstat = false) (path : String) {f : Option Metadata → Bool}
    (hf : f none = false) : h.NeverAffirms fun h t => (h.stat? t path).map f := by
  obtain ⟨e, he⟩ := stat_denied hd path
  have herror : h.stat ⟨[]⟩ path = .error e := he ⟨[]⟩ h.directory
  refine ⟨(h.stat? ⟨[]⟩ path).map f, map_stat?_ne_true herror hf, fun t directory => ?_⟩
  have hsame : { h with directory }.stat t path = h.stat ⟨[]⟩ path :=
    (he t directory).trans herror.symm
  simp only [stat?, hsame]

/-! ## Limits -/

/-- The rights that a limit leaves. -/
def narrow (granted : Option Rights) (limit : Rights) : Option Rights :=
  some (granted.elim limit (·.inter limit))

/-- A limit narrows the rights of an open handle. -/
lemma limit_eq (h : Handle) (limit : Rights) :
    h.limit limit = if h.isClosed then .error (.closedHandle h.nameText)
      else .ok { h with rights := narrow h.rights limit } := by
  obtain ⟨name, directory, rights⟩ := h
  cases directory <;> cases rights <;> rfl

/-- What is left by limits is what was granted and what all limits have. -/
lemma all_has_foldl_narrow (granted : Option Rights) (limits : List Rights) (r : Right) :
    (limits.foldl narrow granted).all (·.has r) = true ↔
      granted.all (·.has r) = true ∧ ∀ limit ∈ limits, limit.has r = true := by
  induction limits generalizing granted with
  | nil => simp
  | cons limit limits ih =>
    rw [List.foldl_cons, ih, List.forall_mem_cons, ← and_assoc]
    cases granted <;> simp [narrow, Rights.has_inter]

/-- There is no limit only if there never was one. -/
lemma foldl_narrow_eq_none (granted : Option Rights) (limits : List Rights) :
    limits.foldl narrow granted = none ↔ granted = none ∧ limits = [] := by
  induction limits generalizing granted with
  | nil => simp
  | cons limit limits ih => rw [List.foldl_cons, ih]; simp [narrow]

end Handle

/-! ## Actions -/

/-- Something that is done with handles, which are told by the order in which they were opened. -/
inductive HandleAction where
  /-- Open a root by an ambient path. -/
  | openRoot (path : String)
  /-- Open a directory through a handle. -/
  | descend (parent : Nat) (path : String)
  | limit (handle : Nat) (rights : Rights)
  | close (handle : Nat)

namespace HandleAction

open Handle (narrow)

variable {a : Ambient} {hs : List Handle} {h : Handle} {n : Nat} {action : HandleAction}

/-- The handles after an action. An action that fails changes nothing. -/
def perform (a : Ambient) (hs : List Handle) : HandleAction → List Handle
  | openRoot path => hs ++ (Handle.openRoot a path).toOption.toList
  | descend m path => hs ++ (hs[m]?.bind fun h => (h.subdirectory a.tree path).toOption).toList
  | limit m rights => hs.modify m fun h => (h.limit rights).toOption.getD h
  | close m => hs.modify m Handle.close

/-- The handles after actions, each of which has a tree of its own. -/
def performAll (hs : List Handle) : List (Ambient × HandleAction) → List Handle
  | [] => hs
  | (a, action) :: rest => performAll (action.perform a hs) rest

/-- The limit that an action puts on a handle, which has to be open. -/
def limitsOn (n : Nat) (hs : List Handle) : HandleAction → List Rights
  | limit m rights => if m = n ∧ hs[n]?.any (!·.isClosed) then [rights] else []
  | _ => []

/-- The limits that actions put on a handle, one after the other. -/
def allLimitsOn (n : Nat) (hs : List Handle) : List (Ambient × HandleAction) → List Rights
  | [] => []
  | (a, action) :: rest => action.limitsOn n hs ++ allLimitsOn n (action.perform a hs) rest

/-- An action opens a handle with certain rights: without a limit on a root, and with those of the
handle that a directory is opened through. -/
inductive Opens (a : Ambient) (hs : List Handle) : HandleAction → Handle → Prop
  | openRoot {path : String} {g : Handle} (ho : Handle.openRoot a path = .ok g)
      (hg : g.rights = none) : Opens a hs (openRoot path) g
  | descend {m : Nat} {path : String} {parent g : Handle} (hm : hs[m]? = some parent)
      (ho : parent.subdirectory a.tree path = .ok g) (hg : g.rights = parent.rights) :
      Opens a hs (descend m path) g

/-- What an action does to a handle that is open already: it puts its limits on it, and may close
it. -/
lemma get?_perform (a : Ambient) (action : HandleAction) (hn : hs[n]? = some h) :
    ∃ g, (action.perform a hs)[n]? = some g ∧ g.name = h.name ∧
      g.rights = (action.limitsOn n hs).foldl narrow h.rights ∧
      (g.directory = h.directory ∨ g.directory = none) := by
  have hlt : n < hs.length := (List.getElem?_eq_some_iff.1 hn).1
  cases action with
  | openRoot path =>
    exact ⟨h, by rw [perform, List.getElem?_append_left hlt, hn], rfl, rfl, .inl rfl⟩
  | descend m path =>
    exact ⟨h, by rw [perform, List.getElem?_append_left hlt, hn], rfl, rfl, .inl rfl⟩
  | limit m rights =>
    rw [perform, List.getElem?_modify, hn, limitsOn, hn]
    by_cases hm : m = n
    · cases hc : h.isClosed with
      | true =>
        exact ⟨h, by simp [hm, hc, Handle.limit_eq, Except.toOption], rfl, by simp [hc], .inl rfl⟩
      | false =>
        refine ⟨{ h with rights := narrow h.rights rights }, ?_, rfl, ?_, .inl rfl⟩
        · simp [hm, hc, Handle.limit_eq, Except.toOption]
        · simp [hm, hc]
    · exact ⟨h, by simp [hm], rfl, by simp [hm], .inl rfl⟩
  | close m =>
    rw [perform, List.getElem?_modify, hn]
    by_cases hm : m = n
    · exact ⟨h.close, by simp [hm], rfl, rfl, .inr rfl⟩
    · exact ⟨h, by simp [hm], rfl, rfl, .inl rfl⟩

/-- What actions do to a handle that is open already. -/
theorem get?_performAll (steps : List (Ambient × HandleAction)) (hn : hs[n]? = some h) :
    ∃ g, (performAll hs steps)[n]? = some g ∧ g.name = h.name ∧
      g.rights = (allLimitsOn n hs steps).foldl narrow h.rights ∧
      (g.directory = h.directory ∨ g.directory = none) := by
  induction steps generalizing hs h with
  | nil => exact ⟨h, hn, rfl, rfl, .inl rfl⟩
  | cons step rest ih =>
    obtain ⟨a, action⟩ := step
    obtain ⟨mid, hmid, hname, hrights, hdirectory⟩ := get?_perform a action hn
    obtain ⟨g, hg, hname', hrights', hdirectory'⟩ := ih hmid
    refine ⟨g, hg, hname'.trans hname, ?_, ?_⟩
    · rw [hrights', hrights, allLimitsOn, List.foldl_append]
    · rcases hdirectory' with hd | hd
      · exact hdirectory.imp hd.trans hd.trans
      · exact .inr hd

/-- A new handle comes last, and is one that the action opens. -/
lemma opens_of_get?_perform {g : Handle} (hn : hs[n]? = none)
    (hg : (action.perform a hs)[n]? = some g) : hs.length = n ∧ action.Opens a hs g := by
  have hle : hs.length ≤ n := List.getElem?_eq_none_iff.1 hn
  have hnew {x : Option Handle} (hx : (hs ++ x.toList)[n]? = some g) :
      hs.length = n ∧ x = some g := by
    rw [List.getElem?_append_right hle] at hx
    cases x with
    | none => simp at hx
    | some k =>
      obtain ⟨hlt, hk⟩ := List.getElem?_eq_some_iff.1 hx
      have hzero : n - hs.length = 0 := by simpa using hlt
      exact ⟨by omega, by simpa [hzero] using hk⟩
  -- Only opening makes a new handle. Limits and closing change one that is there.
  cases action with
  | openRoot path =>
    obtain ⟨hlast, ho⟩ := hnew hg
    have ho : Handle.openRoot a path = .ok g := by
      cases hx : Handle.openRoot a path <;> simp [hx, Except.toOption] at ho
      rw [ho]
    obtain ⟨name, id, -, -, rfl⟩ := Handle.of_openRoot ho
    exact ⟨hlast, .openRoot ho rfl⟩
  | descend m path =>
    obtain ⟨hlast, ho⟩ := hnew hg
    obtain ⟨parent, hm, ho⟩ := Option.bind_eq_some_iff.1 ho
    have ho : parent.subdirectory a.tree path = .ok g := by
      cases hx : parent.subdirectory a.tree path <;> simp [hx, Except.toOption] at ho
      rw [ho]
    obtain ⟨way, id, -, -, -, rfl⟩ := Handle.of_subdirectory ho
    exact ⟨hlast, .descend hm ho rfl⟩
  | limit m rights => simp [perform, List.getElem?_modify, hn] at hg
  | close m => simp [perform, List.getElem?_modify, hn] at hg

/-- A handle that is there after actions and was not there before was opened by one of them, and has
its rights from there. -/
lemma exists_opens (steps : List (Ambient × HandleAction)) (hn : hs[n]? = none)
    (hh : (performAll hs steps)[n]? = some h) :
    ∃ before a action after g, steps = before ++ (a, action) :: after ∧
      (performAll hs before).length = n ∧ action.Opens a (performAll hs before) g ∧
      h.rights =
        (allLimitsOn n (action.perform a (performAll hs before)) after).foldl narrow g.rights := by
  induction steps generalizing hs with
  | nil => simp [performAll, hn] at hh
  | cons step rest ih =>
    obtain ⟨a, action⟩ := step
    cases hg : (action.perform a hs)[n]? with
    | none =>
      -- It is opened later.
      obtain ⟨before, a', action', after, g, rfl, hlast, hopens, hrights⟩ := ih hg hh
      exact ⟨(a, action) :: before, a', action', after, g, rfl, hlast, hopens, hrights⟩
    | some g =>
      obtain ⟨hlast, hopens⟩ := opens_of_get?_perform hn hg
      obtain ⟨g', hg', -, hrights, -⟩ := get?_performAll rest hg
      obtain rfl : g' = h := by
        rw [performAll, hg'] at hh
        exact Option.some.inj hh
      exact ⟨[], a, action, rest, g, rfl, hlast, hopens, hrights⟩

/-- Steps that are performed in two parts are performed as in one. -/
lemma performAll_append (hs : List Handle) (steps more : List (Ambient × HandleAction)) :
    performAll hs (steps ++ more) = performAll (performAll hs steps) more := by
  induction steps generalizing hs with
  | nil => rfl
  | cons step rest ih => exact ih _

/-- Rights do not grow. -/
lemma grants_of_performAll {g : Handle} {r : Right} (steps : List (Ambient × HandleAction))
    (hn : hs[n]? = some h) (hg : (performAll hs steps)[n]? = some g) (hr : g.grants r = true) :
    h.grants r = true := by
  obtain ⟨g', hg', -, hrights, -⟩ := get?_performAll steps hn
  obtain rfl : g' = g := Option.some.inj (hg'.symm.trans hg)
  rw [Handle.grants, hrights, Handle.all_has_foldl_narrow] at hr
  exact hr.1

/-- The rights of a handle after any actions are those that it was opened with, without a limit for
a root and those of the handle that it was opened through at that time, narrowed by all limits that
were put on it since, in whatever order. They never grow. An operation that needs a right which the
handle does not have fails, or denies the question, in the same way in all trees.

**Proof sketch.** One action opens a handle or puts its limits on one. So by induction on the
actions after it was opened, the rights are what the limits leave. What a right is needed for asks
for it before the tree is looked at. -/
theorem rights_performAll (steps : List (Ambient × HandleAction)) (n : Nat) (h : Handle)
    (hh : (performAll [] steps)[n]? = some h) :
    (∃ before a action after g, steps = before ++ (a, action) :: after ∧
      (performAll [] before).length = n ∧ action.Opens a (performAll [] before) g ∧
      let limits := allLimitsOn n (action.perform a (performAll [] before)) after
      (h.rights = none ↔ g.rights = none ∧ limits = []) ∧
      ∀ r, h.grants r = true ↔ g.grants r = true ∧ ∀ limit ∈ limits, limit.has r = true) ∧
    (∀ more h', (performAll [] (steps ++ more))[n]? = some h' →
      ∀ r, h'.grants r = true → h.grants r = true) ∧
    (h.grants .read = false ∨ h.grants .lookup = false →
      (∀ path mode, h.FailsBlindly (·.openFileMode · path mode)) ∧ h.FailsBlindly (·.list ·)) ∧
    (h.grants .lookup = false → ∀ path, h.FailsBlindly (·.subdirectory · path)) ∧
    (h.grants .fstat = false → ∀ path, h.FailsBlindly (·.stat · path) ∧
      h.NeverAffirms (·.leadsAnywhere · path) ∧ h.NeverAffirms (·.isFile · path) ∧
      h.NeverAffirms (·.isDirectory · path)) := by
  refine ⟨?_, fun more h' hh' r hr => ?_, fun hd => ?_, Handle.subdirectory_denied,
    fun hd path => ?_⟩
  · obtain ⟨before, a, action, after, g, hsteps, hlast, hopens, hrights⟩ :=
      exists_opens steps (by simp) hh
    refine ⟨before, a, action, after, g, hsteps, hlast, hopens, ?_, fun r => ?_⟩
    · rw [hrights, Handle.foldl_narrow_eq_none]
    · rw [Handle.grants, hrights, Handle.all_has_foldl_narrow, Handle.grants]
  · rw [performAll_append] at hh'
    exact grants_of_performAll more hh hh' hr
  · exact ⟨Handle.openFileMode_denied hd, Handle.list_denied hd⟩
  · exact ⟨Handle.stat_denied hd path, Handle.question_denied hd path rfl,
      Handle.question_denied hd path rfl, Handle.question_denied hd path rfl⟩

/-- A handle on a directory has the rights that its parent had, and that its own limit left. The
limit that comes after it was closed is refused. -/
theorem rights_performAll_sub :
    let t : Tree := ⟨[.directory 0 (.ofList [("box", 1)]) 0, .directory 0 (.ofList [("sub", 2)]) 0,
      .directory 1 .empty 0]⟩
    let steps : List (Ambient × HandleAction) :=
      [openRoot "/box", limit 0 (.ofList [.lookup, .read, .fstat]), descend 0 "x/../sub",
        limit 0 .empty, limit 1 (.ofList [.seek, .read]), close 1, limit 1 .empty].map (⟨t, 0⟩, ·)
    ∃ h, (performAll [] steps)[1]? = some h ∧ h.grants .read = true ∧ h.grants .seek = false ∧
      (h.grants .lookup = false ∧ ∀ path mode, h.FailsBlindly (·.openFileMode · path mode)) ∧
      h.grants .fstat = false ∧ ∀ path, h.NeverAffirms (·.isFile · path) := by
  intro t steps
  have hgrants : (performAll [] steps)[1]?.map (fun h => [Right.read, .seek, .lookup, .fstat].map
      h.grants) = some [true, false, false, false] := by decide +kernel
  obtain ⟨h, hh, hgrants⟩ := Option.map_eq_some_iff.1 hgrants
  obtain ⟨hread, hseek, hlookup, hfstat⟩ : h.grants .read = true ∧ h.grants .seek = false ∧
      h.grants .lookup = false ∧ h.grants .fstat = false := by simpa using hgrants
  obtain ⟨-, -, hopen, -, hstat⟩ := rights_performAll steps 1 h hh
  exact ⟨h, hh, hread, hseek, ⟨hlookup, (hopen (.inr hlookup)).1⟩, hfstat,
    fun path => (hstat hfstat path).2.2.1⟩

end HandleAction

end UnitLoader
