import UnitLoader.Proofs.Lookup.Precedence
import UnitLoader.Proofs.Tree.Closed

/-!
# Where the children of a unit are looked for

A container and a directory without an initializer have locations, at which the children are looked
for. A location is the absolute path of a directory beneath the root. The finder takes it back to
that directory, and looks there for the same children as a finder that is opened on the location.
The path that leads back is longer than those that led there, and the operating system may refuse
it for that.

## Main definitions

* `UnitLoader.Resolution.locations` — where the children are looked for.
* `UnitLoader.Resolution.rename` — a resolution for another name.

## Main results

* `UnitLoader.RootFinder.search_rename` — only the last segment of a unit's name matters.
* `UnitLoader.RootFinder.resolve_location` — locations lead to where a fresh finder looks.
* `UnitLoader.RootFinder.resolve_location_deep` — a location may be too deep to lead anywhere.
-/

set_option relaxedAutoImplicit false
set_option autoImplicit false

namespace UnitLoader

open UnitLoader.Path (IsName absoluteText relativeText)
open UnitName (short child)

/-- Where the children of a unit are looked for. -/
def Resolution.locations : Resolution → List String
  | .artifact x _ => x.locations.getD []
  | .portions _ locations => locations

/-- The same resolution for another name. -/
def Resolution.rename (name : String) : Resolution → Resolution
  | .artifact x strategy => .artifact { x with name } strategy
  | .portions _ locations => .portions name locations

/-- A child has its own short name in whatever unit. -/
lemma UnitName.short_child (parent name : String) : short (child parent name) = short name := by
  have hsegments : segments (child parent name) = segments parent ++ segments name := by
    simp [segments, child, String.toList_append, Text.pieces_append_sep]
  rw [short, short, hsegments, List.getLastD_eq_getLast?, List.getLastD_eq_getLast?,
    List.getLast?_append_of_ne_nil _ (segments_ne_nil name)]

/-- A way from the root has a longer path than a part of it. -/
lemma Path.utf8ByteSize_relativeText_lt (names : List String) {way : List String}
    (hway : ∀ s ∈ way, IsName s) (hne : way ≠ []) :
    (relativeText way).utf8ByteSize < (absoluteText (names ++ way)).utf8ByteSize := by
  have htext : absoluteText (names ++ way) = "/" ++ relativeText (names ++ way) := by
    rw [absoluteText, relativeText, if_neg (by simp [hne])]
  have hslash : "/".utf8ByteSize = 1 := by decide
  have hle := (utf8ByteSize_relativeText_le names hway hne).2
  rw [htext, String.utf8ByteSize_append, hslash]
  omega

/-- What is told about as a directory is one, if it is a node of a tree without links. -/
lemma Tree.isDirectory_of_metadata {t : Tree} {id : NodeId} (hl : t.IsLinkFree)
    (hlt : id < t.nextId) (hm : (t.metadata id).isDirectory = true) : t.isDirectory id = true := by
  obtain ⟨node, hnode⟩ : ∃ node, t.node? id = some node := ⟨_, List.getElem?_eq_getElem hlt⟩
  rw [metadata, hnode] at hm
  rw [isDirectory, hnode]
  cases node with
  | file content mtime => cases hm
  | directory parent entries mtime => rfl
  | link target => exact absurd hnode (hl.ne_link id target)

/-! ## Roots by their normal form -/

section Roots

variable {a : Ambient} {h : Handle} {names way : List String}

/-- The absolute path of names is made of these names. -/
lemma Ambient.absolute_absoluteText (hnames : ∀ s ∈ names, IsName s) :
    a.absolute (absoluteText names) = .ok names := by
  have habsolute := Path.isAbsolute_absoluteText names
  rw [absolute, if_pos habsolute, Path.absolute?, Path.join, if_pos habsolute,
    Path.normal?_absoluteText hnames]
  rfl

/-- What a path leads to for the loader it leads to in the tree. -/
lemma Ambient.of_resolve {path : String} {id : NodeId} (hr : a.resolve path = .ok id) :
    a.tree.resolve a.working path = .ok id := by
  rw [resolve] at hr
  split at hr
  · cases hr
  · cases h : a.tree.resolve a.working path with
    | error e =>
      rw [h] at hr
      cases hr
    | ok id' =>
      rw [h] at hr
      exact congrArg _ (Except.ok.inj hr)

/-- A root that is opened by the path of names is the directory that these lead to. -/
lemma Handle.of_openRoot_absoluteText (hnames : ∀ s ∈ names, IsName s)
    (ho : Handle.openRoot a (absoluteText names) = .ok h) :
    ∃ id, h = ⟨names, some id, none⟩ ∧ a.tree.isDirectory id = true ∧
      (absoluteText names).utf8ByteSize < Tree.maxPath ∧
      a.tree.walk Tree.maxLinks Tree.root names = .ok id := by
  obtain ⟨name, id, hname, hid, rfl⟩ := of_openRoot ho
  rw [Ambient.absolute_absoluteText hnames] at hname
  obtain rfl := Except.ok.inj hname
  obtain ⟨hr, hdirectory⟩ := Ambient.openDirectory_eq_ok_iff.1 hid
  exact ⟨id, rfl, hdirectory, Tree.of_resolve_absoluteText hnames (Ambient.of_resolve hr)⟩

/-- A handle takes an absolute path beneath its name back to the way. -/
lemma Handle.relative_absoluteText (hn : ∀ s ∈ h.name ++ way, IsName s) :
    h.relative (absoluteText (h.name ++ way)) = .ok way := by
  have habsolute := Path.isAbsolute_absoluteText (h.name ++ way)
  rw [relative_eq_ok_iff, habsolute, Path.normal?_absoluteText hn]
  exact ⟨Path.absoluteText_ne_empty _, rfl⟩

end Roots

namespace RootFinder

variable {rules : SuffixRules} {t : Tree} {name name' tail loc : String} {hs : List Handle}
  {h : Handle} {r : Resolution} {found : List String} {f : RootFinder}
  {searchPath : Option (List String)}

/-! ## Searches for other names -/

/-- Only the last segment of a unit's name matters for what is found. -/
theorem search_rename (hs : List Handle) (found : List String) :
    search rules t name' tail hs found =
      (search rules t name tail hs found).map (Option.map (.rename name')) := by
  induction hs generalizing found with
  | nil =>
    rw [search, search]
    split <;> rfl
  | cons h hs ih =>
    rw [search, search]
    cases h.isDirectory t tail with
    | error e => rfl
    | ok hasDirectory =>
      simp only [Bind.bind, Except.bind]
      cases firstFile h t (probes rules tail hasDirectory) with
      | error e => rfl
      | ok p? =>
        cases p? with
        | some p => rfl
        | none => exact ih _

/-! ## Locations that are found -/

/-- There is a probe for an initializer only where there is a directory. -/
lemma hasDirectory_of_mem_probes {p : Probe} {hasDirectory : Bool}
    (hp : p ∈ probes rules tail hasDirectory) (hinit : p.isInitializer = true) :
    hasDirectory = true := by
  obtain ⟨c, -, hp⟩ := List.mem_flatMap.1 hp
  rcases List.mem_cons.1 hp with rfl | hp
  · cases hinit
  · split at hp
    · assumption
    · cases hp

/-- A location is that of a directory in which the unit was looked for and has a directory. -/
lemma exists_of_mem_locations (hr : search rules t name tail hs found = .ok (some r))
    (hloc : loc ∈ r.locations) :
    loc ∈ found ∨ ∃ h ∈ hs, h.isDirectory t tail = .ok true ∧ loc = location h tail := by
  induction hs generalizing found with
  | nil =>
    have hr := Except.ok.inj hr
    split at hr
    · cases hr
    · obtain rfl := Option.some.inj hr
      exact .inl hloc
  | cons h hs ih =>
    obtain ⟨hasDirectory, hd, hr⟩ := Outcome.bind_eq_ok.1 hr
    obtain ⟨p?, hp, hr⟩ := Outcome.bind_eq_ok.1 hr
    cases p? with
    | some p =>
      obtain rfl := Option.some.inj (Except.ok.inj hr)
      rw [bind, Resolution.locations] at hloc
      cases hinit : p.isInitializer with
      | false => simp [hinit] at hloc
      | true =>
        obtain rfl := hasDirectory_of_mem_probes (mem_of_firstFile hp) hinit
        exact .inr ⟨h, List.mem_cons_self .., hd, by simpa [hinit] using hloc⟩
    | none =>
      rcases ih hr with hmem | ⟨h', hmem, hh'⟩
      · cases hasDirectory with
        | false => exact .inl hmem
        | true =>
          rcases List.mem_append.1 hmem with hmem | hmem
          · exact .inl hmem
          · exact .inr ⟨h, List.mem_cons_self .., hd, List.mem_singleton.1 hmem⟩
      · exact .inr ⟨h', List.mem_cons_of_mem h hmem, hh'⟩

/-- A directory in which a unit is looked for is reached from the root. -/
lemma LooksThrough.exists_way {id : NodeId} (hroot : f.root.directory = some id)
    (hdirectory : t.isDirectory id = true) (hl : f.LooksThrough t h) :
    ∃ before mid, (∀ s ∈ before, IsName s) ∧ f.root.reach t before = .ok mid ∧
      h = ⟨f.root.name ++ before, some mid, f.root.rights⟩ := by
  rcases hl with rfl | ⟨entry, hsub⟩
  · have hreach : f.root.reach t [] = .ok id := by
      refine (Handle.reach_eq_ok_iff hroot).2 ⟨by decide, ?_⟩
      rw [Tree.resolve_relativeText (by simp), if_neg (by decide), if_pos rfl, if_pos hdirectory]
    refine ⟨[], id, by simp, hreach, ?_⟩
    rw [List.append_nil, ← hroot]
  · obtain ⟨before, mid, hbefore, -, hmid, -, rfl⟩ := Handle.subdirectory_eq_ok_iff.1 hsub
    exact ⟨before, mid, Handle.isName_of_relative hbefore, hmid, rfl⟩

/-- The directory of a unit, where it is looked for. -/
lemma exists_of_isDirectory (hc : t.IsClosed) (hl : t.IsLinkFree) (htail : IsName tail)
    (hd : h.isDirectory t tail = .ok true) :
    ∃ id, h.reach t [tail] = .ok id ∧ t.isDirectory id = true := by
  obtain ⟨m, hm, hdirectory⟩ := Handle.map_stat?_eq_ok_true_iff.1 hd
  obtain ⟨way, id, hway, -, hid, rfl⟩ := Handle.stat_eq_ok_iff.1 hm
  obtain rfl := Except.ok.inj (hway.symm.trans (Handle.relative_of_isName htail))
  obtain ⟨dir, -, hresolve⟩ := Handle.of_reach hid
  have hlt := hc.lt_of_resolve (by simpa using htail) hresolve
  exact ⟨id, hid, Tree.isDirectory_of_metadata hl hlt hdirectory⟩

/-- A location is the path of a directory beneath the root, which the operating system reaches in one
step if that path is not too long. -/
lemma exists_way_of_mem_locations {id : NodeId} (hc : t.IsClosed) (hl : t.IsLinkFree)
    (hroot : f.root.directory = some id) (hdirectory : t.isDirectory id = true)
    (hr : f.resolve t name searchPath = .ok (some r)) (hloc : loc ∈ r.locations) :
    ∃ way sub, (∀ s ∈ way, IsName s) ∧ way ≠ [] ∧ loc = absoluteText (f.root.name ++ way) ∧
      t.walk Tree.maxLinks id way = .ok sub ∧ t.isDirectory sub = true ∧
      f.root.reach t way =
        if Tree.maxPath ≤ (relativeText way).utf8ByteSize then .error (.io (.os .nameTooLong))
        else .ok sub := by
  unfold resolve at hr
  extract_lets tail at hr
  split at hr
  · next hsearchable =>
    obtain ⟨hs?, hd, hr⟩ := Outcome.bind_eq_ok.1 hr
    cases hs? with
    | none => cases hr
    | some hs =>
      have htail : IsName tail := (isBare_short hsearchable).1
      obtain ⟨h, hmem, hh, rfl⟩ := (exists_of_mem_locations hr hloc).resolve_left (by simp)
      obtain ⟨before, mid, hbefore, hmid, rfl⟩ :=
        (looksThrough_of_directories hd h hmem).exists_way hroot hdirectory
      obtain ⟨sub, hsub, hsubDirectory⟩ := exists_of_isDirectory hc hl htail hh
      have hway : ∀ s ∈ [tail], IsName s := by simpa using htail
      refine ⟨before ++ [tail], sub, ?_, by simp, ?_, ?_, hsubDirectory,
        Handle.reach_append_of_isLinkFree hl hbefore hway (by simp) hmid rfl hsub⟩
      · simpa [or_imp, forall_and] using ⟨hbefore, htail⟩
      · rw [location, List.append_assoc]
      · rw [hl.walk_append (Handle.walk_of_reach hroot hbefore hmid)]
        exact Handle.walk_of_reach rfl hway hsub
  · cases hr

/-! ## Locations that lead somewhere -/

/-- A finder that is opened by the path of names has its root at the directory that these lead
to. -/
lemma of_openRoot_absoluteText {a : Ambient} {names : List String} (hnames : ∀ s ∈ names, IsName s)
    (ho : openRoot a (absoluteText names) rules [] = .ok f) :
    ∃ id, f = { root := ⟨names, some id, none⟩, rules } ∧ a.tree.isDirectory id = true ∧
      (absoluteText names).utf8ByteSize < Tree.maxPath ∧
      a.tree.walk Tree.maxLinks Tree.root names = .ok id := by
  obtain ⟨h, root, hh, hroot, rfl⟩ := of_openRoot ho
  obtain rfl : h = root := Except.ok.inj hroot
  obtain ⟨id, rfl, hid⟩ := Handle.of_openRoot_absoluteText hnames hh
  exact ⟨id, rfl, hid⟩

/-- Children are found by the location of a directory that is opened as they are by a finder on that
directory. -/
lemma resolve_child_of_subdirectory {g : Handle} {c : String}
    (hg : f.root.subdirectory t loc = .ok g) :
    f.resolve t (child name c) (some [loc]) =
      (resolve { root := g, rules := f.rules } t c none).map
        (Option.map (.rename (child name c))) := by
  have hd : f.directories t (some [loc]) = .ok (some [g]) :=
    directories_eq_ok_iff.2 (.cons hg .nil)
  rw [resolve_of_directories hd, resolve_of_directories rfl, UnitName.short_child]
  split
  · exact search_rename _ _
  · rfl

/-- A location of a unit that is found is the path of a directory beneath the root: the way to it from
the directory of the root ends at a directory. The finder opens that directory by its location,
under that name, unless its path from the root is too long for the operating system. Children are
found there as they are by a finder that is opened on the location, where that can be done.

**Proof sketch.** The location is reached in two steps, through the directory in which the unit was
found. In one step there can be too many links, of which there are none, or too long a path. A
finder that can be opened on the location has taken an even longer path, to the same directory. -/
theorem resolve_location (a : Ambient) (root : List String) (rules : SuffixRules) (f : RootFinder)
    (name : String) (searchPath : Option (List String)) (r : Resolution) (loc : String)
    (hc : a.tree.IsClosed) (hl : a.tree.IsLinkFree) (hroot : ∀ s ∈ root, IsName s)
    (ho : openRoot a (absoluteText root) rules [] = .ok f)
    (hr : f.resolve a.tree name searchPath = .ok (some r)) (hloc : loc ∈ r.locations) :
    ∃ way start sub, (∀ s ∈ way, IsName s) ∧ loc = absoluteText (root ++ way) ∧
      f.root.directory = some start ∧ a.tree.walk Tree.maxLinks start way = .ok sub ∧
      a.tree.isDirectory sub = true ∧
      ((relativeText way).utf8ByteSize < Tree.maxPath →
        ∃ g, f.root.subdirectory a.tree loc = .ok g ∧ g.nameText = loc ∧ g.directory = some sub) ∧
      (Tree.maxPath ≤ (relativeText way).utf8ByteSize →
        f.root.subdirectory a.tree loc = .error (.io (.os .nameTooLong))) ∧
      ∀ f', openRoot a loc rules [] = .ok f' → ∀ c,
        f.resolve a.tree (child name c) (some [loc]) =
          (f'.resolve a.tree c none).map (Option.map (.rename (child name c))) := by
  obtain ⟨id, rfl, hdirectory, -, hwalk⟩ := of_openRoot_absoluteText hroot ho
  obtain ⟨way, sub, hway, hne, hpath, hsubWalk, hsub, hreach⟩ :=
    exists_way_of_mem_locations hc hl rfl hdirectory hr hloc
  have hnames : ∀ s ∈ root ++ way, IsName s := by
    simpa [or_imp, forall_and] using ⟨hroot, hway⟩
  have hrelative : Handle.relative ⟨root, some id, none⟩ loc = .ok way := by
    rw [hpath]
    exact Handle.relative_absoluteText hnames
  have hserved (hshort : (relativeText way).utf8ByteSize < Tree.maxPath) :
      Handle.subdirectory ⟨root, some id, none⟩ a.tree loc =
        .ok ⟨root ++ way, some sub, none⟩ := by
    rw [if_neg (Nat.not_le_of_lt hshort)] at hreach
    exact Handle.subdirectory_eq_ok_iff.2 ⟨way, sub, hrelative, rfl, hreach, hsub, rfl⟩
  refine ⟨way, id, sub, hway, hpath, rfl, hsubWalk, hsub,
    fun hshort => ⟨_, hserved hshort, hpath.symm, rfl⟩, fun hlong => ?_, fun f' ho' c => ?_⟩
  · rw [if_pos hlong] at hreach
    exact Handle.subdirectory_of_reach_error hrelative rfl hreach
  · rw [hpath] at ho'
    obtain ⟨id', rfl, -, hsize, hwalk'⟩ := of_openRoot_absoluteText hnames ho'
    have hshort := (Path.utf8ByteSize_relativeText_lt root hway hne).trans hsize
    -- The fresh finder has come the same way, which leads on from the directory of the root.
    rw [hl.walk_append hwalk, hsubWalk] at hwalk'
    obtain rfl := Except.ok.inj hwalk'
    exact resolve_child_of_subdirectory (hserved hshort)

/-- The child of a container is found by the location as in the directory itself. -/
theorem resolve_location_layered :
    let a : Ambient := ⟨.layered, Tree.root⟩
    let f : RootFinder := { root := ⟨["b"], some 2, none⟩, rules := {} }
    let f' : RootFinder := { root := ⟨["b", "u"], some 4, none⟩, rules := {} }
    let r : Resolution := .artifact ⟨"u", f.root, "u/__init__.src", .source, some ["/b/u"]⟩
      (.cacheThenSource "u/__init__.cache")
    let x : Artifact := ⟨"c", f'.root, "c.src", .source, none⟩
    openRoot a (absoluteText ["b"]) {} [] = .ok f ∧ f.resolve a.tree "u" none = .ok (some r) ∧
      f.root.subdirectory a.tree "/b/u" = .ok f'.root ∧ openRoot a "/b/u" {} [] = .ok f' ∧
      f'.resolve a.tree "c" none = .ok (some (.artifact x (.cacheThenSource "c.cache"))) ∧
      f.resolve a.tree "u.c" (some ["/b/u"]) =
        (f'.resolve a.tree "c" none).map (Option.map (.rename "u.c")) := by
  intro a f f' r x
  have hroot : ∀ s ∈ ["b"], IsName s := by
    have hb : IsName "b" := ⟨by decide, by decide⟩
    simpa using hb
  have ho : openRoot a (absoluteText ["b"]) {} [] = .ok f := by decide +kernel
  have hr : f.resolve a.tree "u" none = .ok (some r) := by decide +kernel
  have ho' : openRoot a "/b/u" {} [] = .ok f' := by decide +kernel
  obtain ⟨-, -, -, -, -, -, -, -, -, -, hchild⟩ := resolve_location a ["b"] {} f "u" none r "/b/u"
    (by decide +kernel) (by decide +kernel) hroot ho hr (by decide +kernel)
  exact ⟨ho, hr, by decide +kernel, ho', by decide +kernel, hchild f' ho' "c"⟩

end RootFinder

/-! ## Locations that are too deep -/

/-- A name of so many letters. -/
def nameOfLength (length : ℕ) : String :=
  String.ofList (List.replicate length 'd')

/-- A way of names that are as long as names can be. Its path is as long as paths can be. -/
def longWay : List String :=
  List.replicate 16 (nameOfLength 255)

/-- A tree with that way, a directory `u` at its end, and a file `c.src` in that directory. -/
def Tree.deep : Tree :=
  ⟨(List.range 16).map (fun id => .directory (id - 1) (.ofList [(nameOfLength 255, id + 1)]) 0) ++
    [.directory 15 (.ofList [("u", 17)]) 0, .directory 16 (.ofList [("c.src", 18)]) 0,
      .file (.bytes []) 0]⟩

/-- A name of letters has no other characters. -/
lemma not_mem_nameOfLength {c : Char} (hc : c ≠ 'd') (length : ℕ) :
    c ∉ (nameOfLength length).toList := by
  rw [nameOfLength, String.toList_ofList]
  exact fun hmem => hc (List.eq_of_mem_replicate hmem)

/-- The long way is made of names. -/
lemma isName_longWay : ∀ s ∈ longWay, IsName s := by
  intro s hs
  rw [List.eq_of_mem_replicate hs]
  exact ⟨by decide +kernel, not_mem_nameOfLength (by decide) 255⟩

/-- There is no NUL in the path of the long way. -/
lemma holdsNul_longWay : holdsNul (relativeText longWay) = false := by
  rw [holdsNul_relativeText, List.any_eq_false]
  intro s hs
  rw [List.eq_of_mem_replicate hs, holdsNul, decide_eq_true_iff]
  exact not_mem_nameOfLength (by decide) 255

/-- The path of the long way has one byte less than is too long. -/
lemma utf8ByteSize_longWay : (relativeText longWay).utf8ByteSize + 1 = Tree.maxPath := by
  have hlong : (nameOfLength 255).utf8ByteSize = 255 := by decide +kernel
  rw [Path.utf8ByteSize_relativeText (by decide), longWay, List.map_replicate, hlong]
  rfl

/-- There are no links in the deep tree. -/
lemma Tree.isLinkFree_deep : Tree.deep.IsLinkFree := by decide +kernel

/-- The end of the long way is reached at once. -/
lemma reach_longWay {h : Handle} (hroot : h.directory = some Tree.root) :
    h.reach .deep longWay = .ok 16 := by
  refine (Handle.reach_eq_ok_iff hroot).2 ⟨holdsNul_longWay, ?_⟩
  rw [Tree.resolve_relativeText isName_longWay, if_neg (by rw [← utf8ByteSize_longWay]; omega),
    if_neg (by decide)]
  decide +kernel

/-- What is beyond the end of the long way is not reached at once. -/
lemma reach_longWay_append {h g : Handle} {s : String} {id : NodeId}
    (hroot : h.directory = some Tree.root) (hs : IsName s) (hg : g.directory = some 16)
    (hid : g.reach .deep [s] = .ok id) :
    h.reach .deep (longWay ++ [s]) = .error (.io (.os .nameTooLong)) := by
  have hlong : Tree.maxPath ≤ (relativeText (longWay ++ [s])).utf8ByteSize := by
    have hslash : "/".utf8ByteSize = 1 := by decide
    rw [Path.relativeText_append (by decide) (by simp), String.utf8ByteSize_append,
      String.utf8ByteSize_append, hslash, utf8ByteSize_longWay]
    exact Nat.le_add_right ..
  rw [Handle.reach_append_of_isLinkFree Tree.isLinkFree_deep isName_longWay (by simpa using hs)
    (by simp) (reach_longWay hroot) hg hid, if_pos hlong]

namespace RootFinder

/-- A directory whose path is as long as paths can be is opened. A location in it is found, but the
finder opens nothing there and finds no child. -/
theorem resolve_location_deep :
    let a : Ambient := ⟨.deep, Tree.root⟩
    let f : RootFinder := { root := ⟨[], some Tree.root, none⟩, rules := {} }
    let loc := absoluteText (longWay ++ ["u"])
    a.tree.IsClosed ∧ a.tree.IsLinkFree ∧ f.rules.Checked ∧
      openRoot a (absoluteText []) {} [] = .ok f ∧
      f.resolve a.tree "u" (some [absoluteText longWay]) = .ok (some (.portions "u" [loc])) ∧
      f.root.subdirectory a.tree loc = .error (.io (.os .nameTooLong)) ∧
      f.resolve a.tree "u.c" (some [loc]) = .ok none := by
  intro a f loc
  let g : Handle := ⟨longWay, some 16, none⟩
  have hu : IsName "u" := ⟨by decide, by decide⟩
  have hnames : ∀ s ∈ longWay ++ ["u"], IsName s := by
    simpa [or_imp, forall_and] using ⟨isName_longWay, hu⟩
  have hopen : f.root.subdirectory a.tree (absoluteText longWay) = .ok g :=
    Handle.subdirectory_eq_ok_iff.2 ⟨longWay, 16,
      Handle.relative_absoluteText (h := f.root) isName_longWay, rfl, reach_longWay rfl,
      by decide +kernel, rfl⟩
  have hfound : f.resolve a.tree "u" (some [absoluteText longWay]) =
      .ok (some (.portions "u" [loc])) := by
    have hd : f.directories a.tree (some [absoluteText longWay]) = .ok (some [g]) :=
      directories_eq_ok_iff.2 (List.Forall₂.cons hopen .nil)
    have hshort : short "u" = "u" := by decide
    have hdirectory : g.isDirectory a.tree "u" = .ok true := by decide +kernel
    have hfirst : firstFile g a.tree (probes {} "u" true) = .ok none := by decide +kernel
    rw [resolve_of_directories hd, if_pos (by decide), hshort, search_cons_of_none hdirectory hfirst]
    rfl
  have hclosed : f.root.subdirectory a.tree loc = .error (.io (.os .nameTooLong)) := by
    have hrelative : f.root.relative loc = .ok (longWay ++ ["u"]) :=
      Handle.relative_absoluteText (h := f.root) hnames
    have hsub : g.reach a.tree ["u"] = .ok 17 := by decide +kernel
    have hreach : f.root.reach a.tree (longWay ++ ["u"]) = .error (.io (.os .nameTooLong)) :=
      reach_longWay_append rfl hu rfl hsub
    exact Handle.subdirectory_of_reach_error hrelative rfl hreach
  refine ⟨by decide +kernel, Tree.isLinkFree_deep, ⟨{}, by decide, rfl⟩, by decide +kernel, hfound,
    hclosed, ?_⟩
  have hd : f.directories a.tree (some [loc]) = .ok none := by
    rw [directories, directories.open_, hclosed]
  rw [resolve, hd]
  rfl

end RootFinder

end UnitLoader
