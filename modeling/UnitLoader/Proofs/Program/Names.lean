import UnitLoader.Fault.Load
import UnitLoader.Proofs.UnitName

/-!
# Names in programs

A program that is parsed binds identifiers, asks for units by identifiers with dots between them,
and holds no reference to a unit among its literals. Such names can be imported: no character of an
identifier is one of those that keep a segment from being looked up.

## Main definitions

* `UnitLoader.IsDotted` — identifiers with dots between them.
* `UnitLoader.Value.IsPlain` — values without references to units, however deep.
* `UnitLoader.Program.IsWellNamed` — the names of a program are as the unit language has them.

## Main results

* `UnitLoader.Program.isWellNamed_of_parse` — programs that are parsed are well named.
* `UnitLoader.Program.IsWellNamed.isImportable` — what they mention can be imported.
-/

set_option relaxedAutoImplicit false
set_option autoImplicit false

namespace UnitLoader

open Text

/-! ## Well-named programs -/

/-- Identifiers with dots between them. -/
def IsDotted (name : String) : Prop :=
  ∀ s ∈ UnitName.segments name, isIdentifier s

/-- A value that holds no reference to a unit, however deep in lists. -/
inductive Value.IsPlain : Value → Prop
  | none : IsPlain .none
  | bool (b : Bool) : IsPlain (.bool b)
  | int (n : Int64) : IsPlain (.int n)
  | float (x : Binary64) : IsPlain (.float x)
  | str (s : String) : IsPlain (.str s)
  | list {items : List Value} (h : ∀ v ∈ items, IsPlain v) : IsPlain (.list items)

/-- A literal is plain, and a name is dotted. -/
def Expr.IsWellNamed : Expr → Prop
  | .literal v => v.IsPlain
  | .name n => IsDotted n

/-- What a statement binds are identifiers, and what it imports is dotted. -/
def Statement.IsWellNamed : Statement → Prop
  | .assign target value => isIdentifier target.toList ∧ value.IsWellNamed
  | .importUnit module newName => IsDotted module ∧ ∀ n ∈ newName, isIdentifier n.toList
  | .fromImport module names => IsDotted module ∧ ∀ n ∈ names, isIdentifier n.toList
  | .raise _ => True

/-- All statements of a program are well named. -/
def Program.IsWellNamed (p : Program) : Prop :=
  ∀ s ∈ p.statements, s.IsWellNamed

/-! ## What is parsed -/

section Parsing

variable {α β ε : Type} {text : List Char} {name : String}

/-- What a list is read as was read of its items. -/
lemma exists_of_mem_mapM_ok {f : α → Except ε β} {xs : List α} {ys : List β}
    (h : xs.mapM f = .ok ys) : ∀ y ∈ ys, ∃ x ∈ xs, f x = .ok y := by
  induction xs generalizing ys with
  | nil =>
    obtain rfl : [] = ys := Except.ok.inj h
    simp
  | cons x xs ih =>
    rw [List.mapM_cons] at h
    obtain ⟨y, hy, h⟩ := Outcome.bind_eq_ok.1 h
    obtain ⟨rest, hrest, h⟩ := Outcome.bind_eq_ok.1 h
    obtain rfl := Except.ok.inj h
    refine List.forall_mem_cons.2 ⟨⟨x, List.mem_cons_self .., hy⟩, fun z hz => ?_⟩
    obtain ⟨w, hw, hz⟩ := ih hrest z hz
    exact ⟨w, List.mem_cons_of_mem _ hw, hz⟩

/-- An identifier that is parsed is one, and is the text. -/
lemma isIdentifier_of_parseIdentifier (h : parseIdentifier text = .ok name) :
    isIdentifier name.toList ∧ name = String.ofList text := by
  rw [parseIdentifier] at h
  split at h
  · next hi =>
    obtain rfl := Except.ok.inj h
    exact ⟨by rwa [String.toList_ofList], rfl⟩
  · cases h

/-- A dotted name that is parsed is one. -/
lemma isDotted_of_parseDotted (h : parseDotted text = .ok name) : IsDotted name := by
  obtain ⟨_, hall, h⟩ := Outcome.bind_eq_ok.1 h
  obtain rfl := Except.ok.inj h
  rw [IsDotted, UnitName.segments, String.toList_ofList]
  generalize pieces '.' text = segments at hall
  induction segments with
  | nil => simp
  | cons s segments ih =>
    rw [List.forM_eq_forM, List.forM_cons] at hall
    obtain ⟨_, hs, hall⟩ := Outcome.bind_eq_ok.1 hall
    refine List.forall_mem_cons.2 ⟨?_, ih hall⟩
    cases hparsed : parseIdentifier s with
    | error e =>
      rw [hparsed] at hs
      cases hs
    | ok n =>
      obtain ⟨hn, rfl⟩ := isIdentifier_of_parseIdentifier hparsed
      rwa [String.toList_ofList] at hn

/-- A word stands for a plain value. -/
lemma isPlain_of_parseWord? {v : Value} (h : parseWord? text = some v) : v.IsPlain := by
  unfold parseWord? at h
  split_ifs at h <;> cases h <;> constructor

/-- A literal that is no list is plain. -/
lemma isPlain_of_parseScalar? {v : Value} (h : parseScalar? text = some v) : v.IsPlain := by
  unfold parseScalar? at h
  rcases Option.or_eq_some_iff.1 h with h | ⟨-, h⟩
  · obtain ⟨s, -, rfl⟩ := Option.map_eq_some_iff.1 h
    exact .str s
  rcases Option.or_eq_some_iff.1 h with h | ⟨-, h⟩
  · exact isPlain_of_parseWord? h
  rcases Option.or_eq_some_iff.1 h with h | ⟨-, h⟩
  · obtain ⟨n, -, rfl⟩ := Option.map_eq_some_iff.1 h
    exact .int n
  · obtain ⟨n, -, rfl⟩ := Option.map_eq_some_iff.1 h
    exact .float _

/-- An expression that is parsed is well named. -/
theorem Expr.isWellNamed_of_parse {e : Expr} (h : parseExpr text = .ok e) : e.IsWellNamed := by
  fun_induction parseExpr text generalizing e with
  | case1 => cases h
  | case2 _ _ v hv =>
    obtain rfl := Except.ok.inj h
    exact isPlain_of_parseScalar? hv
  | case3 =>
    obtain rfl := Except.ok.inj h
    exact .list nofun
  | case4 _ _ _ inner _ _ ih =>
    obtain ⟨items, hitems, h⟩ := Outcome.bind_eq_ok.1 h
    obtain rfl := Except.ok.inj h
    refine .list fun v hv => ?_
    obtain ⟨⟨item, hmem⟩, -, hitem⟩ := exists_of_mem_mapM_ok hitems v hv
    obtain ⟨e, he, hitem⟩ := Outcome.bind_eq_ok.1 hitem
    cases e with
    | literal w =>
      obtain rfl := Except.ok.inj hitem
      exact ih item hmem he
    | name n => cases hitem
  | case5 =>
    obtain ⟨n, hn, rfl⟩ := Outcome.map_eq_ok.1 h
    exact isDotted_of_parseDotted hn

/-- An import that is parsed has well-formed names. -/
lemma isWellNamed_of_parseImport {s : Statement} (h : parseImport text = .ok s) :
    s.IsWellNamed := by
  rw [parseImport] at h
  split at h
  · obtain ⟨module, hmodule, h⟩ := Outcome.bind_eq_ok.1 h
    obtain ⟨newName, hname, h⟩ := Outcome.bind_eq_ok.1 h
    obtain rfl := Except.ok.inj h
    refine ⟨isDotted_of_parseDotted hmodule, fun n hn => ?_⟩
    obtain rfl := Option.some.inj hn
    exact (isIdentifier_of_parseIdentifier hname).1
  · obtain ⟨module, hmodule, rfl⟩ := Outcome.map_eq_ok.1 h
    exact ⟨isDotted_of_parseDotted hmodule, nofun⟩

/-- An import of names that is parsed has well-formed names. -/
lemma isWellNamed_of_parseFromImport {s : Statement} (h : parseFromImport text = .ok s) :
    s.IsWellNamed := by
  rw [parseFromImport] at h
  split at h
  · cases h
  · obtain ⟨module, hmodule, h⟩ := Outcome.bind_eq_ok.1 h
    obtain ⟨names, hnames, h⟩ := Outcome.bind_eq_ok.1 h
    obtain rfl := Except.ok.inj h
    refine ⟨isDotted_of_parseDotted hmodule, fun n hn => ?_⟩
    obtain ⟨piece, -, hpiece⟩ := exists_of_mem_mapM_ok hnames n hn
    exact (isIdentifier_of_parseIdentifier hpiece).1

/-- An assignment that is parsed has well-formed names. -/
lemma isWellNamed_of_parseAssignment {s : Statement} (h : parseAssignment text = .ok s) :
    s.IsWellNamed := by
  rw [parseAssignment] at h
  split at h
  · cases h
  · obtain ⟨target, htarget, h⟩ := Outcome.bind_eq_ok.1 h
    obtain ⟨value, hvalue, h⟩ := Outcome.bind_eq_ok.1 h
    obtain rfl := Except.ok.inj h
    exact ⟨(isIdentifier_of_parseIdentifier htarget).1, Expr.isWellNamed_of_parse hvalue⟩

/-- A line that is parsed is well named. -/
theorem Statement.isWellNamed_of_parse {s : Statement} (h : parseStatement text = .ok s) :
    s.IsWellNamed := by
  unfold parseStatement at h
  split at h
  · exact isWellNamed_of_parseImport h
  · split at h
    · exact isWellNamed_of_parseFromImport h
    · split at h
      · obtain rfl := Except.ok.inj h
        trivial
      · exact isWellNamed_of_parseAssignment h

/-- Lines that are parsed have well-formed names. -/
lemma isWellNamed_of_parseLines {number : Nat} {lines : List (List Char)} {ss : List Statement}
    (h : parseLines number lines = .ok ss) : ∀ s ∈ ss, s.IsWellNamed := by
  induction lines generalizing number ss with
  | nil =>
    obtain rfl := Except.ok.inj h
    simp
  | cons line lines ih =>
    rw [parseLines] at h
    split at h
    · exact ih h
    · split at h
      · cases h
      · next s hs =>
        obtain ⟨rest, hrest, rfl⟩ := Outcome.map_eq_ok.1 h
        exact List.forall_mem_cons.2 ⟨Statement.isWellNamed_of_parse hs, ih hrest⟩

/-- A program that is parsed is well named. -/
theorem Program.isWellNamed_of_parse {p : Program} (h : Program.parse text = .ok p) :
    p.IsWellNamed := by
  obtain ⟨ss, hss, rfl⟩ := Outcome.map_eq_ok.1 h
  exact isWellNamed_of_parseLines hss

end Parsing

/-! ## Names that can be imported -/

/-- The code points of the blanks. -/
def blankCodePoints : List Nat :=
  [0x9, 0xa, 0xb, 0xc, 0xd, 0x20, 0x85, 0xa0, 0x1680, 0x2000, 0x2001, 0x2002, 0x2003, 0x2004,
    0x2005, 0x2006, 0x2007, 0x2008, 0x2009, 0x200a, 0x2028, 0x2029, 0x202f, 0x205f, 0x3000]

/-- A blank has one of the code points of blanks. -/
lemma mem_blankCodePoints {c : Char} (h : isBlank c) : c.toNat ∈ blankCodePoints := by
  simp only [isBlank, Bool.or_eq_true, Bool.and_eq_true, decide_eq_true_eq, beq_iff_eq] at h
  simp only [blankCodePoints, List.mem_cons, List.not_mem_nil, or_false]
  omega

/-- Whether a character can stand in an identifier. -/
def isIdentifierChar (c : Char) : Bool :=
  isAlphabetic c || isNumeric c || c = '_'

/-- No character of an identifier keeps a segment from being looked up, and none is a dot. -/
lemma isSegmentChar_of_isIdentifierChar {c : Char} (h : isIdentifierChar c) :
    c ≠ '.' ∧ (c ≠ '/' && c ≠ '\\' && c ≠ '\x00' && !isBlank c) := by
  have hne : ∀ d, isIdentifierChar d = false → c ≠ d := by
    rintro d hd rfl
    rw [hd] at h
    cases h
  have hblank : isBlank c = false := by
    by_contra hb
    have hall : ∀ n ∈ blankCodePoints, isIdentifierChar (Char.ofNat n) = false := by
      decide +kernel
    have hc := hall _ (mem_blankCodePoints (Bool.of_not_eq_false hb))
    rw [Char.ofNat_toNat, h] at hc
    cases hc
  refine ⟨hne '.' (by decide), ?_⟩
  simp [hne '/' (by decide), hne '\\' (by decide), hne '\x00' (by decide), hblank]

/-- The characters of an identifier are those of identifiers. -/
lemma isIdentifierChar_of_mem {s : List Char} (h : isIdentifier s) {c : Char} (hc : c ∈ s) :
    isIdentifierChar c := by
  cases s with
  | nil => cases hc
  | cons d s =>
    simp only [isIdentifier, Bool.and_eq_true, Bool.or_eq_true, List.all_eq_true] at h
    obtain ⟨hd, hs⟩ := h
    rcases List.mem_cons.1 hc with rfl | hc
    · simp only [isIdentifierChar, Bool.or_eq_true]
      exact hd.imp_left .inl
    · simpa only [isIdentifierChar, Bool.or_eq_true] using hs c hc

/-- An identifier is a segment that can be looked up, without a dot. -/
lemma isSegment_of_isIdentifier {s : List Char} (h : isIdentifier s) :
    UnitName.isSegment s ∧ '.' ∉ s := by
  have hchar : ∀ c ∈ s, _ := fun c hc =>
    isSegmentChar_of_isIdentifierChar (isIdentifierChar_of_mem h hc)
  have hne : s ≠ [] := by
    rintro rfl
    cases h
  refine ⟨?_, fun hdot => (hchar '.' hdot).1 rfl⟩
  rw [UnitName.isSegment, Bool.and_eq_true, List.all_eq_true]
  exact ⟨decide_eq_true hne, fun c hc => (hchar c hc).2⟩

/-- Dotted names can be imported. -/
lemma IsDotted.isImportable {name : String} (h : IsDotted name) : UnitName.isImportable name :=
  List.all_eq_true.2 fun s hs => (isSegment_of_isIdentifier (h s hs)).1

/-- An identifier beneath a dotted name makes a dotted name. -/
lemma IsDotted.child {module name : String} (h : IsDotted module)
    (hn : isIdentifier name.toList) : IsDotted (UnitName.child module name) := by
  have hsegments : UnitName.segments (UnitName.child module name) =
      UnitName.segments module ++ [name.toList] := by
    have hchild : (UnitName.child module name).toList = module.toList ++ '.' :: name.toList := by
      simp [UnitName.child]
    rw [UnitName.segments, hchild, pieces_append_sep,
      pieces_eq_singleton (isSegment_of_isIdentifier hn).2]
    rfl
  intro s hs
  rw [hsegments] at hs
  rcases List.mem_append.1 hs with hs | hs
  · exact h s hs
  · obtain rfl := List.mem_singleton.1 hs
    exact hn

/-- A plain value mentions no unit. -/
lemma Value.IsPlain.mentions {v : Value} (h : v.IsPlain) : v.mentions = [] := by
  cases h <;> rfl

/-- What a well-named program mentions can be imported. -/
theorem Program.IsWellNamed.isImportable {p : Program} (h : p.IsWellNamed) :
    ∀ name ∈ p.mentions, UnitName.isImportable name := by
  intro name hname
  obtain ⟨s, hs, hname⟩ := List.mem_flatMap.1 hname
  have hnamed := h s hs
  cases s with
  | assign target value =>
    cases value with
    | literal v =>
      rw [Statement.mentions, Value.IsPlain.mentions hnamed.2] at hname
      cases hname
    | name n => cases hname
  | importUnit module newName =>
    obtain rfl := List.mem_singleton.1 hname
    exact hnamed.1.isImportable
  | fromImport module names =>
    rcases List.mem_cons.1 hname with rfl | hname
    · exact hnamed.1.isImportable
    · obtain ⟨n, hn, rfl⟩ := List.mem_map.1 hname
      exact (hnamed.1.child (hnamed.2 n hn)).isImportable
  | raise message => cases hname

end UnitLoader
