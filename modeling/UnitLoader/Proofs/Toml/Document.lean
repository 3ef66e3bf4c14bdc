import Mathlib.Data.List.Nodup
import UnitLoader.Proofs.Toml.Written

/-!
# TOML documents are read back

A document of sections is written line by line: the header of a section, then its entries, each with
its key, which is bare, and what it tells. If no name of a section comes twice, and no key within a
section, then the document is read as the table of its sections.

## Main definitions

* `UnitLoader.Toml.Row`, `UnitLoader.Toml.Row.written` — a line, and how it is written.
* `UnitLoader.Toml.Part`, `UnitLoader.Toml.written` — a section, and how a document of sections is
  written.

## Main results

* `UnitLoader.Toml.lines?_document` — the lines of a document are read back.
* `UnitLoader.Toml.read?_written` — a document of sections is read as the table of them.
-/

set_option relaxedAutoImplicit false
set_option autoImplicit false

namespace UnitLoader

/-! ## Tables of entries -/

namespace Table

variable {α : Type} {name : String}

/-- Of two values that are set for a name the later one counts. -/
lemma insert_insert_self (t : Table α) (name : String) (value other : α) :
    (t.insert name value).insert name other = t.insert name other := by
  obtain ⟨es⟩ := t
  simp only [insert, mk.injEq]
  induction es with
  | nil => simp [store]
  | cons e es ih =>
    by_cases he : e.1 = name
    · simp [store, he]
    · simp [store, he, ih]

/-- Names that are new stay new when another name is set. -/
lemma get?_insert_of_notMem {β : Type} {f : β → String} {bs : List β} {t : Table α}
    (hname : name ∉ bs.map f) (hnew : ∀ b ∈ bs, t.get? (f b) = none) (value : α) :
    ∀ b ∈ bs, (t.insert name value).get? (f b) = none := by
  intro b hb
  have hne : name ≠ f b := fun he => hname (List.mem_map.2 ⟨b, hb, he.symm⟩)
  rw [get?_insert, if_neg hne]
  exact hnew b hb

/-- Entries with distinct names that are set in a table without these names come after its own. -/
lemma entries_foldl_insert {es : List (String × α)} {t : Table α} (hnames : (es.map (·.1)).Nodup)
    (hnew : ∀ e ∈ es, t.get? e.1 = none) :
    (es.foldl (fun t e => t.insert e.1 e.2) t).entries = t.entries ++ es := by
  induction es generalizing t with
  | nil => simp
  | cons e es ih =>
    obtain ⟨hfresh, hnames⟩ := List.nodup_cons.1 hnames
    have hnew' := get?_insert_of_notMem hfresh
      (fun e' he' => hnew e' (List.mem_cons_of_mem e he')) e.2
    rw [List.foldl_cons, ih hnames hnew', entries_insert_of_get?_none (hnew e (by simp))]
    simp

/-- A table that is made of entries with different names has these entries. -/
lemma entries_ofList {es : List (String × α)} (hnames : (es.map (·.1)).Nodup) :
    (ofList es).entries = es :=
  entries_foldl_insert hnames (by simp)

/-- In a list that is made from keys, what is found under a key is what was made of it. -/
lemma lookup_map {β : Type} [DecidableEq β] {f : β → String} (hf : Function.Injective f)
    (v : β → α) (bs : List β) (b : β) :
    lookup (f b) (bs.map fun b => (f b, v b)) = if b ∈ bs then some (v b) else none := by
  induction bs with
  | nil => rfl
  | cons c bs ih =>
    rw [List.map_cons, lookup, ih]
    by_cases hcb : c = b
    · simp [hcb]
    · simp [hf.ne hcb, Ne.symm hcb]

/-- What is found in a table of values with distinct names. -/
lemma get?_ofList_map {β : Type} [DecidableEq β] {f : β → String} (hf : Function.Injective f)
    (v : β → α) {bs : List β} (hbs : bs.Nodup) (b : β) :
    (ofList (bs.map fun b => (f b, v b))).get? (f b) = if b ∈ bs then some (v b) else none := by
  have hnames : ((bs.map fun b => (f b, v b)).map (·.1)).Nodup := by
    rw [List.map_map]
    exact hbs.map hf
  rw [get?, entries_ofList hnames, lookup_map hf]

end Table

namespace Toml

variable {c d : Char} {rest : List Char}

/-! ## Keys -/

section Keys

variable {key : String}

/-- Whether a key can be written without quotes. -/
def isBare (key : String) : Bool :=
  key ≠ "" && key.toList.all isBareChar

/-- A character of a bare key is none that is not one. -/
lemma ne_of_isBareChar (hc : isBareChar c = true) (hd : isBareChar d = false) : c ≠ d := by
  rintro rfl
  simp [hc] at hd

/-- A character of a bare key is solid. -/
lemma isSolid_of_isBareChar (hc : isBareChar c = true) : isSolid c = true := by
  have hne (d : Char) (hd : isBareChar d = false) : c ≠ d := ne_of_isBareChar hc hd
  simp [isSolid, isSpace, hne ' ' (by decide), hne '\t' (by decide), hne '#' (by decide),
    hne '\n' (by decide), hne '\r' (by decide)]

/-- A bare key begins with a bare character. -/
lemma exists_of_isBare (hkey : isBare key = true) :
    ∃ c cs, key.toList = c :: cs ∧ isBareChar c = true := by
  simp only [isBare, Bool.and_eq_true, decide_eq_true_eq, List.all_eq_true] at hkey
  obtain ⟨hne, hbare⟩ := hkey
  cases hcs : key.toList with
  | nil => exact absurd (String.toList_eq_nil_iff.1 hcs) hne
  | cons c cs => exact ⟨c, cs, rfl, hbare c (by simp [hcs])⟩

/-- What begins with a bare key does not begin with a character that is not bare. -/
lemma append_ne_of_isBare (hkey : isBare key = true) (hd : isBareChar d = false)
    (cs : List Char) : key.toList ++ rest ≠ d :: cs := by
  obtain ⟨c, cs', hcs, hc⟩ := exists_of_isBare hkey
  rw [hcs]
  exact fun he => ne_of_isBareChar hc hd (List.cons.inj he).1

/-- A bare key is read up to the first character that is not bare. -/
lemma simpleKey_bare (hkey : isBare key = true) (hc : isBareChar c = false) :
    simpleKey (key.toList ++ c :: rest) = some (key, c :: rest) := by
  have hbare : ∀ d ∈ key.toList, isBareChar d = true := by
    simp only [isBare, Bool.and_eq_true, List.all_eq_true] at hkey
    exact hkey.2
  obtain ⟨d, ds, hds, -⟩ := exists_of_isBare hkey
  have hline : lineText (key.toList ++ c :: rest) = none := by
    rw [lineText.eq_def]
    split
    · next he => exact absurd he (append_ne_of_isBare hkey (by decide) _)
    · next he => exact absurd he (append_ne_of_isBare hkey (by decide) _)
    · rfl
  have htake : (key.toList ++ c :: rest).takeWhile isBareChar = key.toList := by
    rw [List.takeWhile_append_of_pos hbare, List.takeWhile_cons_of_neg (by simp [hc])]
    exact List.append_nil _
  rw [simpleKey, hline]
  dsimp only
  rw [htake, if_neg (by simp [hds]), List.drop_left, String.ofList_toList]

/-- A bare key is a path of one key, up to a character that is not bare, if no dot follows after
blanks. -/
lemma dottedKey_bare {cs : List Char} (hkey : isBare key = true) (hc : isBareChar c = false)
    (hrest : skipSpace (c :: rest) = d :: cs) (hd : d ≠ '.') :
    dottedKey (key.toList ++ c :: rest) = some (([], key), d :: cs) := by
  obtain ⟨e, es, hes, he⟩ := exists_of_isBare hkey
  have hspace : skipSpace (key.toList ++ c :: rest) = key.toList ++ c :: rest := by
    have he' : isSpace e = false := by
      have hsolid := isSolid_of_isBareChar he
      simp only [isSolid, Bool.and_eq_true, Bool.not_eq_true'] at hsolid
      exact hsolid.1.1.1
    rw [hes]
    exact skipSpace_append (List.forall_mem_nil _) he' _
  have hkeys : keys maxDepth (key.toList ++ c :: rest) = some ([key], d :: cs) := by
    rw [maxDepth, keys, hspace, simpleKey_bare hkey hc]
    simp only [Option.bind_eq_bind, Option.bind_some, hrest]
    split
    · next he => exact absurd (List.cons.inj he).1 hd
    · rfl
  simp [dottedKey, hkeys]

end Keys

/-! ## Lines -/

/-- A line as it is written. -/
inductive Row where
  /-- The header of a section. -/
  | header (name : String)
  | entry (key : String) (told : Told)

namespace Row

/-- The key of a line. -/
def key : Row → String
  | .header name => name
  | .entry key _ => key

/-- How a line is written, without its end. -/
def written : Row → List Char
  | .header name => '[' :: (name.toList ++ [']'])
  | .entry key t => key.toList ++ ' ' :: '=' :: ' ' :: t.written

/-- What a line says. -/
def line : Row → Line
  | .header name => .table [] name
  | .entry key t => .pair [] key t.value

end Row

/-- A document of lines. -/
def document (rows : List Row) : List Char :=
  rows.flatMap fun r => r.written ++ ['\n']

/-- The document of several rows is that of the first, with those of the others on the next
lines. -/
lemma document_cons (r : Row) (rows : List Row) :
    document (r :: rows) = r.written ++ '\n' :: document rows := by
  simp [document]

/-- There are no more lines than characters. -/
lemma length_le_length_document (rows : List Row) : rows.length ≤ (document rows).length := by
  induction rows with
  | nil => exact Nat.le_refl 0
  | cons r rows ih =>
    rw [document_cons, List.length_append, List.length_cons, List.length_cons]
    omega

/-- What an entry tells begins with no blank. -/
lemma skipSpace_written (t : Told) (rest : List Char) :
    skipSpace (' ' :: (t.written ++ rest)) = t.written ++ rest := by
  have hblank : ∀ b ∈ [' '], isSpace b = true := List.forall_mem_singleton.2 rfl
  cases t <;> exact skipSpace_append hblank (by decide) _

/-- A header is read back. -/
lemma line_header {name : String} (hname : isBare name = true) (rest : List Char) :
    line ('[' :: (name.toList ++ ']' :: rest)) = some (.table [] name, rest) := by
  have hkey : dottedKey (name.toList ++ ']' :: rest) = some (([], name), ']' :: rest) :=
    dottedKey_bare hname (by decide) rfl (by decide)
  rw [line, header]
  · rw [hkey]
    rfl
  · exact fun cs => append_ne_of_isBare hname (by decide) cs

/-- A key and what is told under it are read back. -/
lemma line_entry {key : String} (hkey : isBare key = true) (t : Told) (rest : List Char)
    (hrest : rest.head? ≠ some '"') :
    line (key.toList ++ ' ' :: '=' :: ' ' :: (t.written ++ rest)) =
      some (.pair [] key t.value, rest) := by
  have hkey' : dottedKey (key.toList ++ ' ' :: '=' :: ' ' :: (t.written ++ rest)) =
      some (([], key), '=' :: ' ' :: (t.written ++ rest)) :=
    dottedKey_bare hkey (by decide) rfl (by decide)
  have hword : word "=" ('=' :: ' ' :: (t.written ++ rest)) =
      some ((), ' ' :: (t.written ++ rest)) := rfl
  have hpair : pair (value maxDepth) (key.toList ++ ' ' :: '=' :: ' ' :: (t.written ++ rest)) =
      some ((([], key), t.value), rest) := by
    rw [pair, hkey']
    simp [hword, skipSpace_written, value_written t hrest]
  rw [line]
  · rw [hpair]
    rfl
  · exact fun cs => append_ne_of_isBare hkey (by decide) cs

/-- A line is read back up to its end. -/
lemma line_written {r : Row} (hr : isBare r.key = true) (rest : List Char) :
    line (r.written ++ '\n' :: rest) = some (r.line, '\n' :: rest) := by
  cases r with
  | header name => simpa [Row.written, Row.key, Row.line] using line_header hr ('\n' :: rest)
  | entry key t =>
    simpa [Row.written, Row.key, Row.line] using line_entry hr t ('\n' :: rest) (by simp)

/-- A line begins with a bracket or with a bare character. -/
lemma Row.exists_written {r : Row} (hr : isBare r.key = true) :
    ∃ c cs, r.written = c :: cs ∧ (c = '[' ∨ isBareChar c = true) := by
  cases r with
  | header name => exact ⟨_, _, rfl, .inl rfl⟩
  | entry key t =>
    have hkey : isBare key = true := hr
    obtain ⟨c, cs, hcs, hc⟩ := exists_of_isBare hkey
    exact ⟨c, _, by rw [Row.written, hcs, List.cons_append], .inr hc⟩

/-- The end of a line is its line feed. -/
lemma lineEnd_feed (rest : List Char) : lineEnd ('\n' :: rest) = some rest := rfl

/-- A line is read, and the lines behind it with one unit less of size. -/
lemma linesWithin?_of_line {size : Nat} {input after : List Char} {l : Line} {cs : List Char}
    (hblank : skipBlank input = c :: cs) (hline : line (c :: cs) = some (l, after))
    (hend : lineEnd after = some rest) :
    linesWithin? (size + 1) input = (linesWithin? size rest).map (l :: ·) := by
  rw [linesWithin?, hblank]
  simp only [hline, hend, Option.bind_eq_bind, Option.bind_some]
  cases linesWithin? size rest <;> rfl

/-- Lines are read back. -/
lemma linesWithin?_document {rows : List Row} (hrows : ∀ r ∈ rows, isBare r.key = true) {size : Nat}
    (hsize : rows.length < size) : linesWithin? size (document rows) = some (rows.map Row.line) := by
  induction rows generalizing size with
  | nil =>
    obtain ⟨size, rfl⟩ := Nat.exists_eq_add_one.2 hsize
    rfl
  | cons r rows ih =>
    obtain ⟨size, rfl⟩ := Nat.exists_eq_add_one.2 (Nat.zero_lt_of_lt hsize)
    have hr := hrows r (by simp)
    have hmore := ih (fun r' hr' => hrows r' (List.mem_cons_of_mem r hr'))
      (Nat.lt_of_succ_lt_succ hsize)
    obtain ⟨c, cs, hcs, hc⟩ := Row.exists_written hr
    have hsolid : isSolid c = true := by
      rcases hc with rfl | hc
      · decide
      · exact isSolid_of_isBareChar hc
    have hblank : skipBlank (r.written ++ '\n' :: document rows) =
        c :: (cs ++ '\n' :: document rows) := by
      rw [hcs]
      exact skipBlank_append (List.forall_mem_nil _) hsolid _
    have hline := line_written hr (document rows)
    rw [hcs, List.cons_append] at hline
    rw [document_cons, linesWithin?_of_line hblank hline (lineEnd_feed _), hmore]
    rfl

/-- The lines of a document are read back. -/
theorem lines?_document {rows : List Row} (hrows : ∀ r ∈ rows, isBare r.key = true) :
    lines? (document rows) = some (rows.map Row.line) := by
  have hmark : ∀ cs, document rows ≠ '\ufeff' :: cs := by
    intro cs he
    cases rows with
    | nil => exact absurd he (by simp [document])
    | cons r rows =>
      obtain ⟨c, cs', hcs, hc⟩ := Row.exists_written (hrows r (by simp))
      rw [document_cons, hcs] at he
      obtain rfl : c = '\ufeff' := (List.cons.inj he).1
      exact absurd hc (by decide)
  have hbody : lines? (document rows) =
      linesWithin? ((document rows).length + 1) (document rows) := by
    rw [lines?.eq_def]
    split
    · next cs he => exact absurd he (hmark cs)
    · rfl
  rw [hbody]
  exact linesWithin?_document hrows (Nat.lt_succ_of_le (length_le_length_document rows))

/-! ## Sections -/

/-- A section as it is written: its name, and its entries with what they tell. -/
structure Part where
  name : String
  entries : List (String × Told)

namespace Part

/-- The lines of a section. -/
def rows (p : Part) : List Row :=
  .header p.name :: p.entries.map fun e => .entry e.1 e.2

/-- The entries of a section, with their values. -/
def values (p : Part) : List (String × Value) :=
  p.entries.map fun e => (e.1, e.2.value)

/-- The name of a section and its table. -/
def table (p : Part) : String × Value :=
  (p.name, .table .defined (.ofList p.values))

/-- The name and the keys are bare, and no key comes twice. -/
structure IsPlain (p : Part) : Prop where
  name : isBare p.name = true
  keys : ∀ e ∈ p.entries, isBare e.1 = true
  nodup : (p.entries.map (·.1)).Nodup

end Part

/-- A document of sections. -/
def written (parts : List Part) : List Char :=
  document (parts.flatMap Part.rows)

/-- A header opens a section, if its name is new. -/
lemma next?_header {b : Building} {name : String} (hname : b.document.entries.get? name = none) :
    b.next? (.table [] name) =
      some ⟨b.document.set name (.table .defined .empty), [name]⟩ := by
  simp [Building.next?, Section.openTable?, Section.at?, hname]

/-- An entry is added to the section that was opened last, if its key is new. -/
lemma next?_pair {s : Section} {name key : String} {es : Table Value} (hkey : es.get? key = none)
    (v : Value) :
    Building.next? ⟨s.set name (.table .defined es), [name]⟩ (.pair [] key v) =
      some ⟨s.set name (.table .defined (es.insert key v)), [name]⟩ := by
  have hget : (s.set name (.table .defined es)).entries.get? name = some (.table .defined es) :=
    Table.get?_insert_self ..
  have hset (v v' : Value) : (s.set name v).set name v' = s.set name v' := by
    simp [Section.set, Table.insert_insert_self]
  simp only [Building.next?, Section.at?, Section.define?, hget, Table.contains, hkey]
  simp [hset]
  rfl

/-- The entries of a section are added to it one after the other. -/
lemma foldlM_entries (s : Section) (name : String) {entries : List (String × Value)}
    {es : Table Value} (hkeys : (entries.map (·.1)).Nodup)
    (hnew : ∀ e ∈ entries, es.get? e.1 = none) :
    (entries.map fun e => Line.pair [] e.1 e.2).foldlM Building.next?
        ⟨s.set name (.table .defined es), [name]⟩ =
      some ⟨s.set name (.table .defined (entries.foldl (fun t e => t.insert e.1 e.2) es)), [name]⟩ := by
  induction entries generalizing es with
  | nil => rfl
  | cons e entries ih =>
    obtain ⟨hfresh, hkeys⟩ := List.nodup_cons.1 hkeys
    have hnew' := Table.get?_insert_of_notMem hfresh
      (fun e' he' => hnew e' (List.mem_cons_of_mem e he')) e.2
    rw [List.map_cons, List.foldlM_cons, next?_pair (hnew e (by simp))]
    exact ih hkeys hnew'

/-- The lines of a section put its table under its name. -/
lemma foldlM_part {p : Part} (hp : p.IsPlain) {b : Building}
    (hname : b.document.entries.get? p.name = none) :
    (p.rows.map Row.line).foldlM Building.next? b =
      some ⟨b.document.set p.name p.table.2, [p.name]⟩ := by
  have hkeys : (p.values.map (·.1)).Nodup := by
    simpa [Part.values, Function.comp_def] using hp.nodup
  have hlines : p.rows.map Row.line =
      .table [] p.name :: p.values.map fun e => .pair [] e.1 e.2 := by
    simp [Part.rows, Part.values, Row.line]
  rw [hlines, List.foldlM_cons, next?_header hname]
  exact foldlM_entries b.document p.name hkeys (by simp)

/-- The lines of sections put their tables under their names, one after the other. -/
lemma foldlM_parts {parts : List Part} (hparts : ∀ p ∈ parts, p.IsPlain)
    (hnames : (parts.map (·.name)).Nodup) {b : Building}
    (hnew : ∀ p ∈ parts, b.document.entries.get? p.name = none) :
    ∃ b', ((parts.flatMap Part.rows).map Row.line).foldlM Building.next? b = some b' ∧
      b'.document.entries =
        (parts.map Part.table).foldl (fun t e => t.insert e.1 e.2) b.document.entries := by
  induction parts generalizing b with
  | nil => exact ⟨b, rfl, rfl⟩
  | cons p parts ih =>
    obtain ⟨hfresh, hnames⟩ := List.nodup_cons.1 hnames
    have hnew' := Table.get?_insert_of_notMem hfresh
      (fun p' hp' => hnew p' (List.mem_cons_of_mem p hp')) p.table.2
    obtain ⟨b', hb', hentries⟩ := ih (fun p' hp' => hparts p' (List.mem_cons_of_mem p hp')) hnames
      (b := ⟨b.document.set p.name p.table.2, [p.name]⟩) hnew'
    refine ⟨b', ?_, hentries⟩
    rw [List.flatMap_cons, List.map_append, List.foldlM_append,
      foldlM_part (hparts p (by simp)) (hnew p (by simp))]
    exact hb'

/-- **A document of sections is read as the table of them**, if no name comes twice.

**Proof sketch.** Its lines are read back one by one (`lines?_document`), and the headers and
entries among them build the table (`foldlM_parts`). -/
theorem read?_written {parts : List Part} (hparts : ∀ p ∈ parts, p.IsPlain)
    (hnames : (parts.map (·.name)).Nodup) :
    read? (written parts) = some (.ofList (parts.map Part.table)) := by
  have hbare : ∀ r ∈ parts.flatMap Part.rows, isBare r.key = true := by
    intro r hr
    obtain ⟨p, hp, hr⟩ := List.mem_flatMap.1 hr
    rcases List.mem_cons.1 hr with rfl | hr
    · exact (hparts p hp).name
    · obtain ⟨e, he, rfl⟩ := List.mem_map.1 hr
      exact (hparts p hp).keys e he
  obtain ⟨b, hb, hentries⟩ := foldlM_parts hparts hnames (b := {}) (by simp)
  rw [read?, written, lines?_document hbare]
  simp [hb, hentries, Table.ofList]

end Toml

end UnitLoader
