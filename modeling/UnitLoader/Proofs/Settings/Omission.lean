import Mathlib.Data.Finset.Insert
import UnitLoader.Proofs.Settings.Check
import UnitLoader.Proofs.Text.Utf8
import UnitLoader.Proofs.Toml.Document
import UnitLoader.Setup.SettingsFile

/-!
# Settings that are left out

A document need not tell every setting. What it leaves out is as usual: a section, or an entry of a
section that it writes. Three entries may not be left out of their sections: the rights that are
granted, the variable that keeps the process unrestricted, and the level of the log. A document that
writes one of these sections without its entry tells no settings at all.

## Main definitions

* `UnitLoader.Topic` — the sections of a document.
* `UnitLoader.Settings.without` — settings of which some are as usual.
* `UnitLoader.Settings.Tells` — the table of a document tells settings, some of them left out.
* `UnitLoader.Settings.document` — such a document.

## Main results

* `UnitLoader.Settings.tells_document` — what `Settings.document` writes is read back.
* `UnitLoader.Settings.ofTable?_of_tells` — which settings such a table tells.
* `UnitLoader.Settings.load_of_tells` — what is loaded from a file with such a document.
-/

set_option relaxedAutoImplicit false
set_option autoImplicit false

namespace UnitLoader

open Toml (Told)

/-! ## Sections and keys -/

/-- The sections of a document of settings. -/
inductive Topic where
  | loader
  | rights
  | restrict
  | logging
  deriving DecidableEq, Repr

namespace Setting

/-- The section that a setting belongs to. -/
def topic : Setting → Topic
  | .roots | .preload | .native | .source | .compiled | .initializer => .loader
  | .granted => .rights
  | .skipVariable | .evictAfter => .restrict
  | .level => .logging

/-- The key of a setting in its section. -/
def key : Setting → String
  | .roots => "roots"
  | .preload => "preload"
  | .native => "native"
  | .source => "source"
  | .compiled => "compiled"
  | .initializer => "initializer"
  | .granted => "granted"
  | .skipVariable => "skip_env"
  | .evictAfter => "evict_after"
  | .level => "level"

/-- Whether a setting may not be left out of its section. -/
def isRequired : Setting → Bool
  | .granted | .skipVariable | .level => true
  | _ => false

/-- All settings, in the order in which they are written. -/
def all : List Setting :=
  [.roots, .preload, .native, .source, .compiled, .initializer, .granted, .skipVariable, .evictAfter,
    .level]

/-- Every setting is in the list of all of them. -/
lemma mem_all (x : Setting) : x ∈ all := by
  cases x <;> decide

/-- No setting is twice in that list. -/
lemma nodup_all : all.Nodup := by
  decide

/-- Different settings have different keys. -/
lemma key_injective : Function.Injective key := by
  intro x y h
  revert h
  cases x <;> cases y <;> decide

/-- The key of a setting needs no quotes. -/
lemma isBare_key (x : Setting) : Toml.isBare x.key = true := by
  cases x <;> decide

end Setting

namespace Topic

/-- The name of a section. -/
def name : Topic → String
  | .loader => "loader"
  | .rights => "rights"
  | .restrict => "restrict"
  | .logging => "logging"

/-- All sections, in the order in which they are written. -/
def all : List Topic :=
  [.loader, .rights, .restrict, .logging]

/-- The settings after a section. -/
def read (s : Settings) : Topic → Toml.Value → Option Settings
  | .loader => s.readLoader
  | .rights => s.readRights
  | .restrict => s.readRestrict
  | .logging => s.readLogging

/-- The settings with those of a section taken one by one from others. -/
def fill (s : Settings) (pick : Setting → Settings) : Topic → Settings
  | .loader =>
    { s with
      roots := (pick .roots).roots
      preload := (pick .preload).preload
      rules :=
        { native := (pick .native).rules.native
          source := (pick .source).rules.source
          compiled := (pick .compiled).rules.compiled
          initializer := (pick .initializer).rules.initializer } }
  | .rights => { s with granted := (pick .granted).granted }
  | .restrict =>
    { s with
      skipVariable := (pick .skipVariable).skipVariable
      evictAfter := (pick .evictAfter).evictAfter }
  | .logging => { s with level := (pick .level).level }

/-- What a section is filled with depends on its own settings only. -/
lemma fill_congr {s : Settings} {pick pick' : Setting → Settings} (p : Topic)
    (h : ∀ x, x.topic = p → pick x = pick' x) : p.fill s pick = p.fill s pick' := by
  cases p with
  | loader =>
    rw [fill, h .roots rfl, h .preload rfl, h .native rfl, h .source rfl, h .compiled rfl,
      h .initializer rfl]
    rfl
  | rights => rw [fill, h .granted rfl, fill]
  | restrict => rw [fill, h .skipVariable rfl, h .evictAfter rfl, fill]
  | logging => rw [fill, h .level rfl, fill]

/-- Every section is in the list of all of them. -/
lemma mem_all (p : Topic) : p ∈ all := by
  cases p <;> decide

/-- No section is twice in that list. -/
lemma nodup_all : all.Nodup := by
  decide

/-- Different sections have different names. -/
lemma name_injective : Function.Injective name := by
  intro p q h
  revert h
  cases p <;> cases q <;> decide

/-- The name of a section needs no quotes. -/
lemma isBare_name (p : Topic) : Toml.isBare p.name = true := by
  cases p <;> decide

end Topic

namespace Settings

variable {s : Settings} {topics : Finset Topic} {omitted : Finset Setting}
  {table entries : Table Toml.Value} {x : Setting}

/-! ## Settings told by a document -/

/-- What the entry of a setting tells. -/
def told (s : Settings) : Setting → Told
  | .roots => .texts s.roots
  | .preload => .texts s.preload
  | .native => .texts s.rules.native
  | .source => .texts s.rules.source
  | .compiled => .texts s.rules.compiled
  | .initializer => .text s.rules.initializer
  | .granted => .texts s.granted
  | .skipVariable => .text s.skipVariable
  | .evictAfter => .texts s.evictAfter
  | .level => .text s.level

/-- Where a setting is taken from: the usual settings, if it is left out. -/
def chosen (s : Settings) (omitted : Finset Setting) (x : Setting) : Settings :=
  if x ∈ omitted then {} else s

/-- The settings, but for some that are as usual. -/
def without (s : Settings) (omitted : Finset Setting) : Settings :=
  assemble (s.chosen omitted)

/-- The entries of a section tell its settings, but for some that have no entry. -/
def EntriesTell (s : Settings) (omitted : Finset Setting) (p : Topic)
    (entries : Table Toml.Value) : Prop :=
  ∀ x : Setting, x.topic = p →
    entries.get? x.key = if x ∈ omitted then none else some (s.told x).value

/-- The table of a document has some of the sections, and tells in them the settings, but for some
that have no entry. -/
structure Tells (table : Table Toml.Value) (s : Settings) (topics : Finset Topic)
    (omitted : Finset Setting) : Prop where
  absent : ∀ p ∉ topics, table.get? p.name = none
  present : ∀ p ∈ topics, ∃ kind entries, table.get? p.name = some (.table kind entries) ∧
    s.EntriesTell omitted p entries

/-! ## Documents are read back -/

/-- The settings of a section that are not left out. -/
def toldIn (omitted : Finset Setting) (p : Topic) : List Setting :=
  Setting.all.filter fun x => x.topic = p ∧ x ∉ omitted

/-- A section as it is written. -/
def part (s : Settings) (omitted : Finset Setting) (p : Topic) : Toml.Part where
  name := p.name
  entries := (toldIn omitted p).map fun x => (x.key, s.told x)

/-- The sections of a document, as they are written. -/
def parts (s : Settings) (topics : Finset Topic) (omitted : Finset Setting) : List Toml.Part :=
  (Topic.all.filter (· ∈ topics)).map (s.part omitted)

/-- A document that has some of the sections, and tells in them the settings, but for some that are
left out. -/
def document (s : Settings) (topics : Finset Topic) (omitted : Finset Setting) : List Char :=
  Toml.written (s.parts topics omitted)

/-- No setting is told twice in a section. -/
lemma nodup_toldIn (omitted : Finset Setting) (p : Topic) : (toldIn omitted p).Nodup :=
  Setting.nodup_all.filter _

/-- A section is written as a plain part: its name and keys need no quotes, and no key is there
twice. -/
lemma isPlain_part (s : Settings) (omitted : Finset Setting) (p : Topic) :
    (s.part omitted p).IsPlain := by
  refine ⟨p.isBare_name, fun e he => ?_, ?_⟩
  · obtain ⟨x, -, rfl⟩ := List.mem_map.1 he
    exact x.isBare_key
  · rw [part, List.map_map]
    exact (nodup_toldIn omitted p).map Setting.key_injective

/-- The table of a section that is written tells its settings. -/
lemma entriesTell_part (s : Settings) (omitted : Finset Setting) (p : Topic) :
    s.EntriesTell omitted p (.ofList (s.part omitted p).values) := by
  have hvalues : (s.part omitted p).values =
      (toldIn omitted p).map fun x => (x.key, (s.told x).value) := by
    simp [Toml.Part.values, part]
  intro x hx
  rw [hvalues, Table.get?_ofList_map Setting.key_injective _ (nodup_toldIn omitted p)]
  by_cases homitted : x ∈ omitted <;> simp [toldIn, x.mem_all, hx, homitted]

/-- A document of settings is read back. -/
theorem tells_document (s : Settings) (topics : Finset Topic) (omitted : Finset Setting) :
    ∃ table, Toml.read? (s.document topics omitted) = some table ∧
      Tells table s topics omitted := by
  have htopics : (Topic.all.filter (· ∈ topics)).Nodup := Topic.nodup_all.filter _
  have hparts : ∀ p ∈ s.parts topics omitted, p.IsPlain := by
    intro p hp
    obtain ⟨q, -, rfl⟩ := List.mem_map.1 hp
    exact s.isPlain_part omitted q
  have hnames : ((s.parts topics omitted).map (·.name)).Nodup := by
    rw [parts, List.map_map]
    exact htopics.map Topic.name_injective
  have htable : (s.parts topics omitted).map Toml.Part.table =
      (Topic.all.filter (· ∈ topics)).map fun p =>
        (p.name, .table .defined (.ofList (s.part omitted p).values)) := by
    simp [parts, Toml.Part.table, part]
  have hget := Table.get?_ofList_map (α := Toml.Value) Topic.name_injective
    (fun p => .table .defined (.ofList (s.part omitted p).values)) htopics
  refine ⟨_, Toml.read?_written hparts hnames, fun p hp => ?_, fun p hp => ?_⟩
  · rw [htable, hget]
    simp [hp]
  · refine ⟨.defined, _, ?_, s.entriesTell_part omitted p⟩
    rw [htable, hget]
    simp [p.mem_all, hp]

/-! ## What is told -/

/-- Texts are read from the array that tells them. -/
lemma texts?_value (ss : List String) : (Told.texts ss).value.texts? = some ss := by
  rw [Told.value, Toml.Value.texts?, Toml.Value.items?, Option.bind_some]
  induction ss with
  | nil => rfl
  | cons s ss ih => simp [ih, Toml.Value.text?]

/-- The entries of a section that is a table. -/
lemma entriesOf?_table (names : List String) (kind : Toml.TableKind) (entries : Table Toml.Value) :
    entriesOf? names (.table kind entries) = some entries := rfl

/-- An entry that may be left out is read, and is as usual if it is. -/
lemma entryOr_told {α : Type} (h : s.EntriesTell omitted x.topic entries) {f : Settings → α}
    {r : Toml.Value → Option α} (hr : r (s.told x).value = some (f s)) :
    entryOr (entries.get? x.key) r (f {}) = some (f (s.chosen omitted x)) := by
  rw [h x rfl, chosen]
  split_ifs
  · rfl
  · exact hr

/-- The entry of a setting that is told. -/
lemma get?_of_notMem (h : s.EntriesTell omitted x.topic entries) (hx : x ∉ omitted) :
    entries.get? x.key = some ((s.chosen omitted x).told x).value := by
  rw [h x rfl, chosen, if_neg hx, if_neg hx]

/-- A section is read whose required settings are told, if the settings before it are usual in it. -/
lemma read_of_entriesTell {s₀ : Settings} {p : Topic} (hs₀ : p.fill s₀ (fun _ => {}) = s₀)
    (h : s.EntriesTell omitted p entries)
    (hrequired : ∀ x ∈ omitted, x.topic = p → x.isRequired = false) (kind : Toml.TableKind) :
    p.read s₀ (.table kind entries) = some (p.fill s₀ (s.chosen omitted)) := by
  -- The section begins with the usual settings, so that each one is told or left as it is.
  rw [← hs₀]
  cases p with
  | loader =>
    have hroots := entryOr_told (x := .roots) h (f := roots) (texts?_value _)
    have hpreload := entryOr_told (x := .preload) h (f := preload) (texts?_value _)
    have hnative := entryOr_told (x := .native) h (f := (·.rules.native)) (texts?_value _)
    have hsource := entryOr_told (x := .source) h (f := (·.rules.source)) (texts?_value _)
    have hcompiled := entryOr_told (x := .compiled) h (f := (·.rules.compiled)) (texts?_value _)
    have hinitializer := entryOr_told (x := .initializer) h (f := (·.rules.initializer))
      (r := Toml.Value.text?) rfl
    simp only [Setting.key] at hroots hpreload hnative hsource hcompiled hinitializer
    simp [Topic.read, readLoader, Topic.fill, tableOf?, hroots, hpreload, hnative, hsource,
      hcompiled, hinitializer]
  | rights =>
    have hnot : .granted ∉ omitted := fun hx => absurd (hrequired _ hx rfl) (by decide)
    have hgranted := get?_of_notMem h hnot
    simp only [Setting.key, told] at hgranted
    simp [Topic.read, readRights, Topic.fill, entriesOf?_table, hgranted, texts?_value]
  | restrict =>
    have hnot : .skipVariable ∉ omitted := fun hx => absurd (hrequired _ hx rfl) (by decide)
    have hvariable := get?_of_notMem h hnot
    have hevict := entryOr_told (x := .evictAfter) h (f := evictAfter) (texts?_value _)
    simp only [Setting.key, told] at hvariable hevict
    simp [Topic.read, readRestrict, Topic.fill, entriesOf?_table, hvariable, hevict, Told.value,
      Toml.Value.text?]
  | logging =>
    have hnot : .level ∉ omitted := fun hx => absurd (hrequired _ hx rfl) (by decide)
    have hlevel := get?_of_notMem h hnot
    simp only [Setting.key, told] at hlevel
    simp [Topic.read, readLogging, Topic.fill, entriesOf?_table, hlevel, Told.value,
      Toml.Value.text?]

/-- A section without a setting that it must tell is not read. -/
lemma read_eq_none (h : s.EntriesTell omitted x.topic entries) (hx : x ∈ omitted)
    (hrequired : x.isRequired = true) (s₀ : Settings) (kind : Toml.TableKind) :
    x.topic.read s₀ (.table kind entries) = none := by
  have hget := h x rfl
  rw [if_pos hx] at hget
  cases x with
  | granted => simp_all [Topic.read, readRights, Setting.topic, Setting.key, entriesOf?_table]
  | skipVariable =>
    simp_all [Topic.read, readRestrict, Setting.topic, Setting.key, entriesOf?_table]
  | level => simp_all [Topic.read, readLogging, Setting.topic, Setting.key, entriesOf?_table]
  | _ => simp [Setting.isRequired] at hrequired

/-! ## Documents with omissions -/

/-- A setting is left out that its section, which is written, must tell. -/
def IsFaulty (topics : Finset Topic) (omitted : Finset Setting) : Prop :=
  ∃ x ∈ omitted, x.isRequired = true ∧ x.topic ∈ topics

/-- Whether omissions are faulty is decided by going through them. -/
instance : Decidable (IsFaulty topics omitted) :=
  inferInstanceAs (Decidable (∃ x ∈ omitted, x.isRequired = true ∧ x.topic ∈ topics))

/-- The settings after a section that may be written or not. -/
def readTopic (table : Table Toml.Value) (s : Settings) (p : Topic) : Option Settings :=
  entryOr (table.get? p.name) (p.read s) s

/-- The sections of a document are read one after the other. -/
lemma ofTable?_eq_foldlM (table : Table Toml.Value) :
    ofTable? table = Topic.all.foldlM (readTopic table) {} := by
  simp [ofTable?, Topic.all, readTopic, Topic.name, Topic.read]

/-- A section gives its settings, if it is written, and leaves the usual ones, if it is not. -/
lemma readTopic_of_tells (ht : Tells table s topics omitted)
    (htopics : ∀ x ∉ omitted, x.topic ∈ topics) (hnot : ¬IsFaulty topics omitted) {p : Topic}
    {s₀ : Settings} (hs₀ : p.fill s₀ (fun _ => {}) = s₀) :
    readTopic table s₀ p = some (p.fill s₀ (s.chosen omitted)) := by
  by_cases hp : p ∈ topics
  · obtain ⟨kind, entries, hget, hentries⟩ := ht.present p hp
    have hrequired : ∀ x ∈ omitted, x.topic = p → x.isRequired = false := by
      rintro x hx rfl
      by_contra hrequired
      exact hnot ⟨x, hx, by simpa using hrequired, hp⟩
    rw [readTopic, hget]
    exact read_of_entriesTell hs₀ hentries hrequired kind
  · have husual : ∀ x, x.topic = p → s.chosen omitted x = {} := by
      rintro x rfl
      exact if_pos (by_contra fun hx => hp (htopics x hx))
    rw [readTopic, ht.absent p hp, p.fill_congr husual, hs₀]
    rfl

/-- A step that is never made ends a run. -/
lemma foldlM_eq_none {α β : Type} {f : β → α → Option β} {a : α} (hf : ∀ b, f b a = none)
    {as : List α} (ha : a ∈ as) (b : β) : as.foldlM f b = none := by
  induction as generalizing b with
  | nil => cases ha
  | cons c as ih =>
    rw [List.foldlM_cons]
    rcases List.mem_cons.1 ha with rfl | ha
    · rw [hf]
      rfl
    · cases hc : f b c with
      | none => rfl
      | some b' => exact ih ha b'

/-- Which settings the table of a document tells. -/
theorem ofTable?_of_tells (ht : Tells table s topics omitted)
    (htopics : ∀ x ∉ omitted, x.topic ∈ topics) :
    ofTable? table = if IsFaulty topics omitted then none else some (s.without omitted) := by
  rw [ofTable?_eq_foldlM]
  split_ifs with hfaulty
  · obtain ⟨x, hx, hrequired, htopic⟩ := hfaulty
    obtain ⟨kind, entries, hget, hentries⟩ := ht.present x.topic htopic
    refine foldlM_eq_none (fun s₀ => ?_) x.topic.mem_all _
    rw [readTopic, hget]
    exact read_eq_none hentries hx hrequired s₀ kind
  · have hread {p : Topic} {s₀ : Settings} (hs₀ : p.fill s₀ (fun _ => {}) = s₀) :=
      readTopic_of_tells ht htopics hfaulty hs₀
    simp only [Topic.all, List.foldlM_cons, List.foldlM_nil, Option.bind_eq_bind]
    rw [hread rfl, Option.bind_some, hread rfl, Option.bind_some, hread rfl, Option.bind_some,
      hread rfl, Option.bind_some]
    rfl

/-- Settings that pass the check pass it too when some of them are as usual. -/
lemma check_without (hs : s.check = .ok s) (omitted : Finset Setting) :
    (s.without omitted).check = .ok (s.without omitted) := by
  refine check_assemble fun x => ?_
  unfold chosen
  split_ifs
  · rfl
  · exact hs

/-- From a file that tells settings they are loaded, if they pass the check. -/
lemma load_of_some {a : Ambient} {path : String} {text : List Char}
    (hfile : a.readFile path = .ok (Text.Utf8.encode text)) (htext : ofDocument? text = some s) :
    load a path = s.check.mapError .settings := by
  have hdecode := Text.Utf8.decode_encode text
  simp only [load, hfile, Except.mapError, bind, Except.bind, hdecode, htext]

/-- From a file that tells no settings none are loaded. -/
lemma load_of_none {a : Ambient} {path : String} {text : List Char}
    (hfile : a.readFile path = .ok (Text.Utf8.encode text)) (htext : ofDocument? text = none) :
    load a path = .error (.unparsable path) := by
  have hdecode := Text.Utf8.decode_encode text
  simp only [load, hfile, Except.mapError, bind, Except.bind, hdecode, htext]
  rfl

/-- **Settings that are left out are as usual when the rest is loaded**, unless a section that is
written must tell them: then nothing is loaded. Let checked settings be told by a document with some
sections, all of those among them that have settings which are not left out. What `document` writes
is such a document; and from a file with any of them the settings are loaded, with the usual values in
the places of those left out. If one of these is the granted rights, the variable that keeps the
process unrestricted, or the level of the log, and its section is written, then the file cannot be
parsed.

**Proof sketch.** The writer's lines are read back (`tells_document`). Each section of such a table is
read by itself, and either gives its settings, those left out as usual, or nothing at all
(`ofTable?_of_tells`). The check looks at each setting by itself, so it is passed again
(`check_without`). -/
theorem load_of_tells (hs : s.check = .ok s) (htopics : ∀ x ∉ omitted, x.topic ∈ topics) :
    (∃ table, Toml.read? (s.document topics omitted) = some table ∧
      Tells table s topics omitted) ∧
    ∀ (a : Ambient) (path : String) (text : List Char) (table : Table Toml.Value),
      a.readFile path = .ok (Text.Utf8.encode text) → Toml.read? text = some table →
        Tells table s topics omitted →
          load a path =
            if IsFaulty topics omitted then .error (.unparsable path)
            else .ok (s.without omitted) := by
  refine ⟨s.tells_document topics omitted, fun a path text table hfile htable ht => ?_⟩
  have hdocument : ofDocument? text =
      if IsFaulty topics omitted then none else some (s.without omitted) := by
    rw [ofDocument?, htable]
    exact ofTable?_of_tells ht htopics
  split_ifs at hdocument ⊢
  · exact load_of_none hfile hdocument
  · rw [load_of_some hfile hdocument, check_without hs omitted]
    rfl

/-- A tree with a file of settings. -/
def configured (text : List Char) : Ambient :=
  { tree := ⟨[.directory 0 (.ofList [("config.toml", 1)]) 0,
      .file (.bytes (Text.Utf8.encode text)) 0]⟩
    working := Tree.root }

/-- The file of the settings holds their text. -/
lemma readFile_configured (text : List Char) :
    (configured text).readFile "/config.toml" = .ok (Text.Utf8.encode text) := rfl

/-- A document without the section on rights and without three other entries: the rights, the preloads,
the suffixes of native libraries and the units that are evicted are as usual, all else is as told. -/
theorem load_of_tells_usual :
    let s : Settings :=
      { roots := ["/srv/units"], preload := ["random"], rules := { native := [".so", ".dylib"] }
        granted := ["read"], skipVariable := "NO_SANDBOX", evictAfter := ["bootstrap"]
        level := "debug" }
    let topics : Finset Topic := {.loader, .restrict, .logging}
    let omitted : Finset Setting := {.preload, .native, .granted, .evictAfter}
    s.check = .ok s ∧ (∀ x ∉ omitted, x.topic ∈ topics) ∧
      load (configured (s.document topics omitted)) "/config.toml" =
        .ok { roots := ["/srv/units"], skipVariable := "NO_SANDBOX", level := "debug" } := by
  intro s topics omitted
  have hs : s.check = .ok s := by decide
  have htopics : ∀ x ∉ omitted, x.topic ∈ topics := by
    intro x
    cases x <;> decide
  obtain ⟨⟨table, htable, ht⟩, hload⟩ := load_of_tells hs htopics
  have hfaulty : ¬IsFaulty topics omitted := by decide
  refine ⟨hs, htopics, ?_⟩
  rw [hload _ _ _ _ (readFile_configured _) htable ht, if_neg hfaulty]
  decide

/-- A document that tells checked settings and leaves out the variable that keeps the process
unrestricted, with the section on restricting written: no settings are loaded from it, although they
would pass the check with the usual variable. -/
theorem load_required_omitted :
    let s : Settings :=
      { roots := ["/srv/units"], granted := ["read"], evictAfter := ["bootstrap"], level := "debug" }
    let topics : Finset Topic := {.loader, .rights, .restrict, .logging}
    let omitted : Finset Setting :=
      {.preload, .native, .source, .compiled, .initializer, .skipVariable}
    let text := ("[loader]\nroots = [\"/srv/units\"]\n[rights]\ngranted = [\"read\"]\n" ++
      "[restrict]\nevict_after = [\"bootstrap\"]\n[logging]\nlevel = \"debug\"\n").toList
    s.check = .ok s ∧ s.document topics omitted = text ∧
      (s.without omitted).check = .ok (s.without omitted) ∧
      load (configured text) "/config.toml" = .error (.unparsable "/config.toml") := by
  decide +kernel

end Settings

end UnitLoader
