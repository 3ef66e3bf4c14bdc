import Mathlib.Tactic.Lemma
import Mathlib.Tactic.SplitIfs
import UnitLoader.Program.Body
import UnitLoader.Proofs.Json.Written

/-!
# Bodies are read back

A body is read as the program that it was written for, unless a literal in the program is an
infinity or a NaN, or lists in it nest too deep.

## Main definitions

* `UnitLoader.Program.floats` — the doubles among the literals of a program.
* `UnitLoader.Program.FloatsReadBack` — the finite ones are read back from their text.
* `UnitLoader.Program.IsStorable` — the programs that are read back.

## Main results

* `UnitLoader.Program.ofJson?_written` — what is read of what is written.
* `UnitLoader.Program.ofBody?_body_eq` — what is read of a body.
-/

set_option relaxedAutoImplicit false
set_option autoImplicit false

namespace UnitLoader

open Json (ofText valuesOf IsLegible)

/-! ## The doubles in a program -/

mutual

/-- The doubles in a value. -/
def Value.floats : Value → List Binary64
  | .float x => [x]
  | .list items => Value.floatsOf items
  | _ => []

/-- The doubles in values. -/
def Value.floatsOf : List Value → List Binary64
  | [] => []
  | v :: vs => Value.floats v ++ Value.floatsOf vs

end

/-- The doubles in an expression. -/
def Expr.floats : Expr → List Binary64
  | .literal v => v.floats
  | .name _ => []

/-- The doubles in a statement. -/
def Statement.floats : Statement → List Binary64
  | .assign _ value => value.floats
  | _ => []

/-- The doubles among the literals of a program. -/
def Program.floats (p : Program) : List Binary64 :=
  p.statements.flatMap Statement.floats

/-- The finite doubles among the literals are read back from the text that they are written as. -/
def Program.FloatsReadBack (p : Program) : Prop :=
  ∀ x ∈ p.floats, x.isFinite = true → (Json.Number.double x).ReadsBack

/-- Whether the numbers of a program read back is decided one by one. -/
instance (p : Program) : Decidable p.FloatsReadBack :=
  inferInstanceAs (Decidable (∀ x ∈ p.floats, _ → _))

/-! ## Tagged values -/

section Tagged

variable {tag : String} {content : Json}

/-- A tagged value is written with its content written. -/
@[simp]
lemma Json.written_tagged (field tag : String) (content : Json) :
    (Json.tagged field tag content).written = Json.tagged field tag content.written :=
  rfl

/-- A tagged value is one level deeper than its content. -/
@[simp]
lemma Json.depth_tagged (field tag : String) (content : Json) :
    (Json.tagged field tag content).depth = content.depth + 1 := by
  simp [Json.tagged, depth, fieldsDepth]

/-- A tagged value is as readable as its content. -/
@[simp]
lemma Json.isReadable_tagged (field tag : String) (content : Json) :
    (Json.tagged field tag content).isReadable = content.isReadable := by
  simp [Json.tagged, isReadable, fieldsReadable]

/-- A number that reads back is legible. -/
lemma Json.isLegible_number {n : Json.Number} (h : n.ReadsBack) :
    (Json.number (some n)).IsLegible := by
  simpa [IsLegible, toTokens, Token.ReadsBack] using h

/-- A truth value is legible. -/
lemma Json.isLegible_bool (b : Bool) : (Json.bool b).IsLegible := by
  simp [IsLegible, toTokens, Token.ReadsBack]

/-- The null value is legible. -/
lemma Json.isLegible_null : Json.null.IsLegible := by
  simp [IsLegible, toTokens, Token.ReadsBack]

/-- A text is legible. -/
lemma Json.isLegible_ofText (s : String) : (ofText s).IsLegible := by
  simp [IsLegible, toTokens, Token.ReadsBack]

/-- A tagged value is legible if its content is. -/
lemma Json.isLegible_tagged {field : String} (h : content.IsLegible) :
    (Json.tagged field tag content).IsLegible := by
  refine isLegible_object ?_
  simpa using ⟨isLegible_ofText tag, h⟩

/-- An object of a tag and a content is read as such. -/
lemma Json.tagged?_tagged (tags : Json.Tags) (tag : String) (content : Json)
    (h : tags.field ≠ "value") :
    (Json.tagged tags.field tag content).tagged? tags = some (tag, some content) := by
  simp [Json.tagged?, Json.tagged, valuesOf, h, h.symm, Json.tag?]

end Tagged

/-! ## Values -/

/-- A list is read from an array item by item. -/
lemma Value.ofJson?_list {j : Json} {items : List Json}
    (h : j.tagged? Value.tags = some ("List", some (.array items))) :
    Value.ofJson? j = (items.mapM Value.ofJson?).map .list := by
  rw [Value.ofJson?]
  split <;> simp_all

/-- A value that is no list is read from its tag and its content. -/
lemma Value.ofJson?_scalar {j : Json} {tag : String} {content : Option Json}
    (h : j.tagged? Value.tags = some (tag, content)) (hne : tag ≠ "List") :
    Value.ofJson? j = Value.ofScalar? tag content := by
  rw [Value.ofJson?]
  split <;> simp_all

/-- A tagged value is read from its tag and its content, unless it is a list. -/
lemma Value.ofJson?_tagged {tag : String} {content : Json} (hne : tag ≠ "List") :
    Value.ofJson? (.tagged "type" tag content) = Value.ofScalar? tag (some content) :=
  Value.ofJson?_scalar (Json.tagged?_tagged Value.tags tag content (by decide)) hne

/-- Every integer of 64 bits is one. -/
lemma Value.ofScalar?_int (n : Int64) :
    Value.ofScalar? "Int" (some (.number (some (.integer n.toInt)))) = some (.int n) := by
  have hrange : (Int64.minValue.toInt ≤ n.toInt && n.toInt ≤ Int64.maxValue.toInt) = true := by
    simpa using ⟨Int64.minValue_le_toInt n, Int64.toInt_le n⟩
  change (if _ then _ else _) = _
  rw [if_pos hrange, Int64.ofInt_toInt]

mutual

/-- A value is read from what it is written as, if the doubles in it are finite. -/
lemma Value.ofJson?_written (v : Value) :
    Value.ofJson? v.toJson.written =
      if v.floats.all Binary64.isFinite then some v else Option.none := by
  match v with
  | .none =>
    have htagged : (Json.object [(some "type", ofText "None")]).tagged? Value.tags =
        some ("None", .none) := rfl
    exact Value.ofJson?_scalar htagged (by decide)
  | .bool b => exact Value.ofJson?_tagged (by decide)
  | .int n => exact (Value.ofJson?_tagged (by decide)).trans (Value.ofScalar?_int n)
  | .float x =>
    refine (Value.ofJson?_tagged (by decide)).trans ?_
    cases hx : x.isFinite <;>
      simp [Json.written, Value.ofScalar?, Value.floats, Json.Number.toBinary64, hx]
  | .str s => exact Value.ofJson?_tagged (by decide)
  | .list items =>
    refine (Value.ofJson?_list (Json.tagged?_tagged Value.tags _ _ (by decide))).trans ?_
    rw [Value.mapM_ofJson?_written items, Value.floats]
    split <;> rfl
  | .unit name => exact Value.ofJson?_tagged (by decide)

/-- Values are read from what they are written as, if the doubles in them are finite, and not
otherwise. -/
lemma Value.mapM_ofJson?_written (vs : List Value) :
    (Json.writtenItems (Value.toJsons vs)).mapM Value.ofJson? =
      if (Value.floatsOf vs).all Binary64.isFinite then some vs else Option.none := by
  match vs with
  | [] => rfl
  | v :: vs =>
    rw [Value.toJsons, Json.writtenItems, List.mapM_cons, Value.ofJson?_written v,
      Value.mapM_ofJson?_written vs, Value.floatsOf, List.all_append]
    cases v.floats.all Binary64.isFinite <;> cases (Value.floatsOf vs).all Binary64.isFinite <;> rfl

end

mutual

/-- What a value is written as denotes something throughout. -/
lemma Value.isReadable_written (v : Value) : v.toJson.written.isReadable = true := by
  match v with
  | .none | .bool _ | .int _ | .str _ | .unit _ => rfl
  | .float x =>
    rw [Value.toJson, Json.written_tagged, Json.isReadable_tagged, Json.written]
    split <;> rfl
  | .list items =>
    rw [Value.toJson, Json.written_tagged, Json.isReadable_tagged, Json.written, Json.isReadable,
      Value.areReadable_written items]

/-- What values are written as is readable. -/
lemma Value.areReadable_written (vs : List Value) :
    Json.areReadable (Json.writtenItems (Value.toJsons vs)) = true := by
  match vs with
  | [] => rfl
  | v :: vs =>
    rw [Value.toJsons, Json.writtenItems, Json.areReadable, Value.isReadable_written v,
      Value.areReadable_written vs, Bool.and_self]

end

mutual

/-- What a value is written as is read back, if the doubles in it are. -/
lemma Value.isLegible_written (v : Value)
    (h : ∀ x ∈ v.floats, x.isFinite = true → (Json.Number.double x).ReadsBack) :
    v.toJson.written.IsLegible := by
  match v with
  | .none =>
    refine Json.isLegible_object ?_
    simpa [Json.writtenFields, Json.written] using Json.isLegible_ofText "None"
  | .bool b => exact Json.isLegible_tagged (Json.isLegible_bool b)
  | .int n =>
    refine Json.isLegible_tagged (Json.isLegible_number (Json.readsBack_integer ?_))
    have := Int64.le_toInt n
    have := Int64.toInt_lt n
    simp only [Json.Number.InRange]
    omega
  | .float x =>
    rw [Value.toJson, Json.written_tagged, Json.written]
    split
    · next hx =>
      exact Json.isLegible_tagged (Json.isLegible_number (h x (List.mem_singleton_self x) hx))
    · exact Json.isLegible_tagged Json.isLegible_null
  | .str s | .unit s => exact Json.isLegible_tagged (Json.isLegible_ofText s)
  | .list items =>
    exact Json.isLegible_tagged (Json.isLegible_array (Value.isLegible_writtenItems items h))

/-- What values are written as is legible, if the finite doubles in them read back. -/
lemma Value.isLegible_writtenItems (vs : List Value)
    (h : ∀ x ∈ Value.floatsOf vs, x.isFinite = true → (Json.Number.double x).ReadsBack) :
    ∀ j ∈ Json.writtenItems (Value.toJsons vs), j.IsLegible := by
  match vs with
  | [] => simp [Value.toJsons, Json.writtenItems]
  | v :: vs =>
    rw [Value.toJsons, Json.writtenItems]
    refine List.forall_mem_cons.2 ⟨Value.isLegible_written v ?_, Value.isLegible_writtenItems vs ?_⟩
    · exact fun x hx => h x (List.mem_append_left _ hx)
    · exact fun x hx => h x (List.mem_append_right _ hx)

end

/-! ## Statements -/

/-- An expression is read from what it is written as, if the doubles in it are finite. -/
lemma Expr.ofJson?_written (e : Expr) :
    Expr.ofJson? e.toJson.written =
      if e.floats.all Binary64.isFinite then some e else none := by
  cases e with
  | literal v =>
    have hread : Expr.ofJson? (.tagged "kind" "Literal" v.toJson.written) =
        (Value.ofJson? v.toJson.written).map .literal := rfl
    rw [Expr.toJson, Json.written_tagged, hread, Value.ofJson?_written, Expr.floats]
    split <;> rfl
  | name n => rfl

/-- Texts are read from the strings that they are written as. -/
lemma Json.texts?_map_ofText (names : List String) :
    Json.texts? (names.map ofText) = some names := by
  rw [Json.texts?, List.mapM_map]
  exact List.mapM_pure.trans (by simp)

/-- The strings that texts are written as are written unchanged. -/
lemma Json.writtenItems_map_ofText (names : List String) :
    Json.writtenItems (names.map ofText) = names.map ofText := by
  simp [Json.writtenItems_eq_map, Json.written]

/-- A statement is read from what it is written as, if the doubles in it are finite. -/
lemma Statement.ofJson?_written (s : Statement) :
    Statement.ofJson? s.toJson.written =
      if s.floats.all Binary64.isFinite then some s else none := by
  cases s with
  | assign target value =>
    have hread : Statement.ofJson? (Statement.assign target value).toJson.written =
        (Expr.ofJson? value.toJson.written).map (.assign target) := rfl
    rw [hread, Expr.ofJson?_written, Statement.floats]
    split <;> rfl
  | importUnit module newName => cases newName <;> rfl
  | fromImport module names =>
    have hread : Statement.ofJson? (Statement.fromImport module names).toJson.written =
        (Json.texts? (Json.writtenItems (names.map ofText))).map (.fromImport module) := rfl
    rw [hread, Json.writtenItems_map_ofText, Json.texts?_map_ofText]
    rfl
  | raise message => rfl

/-- What a statement is written as denotes something throughout. -/
lemma Statement.isReadable_written (s : Statement) : s.toJson.written.isReadable = true := by
  cases s with
  | assign target value =>
    have hvalue : value.toJson.written.isReadable = true := by
      cases value with
      | literal v => rw [Expr.toJson, Json.written_tagged, Json.isReadable_tagged,
          Value.isReadable_written]
      | name n => rfl
    simp [Statement.toJson, Json.written, Json.writtenFields, Json.isReadable,
      Json.fieldsReadable, hvalue]
  | importUnit module newName => cases newName <;> rfl
  | fromImport module names =>
    have hnames : Json.areReadable (names.map ofText) = true := by
      simp [Json.areReadable_eq_all, Json.isReadable]
    simp [Statement.toJson, Json.written, Json.writtenFields, Json.isReadable,
      Json.fieldsReadable, Json.writtenItems_map_ofText, hnames]
  | raise message => rfl

/-- What a statement is written as is read back, if the doubles in it are. -/
lemma Statement.isLegible_written (s : Statement)
    (h : ∀ x ∈ s.floats, x.isFinite = true → (Json.Number.double x).ReadsBack) :
    s.toJson.written.IsLegible := by
  cases s with
  | assign target value =>
    have hvalue : value.toJson.written.IsLegible := by
      cases value with
      | literal v => exact Json.isLegible_tagged (Value.isLegible_written v h)
      | name n => exact Json.isLegible_tagged (Json.isLegible_ofText n)
    refine Json.isLegible_object ?_
    simpa [Json.writtenFields, Json.written] using
      ⟨Json.isLegible_ofText "Assign", Json.isLegible_ofText target, hvalue⟩
  | importUnit module newName =>
    refine Json.isLegible_object ?_
    cases newName with
    | none =>
      simpa [Json.writtenFields, Json.written] using
        ⟨Json.isLegible_ofText "Import", Json.isLegible_ofText module, Json.isLegible_null⟩
    | some a =>
      simpa [Json.writtenFields, Json.written] using
        ⟨Json.isLegible_ofText "Import", Json.isLegible_ofText module, Json.isLegible_ofText a⟩
  | fromImport module names =>
    have hnames : (Json.array (names.map ofText)).IsLegible :=
      Json.isLegible_array (by simpa using fun n _ => Json.isLegible_ofText n)
    refine Json.isLegible_object ?_
    simpa [Json.writtenFields, Json.written, Json.writtenItems_map_ofText] using
      ⟨Json.isLegible_ofText "FromImport", Json.isLegible_ofText module, hnames⟩
  | raise message =>
    refine Json.isLegible_object ?_
    simpa [Json.writtenFields, Json.written] using
      ⟨Json.isLegible_ofText "Raise", Json.isLegible_ofText message⟩

/-! ## Programs -/

/-- The programs of which the body is read back: no literal is an infinity or a NaN, and nothing
nests too deep. -/
def Program.IsStorable (p : Program) : Prop :=
  (∀ x ∈ p.floats, x.isFinite = true) ∧ p.toJson.depth ≤ Program.maxDepth

/-- Whether a program is storable is decided by its doubles and its depth. -/
instance (p : Program) : Decidable p.IsStorable :=
  inferInstanceAs (Decidable (_ ∧ _))

/-- Statements are read from what they are written as, if the doubles in them are finite. -/
lemma Program.mapM_ofJson?_written (ss : List Statement) :
    (Json.writtenItems (ss.map Statement.toJson)).mapM Statement.ofJson? =
      if (ss.flatMap Statement.floats).all Binary64.isFinite then some ss else none := by
  induction ss with
  | nil => rfl
  | cons s ss ih =>
    rw [List.map_cons, Json.writtenItems, List.mapM_cons, Statement.ofJson?_written, ih,
      List.flatMap_cons, List.all_append]
    cases s.floats.all Binary64.isFinite <;>
      cases (ss.flatMap Statement.floats).all Binary64.isFinite <;> rfl

/-- A program is read from what it is written as exactly if it is storable. -/
theorem Program.ofJson?_written (p : Program) :
    Program.ofJson? p.toJson.written = if p.IsStorable then some p else none := by
  have hread : Program.ofJson? p.toJson.written =
      Program.ofStatements? (.array (Json.writtenItems (p.statements.map Statement.toJson))) := rfl
  have hreadable : Json.areReadable (Json.writtenItems (p.statements.map Statement.toJson)) =
      true := by
    simp [Json.areReadable_eq_all, Json.writtenItems_eq_map, Statement.isReadable_written]
  have hdepth : p.toJson.depth = Json.itemsDepth (p.statements.map Statement.toJson) + 2 := by
    simp [Program.toJson, Json.depth, Json.fieldsDepth]
  have hstorable : p.IsStorable ↔ p.floats.all Binary64.isFinite = true ∧
      Json.itemsDepth (p.statements.map Statement.toJson) + 1 < Program.maxDepth := by
    rw [Program.IsStorable, hdepth, List.all_eq_true]
    exact and_congr_right fun _ => Iff.rfl
  rw [hread, Program.ofStatements?, Json.isReadable, hreadable, Json.depth,
    Json.itemsDepth_written, Program.mapM_ofJson?_written, ← Program.floats]
  simp only [hstorable, Bool.true_and, decide_eq_true_eq]
  split_ifs <;> simp_all

/-- What a program is written as is read back, if the doubles in it are. -/
lemma Program.isLegible_written {p : Program} (h : p.FloatsReadBack) :
    p.toJson.written.IsLegible := by
  have hstatements : (Json.array (Json.writtenItems (p.statements.map Statement.toJson))).IsLegible := by
    refine Json.isLegible_array ?_
    simp only [Json.writtenItems_eq_map, List.forall_mem_map]
    exact fun s hs => s.isLegible_written fun x hx => h x (List.mem_flatMap.2 ⟨s, hs, hx⟩)
  refine Json.isLegible_object ?_
  simpa [Json.writtenFields, Json.written] using hstatements

/-- What is read of the body of a program: the program, exactly if it is storable. -/
theorem Program.ofBody?_body_eq {p : Program} (h : p.FloatsReadBack) :
    Program.ofBody? p.body = if p.IsStorable then some p else none := by
  rw [Program.ofBody?, Program.body, Program.bodyText,
    Json.readBytes?_encode_print (Program.isLegible_written h)]
  exact Program.ofJson?_written p

/-! ## What a reader admits -/

section Admitted

open Json (Holds)

variable {j content : Json} {v : Value}

/-- Every number in a value is in range. -/
def Json.InRange (j : Json) : Prop :=
  ∀ n, .number (some n) ∈ j.toTokens → n.InRange

/-- The numbers in a part of a value are in range if those of the value are. -/
lemma Json.InRange.of_holds (h : j.InRange) (hj : j.Holds content) : content.InRange :=
  fun n hn => h n (hj.mem_toTokens _ hn)

/-- What is found under a key is a field of that key. -/
lemma Json.mem_of_mem_valuesOf {key : String} {fields : List (Option String × Json)}
    (h : j ∈ valuesOf key fields) : (some key, j) ∈ fields := by
  obtain ⟨⟨k, v⟩, hf, rfl⟩ := List.mem_map.1 h
  obtain ⟨hf, hk⟩ := List.mem_filter.1 hf
  exact eq_of_beq hk ▸ hf

/-- What is found first under a key is held by the object. -/
lemma Json.holds_of_valuesOf {key : String} {fields : List (Option String × Json)}
    {more : List Json} (h : valuesOf key fields = j :: more) : (Json.object fields).Holds j :=
  .field (Json.mem_of_mem_valuesOf (h ▸ List.mem_cons_self))

/-- A content is a part of the value that it is read from. -/
lemma Json.holds_of_tagged? {tags : Json.Tags} {tag : String}
    (h : j.tagged? tags = some (tag, some content)) : j.Holds content := by
  unfold Json.tagged? at h
  split at h
  · obtain ⟨_, -, heq⟩ := Option.map_eq_some_iff.1 h
    cases heq
    exact .item (by simp)
  · split at h
    · simp at h
    · next hvalue =>
      obtain ⟨_, -, heq⟩ := Option.map_eq_some_iff.1 h
      cases heq
      exact Json.holds_of_valuesOf hvalue
    · cases h
  · cases h

/-- A tagged value is no scalar. -/
lemma Json.depth_pos_of_tagged? {tags : Json.Tags} {r : String × Option Json}
    (h : j.tagged? tags = some r) : 0 < j.depth := by
  unfold Json.tagged? at h
  split at h
  · exact Nat.succ_pos _
  · exact Nat.succ_pos _
  · cases h

/-- A number in range stands for a finite double. -/
lemma Json.Number.InRange.isFinite {n : Json.Number} (h : n.InRange) :
    n.toBinary64.isFinite = true := by
  cases n with
  | integer n =>
    simp only [Json.Number.InRange] at h
    rw [Json.Number.toBinary64, Binary64.isFinite_withSign]
    exact (Binary64.below_ofNat (k := 64) (by omega) (by omega)).isFinite (by omega)
  | double x => exact h

/-- The doubles in a value are finite, and it nests no deeper than what it is read from. -/
def Value.Fits (v : Value) (depth : Nat) : Prop :=
  (∀ x ∈ v.floats, x.isFinite = true) ∧ v.toJson.depth ≤ depth

/-- A scalar that is read is finite and not deep, if the numbers in its content are in range. -/
lemma Value.fits_of_ofScalar? {tag : String} {content : Option Json}
    (h : Value.ofScalar? tag content = some v) (hc : ∀ c ∈ content, c.InRange) : v.Fits 1 := by
  unfold Value.ofScalar? at h
  split at h
  case h_5 n =>
    cases h
    have hn : n.InRange := hc _ rfl n (by simp [Json.toTokens])
    exact ⟨by simpa [Value.floats] using hn.isFinite, Nat.le_refl _⟩
  case h_4 =>
    split at h <;> cases h
    exact ⟨by simp [Value.floats], Nat.le_refl _⟩
  case h_8 => cases h
  all_goals
    cases h
    exact ⟨by simp [Value.floats], Nat.le_refl _⟩

/-- What is read item by item is read from items. -/
lemma exists_of_mem_mapM {α β : Type} {f : α → Option β} {xs : List α} {ys : List β} {y : β}
    (h : xs.mapM f = some ys) (hy : y ∈ ys) : ∃ x ∈ xs, f x = some y := by
  induction xs generalizing ys with
  | nil =>
    cases h
    cases hy
  | cons x xs ih =>
    rw [List.mapM_cons] at h
    obtain ⟨z, hz, h⟩ := Option.bind_eq_some_iff.1 h
    obtain ⟨zs, hzs, h⟩ := Option.bind_eq_some_iff.1 h
    cases h
    rcases List.mem_cons.1 hy with rfl | hy
    · exact ⟨x, List.mem_cons_self, hz⟩
    · obtain ⟨w, hw, hwy⟩ := ih hzs hy
      exact ⟨w, List.mem_cons_of_mem _ hw, hwy⟩

/-- The doubles in a list are those in its items. -/
lemma Value.mem_floatsOf {vs : List Value} {x : Binary64} :
    x ∈ Value.floatsOf vs ↔ ∃ v ∈ vs, x ∈ v.floats := by
  induction vs with
  | nil => simp [Value.floatsOf]
  | cons v vs ih => simp [Value.floatsOf, ih]

/-- Values are written one by one. -/
lemma Value.toJsons_eq_map (vs : List Value) : Value.toJsons vs = vs.map Value.toJson := by
  induction vs with
  | nil => rfl
  | cons v vs ih => rw [Value.toJsons, ih, List.map_cons]

/-- A value fits what it is read from. -/
lemma Value.fits_of_ofJson? (h : Value.ofJson? j = some v) (hj : j.InRange) : v.Fits j.depth := by
  fun_induction Value.ofJson? j generalizing v with
  | case1 j items htag values =>
    rename_i ih
    have hvalues : values = items.mapM Value.ofJson? := by simp [values]
    obtain ⟨vs, hvs, rfl⟩ := Option.map_eq_some_iff.1 h
    have hholds := Json.holds_of_tagged? htag
    have hfits : ∀ w ∈ vs, ∃ k ∈ items, w.Fits k.depth := fun w hw => by
      obtain ⟨k, hk, hkw⟩ := exists_of_mem_mapM (hvalues.symm.trans hvs) hw
      exact ⟨k, hk, ih k hk hkw ((hj.of_holds hholds).of_holds (.item hk))⟩
    refine ⟨fun x hx => ?_, ?_⟩
    · obtain ⟨w, hw, hx⟩ := Value.mem_floatsOf.1 hx
      obtain ⟨k, -, hfits⟩ := hfits w hw
      exact hfits.1 x hx
    · have hdepth : Json.itemsDepth (vs.map Value.toJson) ≤ Json.itemsDepth items := by
        refine Json.itemsDepth_le_iff.2 (List.forall_mem_map.2 fun w hw => ?_)
        obtain ⟨k, hk, hfits⟩ := hfits w hw
        exact Nat.le_trans hfits.2 (Json.itemsDepth_le_iff.1 (Nat.le_refl _) k hk)
      have := hholds.depth_lt
      simp only [Value.toJson, Value.toJsons_eq_map, Json.depth_tagged, Json.depth] at this ⊢
      omega
  | case2 j tag content _ htag =>
    have hfits := Value.fits_of_ofScalar? h fun c hc =>
      hj.of_holds (Json.holds_of_tagged? (htag.trans (by rw [Option.mem_def.1 hc])))
    exact ⟨hfits.1, Nat.le_trans hfits.2 (Json.depth_pos_of_tagged? htag)⟩
  | case3 => cases h

/-- An expression fits what it is read from. -/
lemma Expr.fits_of_ofJson? {e : Expr} (h : Expr.ofJson? j = some e) (hj : j.InRange) :
    (∀ x ∈ e.floats, x.isFinite = true) ∧ e.toJson.depth ≤ j.depth := by
  unfold Expr.ofJson? at h
  split at h
  · next content htag =>
    obtain ⟨v, hv, rfl⟩ := Option.map_eq_some_iff.1 h
    have hholds := Json.holds_of_tagged? htag
    have hfits := Value.fits_of_ofJson? hv (hj.of_holds hholds)
    refine ⟨hfits.1, ?_⟩
    have := hfits.2
    have := hholds.depth_lt
    rw [Expr.toJson, Json.depth_tagged]
    omega
  · next n htag =>
    cases h
    exact ⟨by simp [Expr.floats], Json.depth_pos_of_tagged? htag⟩
  · cases h

/-- In a null there are no numbers to be out of range. -/
lemma Json.InRange.null : Json.null.InRange := by
  simp [Json.InRange, toTokens]

/-- Strings are not deep. -/
lemma Json.itemsDepth_map_ofText (names : List String) :
    Json.itemsDepth (names.map ofText) = 0 := by
  induction names with
  | nil => rfl
  | cons n names ih => simpa [Json.itemsDepth, Json.depth] using ih

/-- A statement fits what its parts are parts of. -/
lemma Statement.fits_of_ofParts? {tag : String} {parts : List Json} {s : Statement} {depth : Nat}
    (h : Statement.ofParts? tag parts = some s)
    (hparts : ∀ k ∈ parts, k.depth < depth ∧ k.InRange) (hpos : 0 < depth) :
    (∀ x ∈ s.floats, x.isFinite = true) ∧ s.toJson.depth ≤ depth := by
  unfold Statement.ofParts? at h
  split at h
  · next target value =>
    obtain ⟨e, he, rfl⟩ := Option.map_eq_some_iff.1 h
    obtain ⟨hdepth, hrange⟩ := hparts value (by simp)
    have hfits := Expr.fits_of_ofJson? he hrange
    refine ⟨hfits.1, ?_⟩
    have := hfits.2
    simp only [Statement.toJson, Json.depth, Json.fieldsDepth]
    omega
  · next module newName =>
    obtain ⟨a, -, rfl⟩ := Option.map_eq_some_iff.1 h
    refine ⟨by simp [Statement.floats], ?_⟩
    cases a <;> exact hpos
  · next module names =>
    obtain ⟨ns, -, rfl⟩ := Option.map_eq_some_iff.1 h
    refine ⟨by simp [Statement.floats], ?_⟩
    have := (hparts (.array names) (by simp)).1
    simp only [Statement.toJson, Json.depth, Json.fieldsDepth, Json.itemsDepth_map_ofText] at this ⊢
    omega
  · next message =>
    cases h
    exact ⟨by simp [Statement.floats], hpos⟩
  · cases h

/-- A part stands in a field, or is an alias that was left out. -/
lemma Statement.holds_of_part? {fields : List (Option String × Json)} {name : String}
    (h : Statement.part? fields name = some j) : j = .null ∨ (Json.object fields).Holds j := by
  unfold Statement.part? at h
  split at h
  · next hvalue =>
    cases h
    exact .inr (Json.holds_of_valuesOf hvalue)
  · split at h <;> cases h
    exact .inl rfl
  · cases h

/-- A statement fits what it is read from. -/
lemma Statement.fits_of_ofJson? {s : Statement} (h : Statement.ofJson? j = some s)
    (hj : j.InRange) : (∀ x ∈ s.floats, x.isFinite = true) ∧ s.toJson.depth ≤ j.depth := by
  unfold Statement.ofJson? at h
  split at h
  · next tag parts =>
    refine Statement.fits_of_ofParts? h (fun k hk => ?_) (Nat.succ_pos _)
    have hholds : (Json.array (.string (some tag) :: parts)).Holds k :=
      .item (List.mem_cons_of_mem _ hk)
    exact ⟨hholds.depth_lt, hj.of_holds hholds⟩
  · next fields =>
    split at h
    · next tag _ =>
      obtain ⟨parts, hparts, h⟩ := Option.bind_eq_some_iff.1 h
      refine Statement.fits_of_ofParts? h (fun k hk => ?_) (Nat.succ_pos _)
      obtain ⟨name, -, hpart⟩ := exists_of_mem_mapM hparts hk
      rcases Statement.holds_of_part? hpart with rfl | hholds
      · exact ⟨Nat.succ_pos _, .null⟩
      · exact ⟨hholds.depth_lt, hj.of_holds hholds⟩
    · cases h
  · cases h

/-- Statements in an array fit what they are read from. -/
lemma Program.isStorable_of_ofStatements? {p : Program} (h : Program.ofStatements? j = some p)
    (hj : j.InRange) : p.IsStorable := by
  unfold Program.ofStatements? at h
  split at h
  · next items =>
    split at h
    · next hbound =>
      obtain ⟨ss, hss, rfl⟩ := Option.map_eq_some_iff.1 h
      have hfits : ∀ s ∈ ss, ∃ k ∈ items,
          (∀ x ∈ s.floats, x.isFinite = true) ∧ s.toJson.depth ≤ k.depth := fun s hs => by
        obtain ⟨k, hk, hks⟩ := exists_of_mem_mapM hss hs
        exact ⟨k, hk, Statement.fits_of_ofJson? hks (hj.of_holds (.item hk))⟩
      refine ⟨fun x hx => ?_, ?_⟩
      · obtain ⟨s, hs, hx⟩ := List.mem_flatMap.1 hx
        obtain ⟨k, -, hfits⟩ := hfits s hs
        exact hfits.1 x hx
      · have hdepth : Json.itemsDepth (ss.map Statement.toJson) ≤ Json.itemsDepth items := by
          refine Json.itemsDepth_le_iff.2 (List.forall_mem_map.2 fun s hs => ?_)
          obtain ⟨k, hk, hfits⟩ := hfits s hs
          exact Nat.le_trans hfits.2 (Json.itemsDepth_le_iff.1 (Nat.le_refl _) k hk)
        have hbound : (Json.array items).depth < Program.maxDepth :=
          of_decide_eq_true (Bool.and_eq_true_iff.1 hbound).2
        rw [Json.depth] at hbound
        simp only [Program.toJson, Json.depth, Json.fieldsDepth, Nat.max_zero]
        omega
    · cases h
  · cases h

/-- What is read as a program is storable. -/
theorem Program.isStorable_of_ofBody? {bytes : Bytes} {p : Program}
    (h : Program.ofBody? bytes = some p) : p.IsStorable := by
  obtain ⟨j, hj, h⟩ := Option.bind_eq_some_iff.1 h
  have hrange : j.InRange := fun n hn => Json.inRange_of_readBytes? hj hn
  unfold Program.ofJson? at h
  split at h
  · next statements =>
    exact Program.isStorable_of_ofStatements? h (hrange.of_holds (.item (by simp)))
  · split at h
    · split at h
      · next hvalue =>
        exact Program.isStorable_of_ofStatements? h
          (hrange.of_holds (Json.holds_of_valuesOf hvalue))
      · cases h
    · cases h
  · cases h

end Admitted

end UnitLoader
