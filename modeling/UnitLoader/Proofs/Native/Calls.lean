import UnitLoader.Proofs.Loader.Surroundings

/-!
# What native code does by its calls

What a call of an entry point does depends on the registry and on the names that were registered
before it by the same entry point, the last of which is the unit that attributes are set of. The
context that is published meanwhile keeps that unit's number; here it is told by its name, so that
what calls do is said without the context.

## Main definitions

* `UnitLoader.HostCall.registers?`, `UnitLoader.HostCall.sets?` — what a call asks for, if what it
  passes is valid.
* `UnitLoader.HostCall.Does` — what a call does after others, and what it returns.
* `UnitLoader.HostCall.Run` — what calls do one after the other.

## Main results

* `UnitLoader.HostCall.run_performAll` — calls do this.
* `UnitLoader.HostCall.Run.find?` — what is registered after calls.
* `UnitLoader.HostCall.Run.unit_eq` — units that no call registers are as they were before.
* `UnitLoader.HostCall.Run.bare_of_new` — a unit that calls create has a name and attributes only.
-/

set_option relaxedAutoImplicit false
set_option autoImplicit false

namespace UnitLoader.HostCall

/-! ## What calls ask for -/

/-- The name that a call registers, if it registers any, while the unit of a name is loaded: the
short name of that unit stands for its name, and every other name for itself. -/
def registers? (name : String) : HostCall → Option String
  | .register (some requested) =>
    some (if requested = UnitName.short name then name else requested)
  | _ => none

/-- The names that calls register, in order. -/
def registered (name : String) (calls : List HostCall) : List String :=
  calls.filterMap (registers? name)

/-- Whether a call is to set an attribute, with valid arguments or not. -/
def isSet : HostCall → Bool
  | .setText .. | .setInt .. => true
  | _ => false

/-- The attribute that a call is to set, and its value, if the arguments are valid. -/
def sets? : HostCall → Option (String × Value)
  | .setText (some key) (some text) => some (key, .str text)
  | .setInt (some key) value => some (key, .int value)
  | _ => none

/-- Calls register a name while its unit is loaded if one of them passes it or its short name. -/
lemma mem_registered_self {name : String} {calls : List HostCall} :
    name ∈ registered name calls ↔ ∃ requested, .register (some requested) ∈ calls ∧
      (requested = UnitName.short name ∨ requested = name) := by
  simp only [registered, List.mem_filterMap]
  constructor
  · rintro ⟨call, hcall, hname⟩
    match call, hname with
    | .register (some requested), hname =>
      refine ⟨requested, hcall, ?_⟩
      by_cases hshort : requested = UnitName.short name
      · exact .inl hshort
      · rw [registers?, if_neg hshort] at hname
        exact .inr (Option.some.inj hname)
  · rintro ⟨requested, hcall, hname⟩
    refine ⟨_, hcall, ?_⟩
    rw [registers?]
    split
    · rfl
    · next hshort => rw [hname.resolve_left hshort]

/-! ## What calls do -/

/-- What a call does to a registry and what it returns, after other calls that were made while the
same unit was loaded. -/
inductive Does (name : String) (depth : Nat) (before : List HostCall) :
    HostCall → Registry → Registry → Int → Prop
  /-- A name that is free is registered. -/
  | create {call : HostCall} {r : Registry} {other : String}
      (hn : call.registers? name = some other) (hfree : r.find? other = none) :
      Does name depth before call r (r.insertNew other) 0
  /-- A name that is registered stays so. -/
  | keep {call : HostCall} {r : Registry} {other : String} {id : UnitId}
      (hn : call.registers? name = some other) (hr : r.find? other = some id) :
      Does name depth before call r r 0
  /-- A name that is not valid is not registered. -/
  | reject {r : Registry} : Does name depth before (.register none) r r (-1)
  /-- An attribute of the unit that was registered last is set. -/
  | set {call : HostCall} {r : Registry} {key : String} {v : Value} {other : String} {id : UnitId}
      (hs : call.sets? = some (key, v)) (hlast : (registered name before).getLast? = some other)
      (hr : r.find? other = some id) :
      Does name depth before call r (r.modify id (·.setAttribute key v)) 0
  /-- No attribute is set if the arguments are not valid, or if no unit was registered. -/
  | refuse {call : HostCall} {r : Registry} (hcall : call.isSet = true)
      (h : call.sets? = none ∨ registered name before = []) : Does name depth before call r r (-1)
  /-- The depth of suspension is told. -/
  | depth {r : Registry} : Does name depth before .depth r r (min depth 0x7fffffff)

/-- What calls do to a registry one after the other, after calls before them, and their return
codes. -/
inductive Run (name : String) (depth : Nat) :
    List HostCall → List HostCall → Registry → Registry → List Int → Prop
  | nil {before : List HostCall} {r : Registry} : Run name depth before [] r r []
  | cons {before calls : List HostCall} {call : HostCall} {r r' r'' : Registry} {code : Int}
      {codes : List Int} (h : Does name depth before call r r' code)
      (hs : Run name depth (before ++ [call]) calls r' r'' codes) :
      Run name depth before (call :: calls) r r'' (code :: codes)

variable {name : String} {depth : Nat} {before calls : List HostCall} {call : HostCall}
  {r r' : Registry} {code : Int} {codes : List Int}

/-- One more call registers what calls before it do, and its own unit after that. -/
lemma registered_concat (name : String) (before : List HostCall) (call : HostCall) :
    registered name (before ++ [call]) =
      registered name before ++ (call.registers? name).toList := by
  rw [registered, List.filterMap_append]
  cases h : call.registers? name <;> simp [registered, h]

/-! ## The context -/

/-- A context is that of the unit of a name after calls: it keeps the number of the unit that was
registered last. -/
structure IsContext (name : String) (before : List HostCall) (r : Registry) (c : NativeContext) :
    Prop where
  name_eq : c.name = name
  gate_eq : c.gate = some 0
  registered_eq : c.registered = (registered name before).getLast?.bind r.find?
  find?_isSome : ∀ other ∈ registered name before, (r.find? other).isSome = true

/-- At first no unit is registered in a context. -/
lemma isContext_nil (name : String) (r : Registry) :
    IsContext name [] r { name, gate := some 0 } :=
  ⟨rfl, rfl, rfl, by simp [registered]⟩

namespace IsContext

variable {c : NativeContext}

/-- A call that registers nothing leaves the context as it is. -/
lemma concat (h : IsContext name before r c) (hcall : call.registers? name = none)
    (hr : r'.find? = r.find?) : IsContext name (before ++ [call]) r' c := by
  have hnames : registered name (before ++ [call]) = registered name before := by
    simp [registered_concat, hcall]
  constructor
  · exact h.name_eq
  · exact h.gate_eq
  · rw [hnames, hr, h.registered_eq]
  · rw [hnames, hr]
    exact h.find?_isSome

/-- After a call that registers a unit the context keeps the number of that unit. -/
lemma concat_register {other : String} {id : UnitId} (h : IsContext name before r c)
    (hcall : call.registers? name = some other) (hid : r'.find? other = some id)
    (hkeep : ∀ m, (r.find? m).isSome = true → (r'.find? m).isSome = true) :
    IsContext name (before ++ [call]) r' { c with registered := some id } := by
  have hnames : registered name (before ++ [call]) = registered name before ++ [other] := by
    simp [registered_concat, hcall]
  constructor
  · exact h.name_eq
  · exact h.gate_eq
  · rw [hnames, List.getLast?_concat, Option.bind_some, hid]
  · intro m hm
    rw [hnames, List.mem_append, List.mem_singleton] at hm
    rcases hm with hm | rfl
    · exact hkeep m (h.find?_isSome m hm)
    · rw [hid, Option.isSome_some]

end IsContext

/-! ## Calls do this -/

/-- Setting an attribute is setting it of the unit that was registered last. -/
lemma does_setAttribute {c : NativeContext} (h : IsContext name before r c) (depth : Nat)
    (hset : call.isSet = true) {key : NativeText} {value : Option Value}
    (hs : call.sets? = key.bind fun key => value.map fun value => (key, value)) :
    (setAttribute (some c) r key value).context = some c ∧
      (setAttribute (some c) r key value).registry.find? = r.find? ∧
      Does name depth before call r (setAttribute (some c) r key value).registry
        (setAttribute (some c) r key value).code := by
  have hrefuse (hnone : call.sets? = none ∨ registered name before = []) :
      Does name depth before call r r refused := .refuse hset hnone
  unfold setAttribute
  rw [Option.bind_some, h.registered_eq]
  cases hlast : (registered name before).getLast? with
  | none => exact ⟨rfl, rfl, hrefuse (.inr (List.getLast?_eq_none_iff.1 hlast))⟩
  | some other =>
    obtain ⟨id, hid⟩ := Option.isSome_iff_exists.1
      (h.find?_isSome other (List.mem_of_getLast? hlast))
    rw [Option.bind_some, hid]
    cases key with
    | none => exact ⟨rfl, rfl, hrefuse (.inl hs)⟩
    | some key =>
      cases value with
      | none => exact ⟨rfl, rfl, hrefuse (.inl hs)⟩
      | some value => exact ⟨rfl, rfl, .set hs hlast hid⟩

/-- A call does what is said of it, and the context is that of the calls up to it. -/
lemma does_perform {c : NativeContext} (h : IsContext name before r c) (depth : Nat)
    (call : HostCall) :
    ∃ c', (call.perform (some c) r (some depth)).context = some c' ∧
      IsContext name (before ++ [call]) (call.perform (some c) r (some depth)).registry c' ∧
      Does name depth before call r (call.perform (some c) r (some depth)).registry
        (call.perform (some c) r (some depth)).code := by
  cases call with
  | register requested =>
    cases requested with
    | none => exact ⟨c, rfl, h.concat rfl rfl, .reject⟩
    | some requested =>
      have hname : registers? name (.register (some requested)) = some (c.qualify requested) := by
        rw [registers?, NativeContext.qualify, h.name_eq]
      rw [perform, Registry.getOrCreate]
      cases hr : r.find? (c.qualify requested) with
      | none =>
        have hnew : (r.insertNew (c.qualify requested)).find? (c.qualify requested) =
            some r.nextId := by
          rw [Registry.find?_insertNew, if_pos rfl]
        refine ⟨_, rfl, h.concat_register hname hnew fun m hm => ?_, .create hname hr⟩
        rw [Registry.find?_insertNew]
        split
        · rfl
        · exact hm
      | some id => exact ⟨_, rfl, h.concat_register hname hr fun _ hm => hm, .keep hname hr⟩
  -- Texts and integers are set in the same way, once there is a value.
  | setText key value =>
    have hs : sets? (.setText key value) =
        key.bind fun key => (value.map Value.str).map fun v => (key, v) := by
      cases key <;> cases value <;> rfl
    obtain ⟨hcontext, hfind, hdoes⟩ := does_setAttribute h depth rfl hs
    exact ⟨c, hcontext, h.concat rfl hfind, hdoes⟩
  | setInt key value =>
    have hs : sets? (.setInt key value) =
        key.bind fun key => (some (Value.int value)).map fun v => (key, v) := by
      cases key <;> rfl
    obtain ⟨hcontext, hfind, hdoes⟩ := does_setAttribute h depth rfl hs
    exact ⟨c, hcontext, h.concat rfl hfind, hdoes⟩
  | depth =>
    have hperform : perform (some c) r (some depth) .depth =
        ⟨some c, r, min depth 0x7fffffff⟩ := by
      unfold perform
      rw [Option.bind_some, h.gate_eq]
    rw [hperform]
    exact ⟨c, rfl, h.concat rfl rfl, .depth⟩

/-- Calls do, one after the other, what is said of each. -/
theorem run_performAll {c : NativeContext} (h : IsContext name before r c) (depth : Nat)
    (calls : List HostCall) :
    Run name depth before calls r (performAll (some c) r (some depth) calls).2.1
      (performAll (some c) r (some depth) calls).2.2 := by
  induction calls generalizing before r c with
  | nil => exact .nil
  | cons call calls ih =>
    obtain ⟨c', hc', hcontext, hdoes⟩ := does_perform h depth call
    rw [performAll, hc']
    exact .cons hdoes (ih hcontext)

/-! ## What calls leave -/

/-- After a call those names are registered that were, with the same units, and the one that the
call registers. -/
lemma Does.find? (h : Does name depth before call r r' code) (other : String) :
    ((r'.find? other).isSome = true ↔
        (r.find? other).isSome = true ∨ call.registers? name = some other) ∧
      ∀ id, r.find? other = some id → r'.find? other = some id := by
  cases h with
  | @create _ _ m hn hfree =>
    rw [Registry.find?_insertNew, hn, Option.some.injEq]
    by_cases he : m = other
    · subst he
      simp [hfree]
    · simp [he]
  | @keep _ _ m id hn hr =>
    refine ⟨⟨.inl, ?_⟩, fun _ hid => hid⟩
    rintro (hid | hother)
    · exact hid
    · obtain rfl := Option.some.inj (hn.symm.trans hother)
      rw [hr, Option.isSome_some]
  | reject | depth => exact ⟨by simp [registers?], fun _ hid => hid⟩
  | @set call r key v m id hs _ _ =>
    have hnone : call.registers? name = none := by
      cases call <;> simp [sets?, registers?] at hs ⊢
    exact ⟨by simp [hnone], fun _ hid => hid⟩
  | refuse hcall _ =>
    have hnone : call.registers? name = none := by
      cases call <;> simp [isSet, registers?] at hcall ⊢
    exact ⟨by simp [hnone], fun _ hid => hid⟩

/-- After calls those names are registered that were, with the same units, and all that the calls
register. -/
theorem Run.find? (h : Run name depth before calls r r' codes) (other : String) :
    ((r'.find? other).isSome = true ↔
        (r.find? other).isSome = true ∨ other ∈ registered name calls) ∧
      ∀ id, r.find? other = some id → r'.find? other = some id := by
  induction h with
  | nil => exact ⟨by simp [registered], fun _ hid => hid⟩
  | @cons before calls call r r' r'' code codes h hs ih =>
    obtain ⟨hiff, hkeep⟩ := Does.find? h other
    have hnames : other ∈ registered name (call :: calls) ↔
        call.registers? name = some other ∨ other ∈ registered name calls := by
      rw [registered, List.filterMap_cons]
      cases call.registers? name <;> simp [registered, eq_comm]
    refine ⟨?_, fun id hid => ih.2 id (hkeep id hid)⟩
    rw [ih.1, hiff, hnames, or_assoc]

/-- Units are as they were before calls that do not register them. -/
theorem Run.unit_eq (h : Run name depth before calls r r' codes) {id : UnitId}
    (hid : id < r.nextId) (hnot : ∀ other ∈ registered name (before ++ calls),
      r'.find? other ≠ some id) : r'.unit id = r.unit id := by
  induction h with
  | nil => rfl
  | @cons before calls call r r' r'' code codes h hs ih =>
    rw [List.append_assoc, List.singleton_append] at ih
    cases h with
    | create _ _ =>
      have hlt := Nat.lt_succ_of_lt hid
      rw [ih (by rwa [Registry.nextId_insertNew]) hnot, Registry.unit_insertNew_of_lt hid]
    | @set _ _ key v other target _ hlast hr =>
      have hne : target ≠ id := by
        rintro rfl
        refine hnot other ?_ ((hs.find? other).2 _ hr)
        rw [registered, List.filterMap_append]
        exact List.mem_append_left _ (List.mem_of_getLast? hlast)
      rw [ih (by rw [Registry.nextId_modify]; exact hid) hnot, Registry.unit_modify_of_ne hne]
    | _ => exact ih hid hnot

/-- Whatever unit is registered under a name, it has nothing but the name, apart from attributes. -/
def IsBareUnder (other : String) (r : Registry) : Prop :=
  ∀ id, r.find? other = some id → id < r.nextId ∧ (r.unit id).bare = (LoadedUnit.ofName other).bare

/-- A call leaves a unit without metadata that has none. -/
lemma Does.isBareUnder (h : Does name depth before call r r' code) {other : String}
    (hbare : IsBareUnder other r) : IsBareUnder other r' := by
  cases h with
  | @create _ _ m hn hfree =>
    intro id hid
    rw [Registry.nextId_insertNew, Registry.unit_insertNew]
    rcases Registry.find?_insertNew_cases hid with ⟨rfl, rfl⟩ | hr
    · exact ⟨Nat.lt_succ_self _, by rw [if_pos rfl]⟩
    · obtain ⟨hlt, hunit⟩ := hbare id hr
      exact ⟨Nat.lt_succ_of_lt hlt, by rw [if_neg (Nat.ne_of_lt hlt), hunit]⟩
  | set _ _ _ =>
    intro id hid
    obtain ⟨hlt, hunit⟩ := hbare id hid
    refine ⟨by rwa [Registry.nextId_modify], ?_⟩
    rw [Registry.unit_modify]
    split
    · rw [LoadedUnit.bare_setAttribute, hunit]
    · exact hunit
  | _ => exact hbare

/-- A unit that calls create has nothing but its name and the attributes that they set. -/
theorem Run.bare_of_new (h : Run name depth before calls r r' codes) {other : String} {id : UnitId}
    (hfree : r.find? other = none) (hid : r'.find? other = some id) :
    id < r'.nextId ∧ (r'.unit id).bare = (LoadedUnit.ofName other).bare := by
  have hbare : IsBareUnder other r := by simp [IsBareUnder, hfree]
  clear hfree
  induction h with
  | nil => exact hbare id hid
  | cons h hs ih => exact ih hid (h.isBareUnder hbare)

end UnitLoader.HostCall
