import UnitLoader.Proofs.Loader.Follows

/-!
# Programs as sequences of steps

A program that runs asks for units and sets attributes, in the order of its statements. All that it
asks for is written in it or in an attribute that it reads.

## Main definitions

* `UnitLoader.Answers` — importers that give a running program the units that it asks for.
* `UnitLoader.Answered` — what holds when a unit was asked for.
* `UnitLoader.Supplies` — importers whose imports inside of frames are sequences of steps.

## Main results

* `UnitLoader.Answers.recorded` — importers answer if their imports are sequences of steps.
* `UnitLoader.run_follows` — a program is a sequence of steps if its importer answers.
-/

set_option relaxedAutoImplicit false
set_option autoImplicit false

namespace UnitLoader

open LoadM (exec)

variable {a : Ambient} {n : Nat} {s : List Frame} {unit : String} {id : UnitId} {p : Program}
  {l : Loader} {i j : Importer}

/-- The importers give the program that runs innermost the units that it asks for, and the second
importer does as the first. -/
def Answers (a : Ambient) (n : Nat) (s : List Frame) (p : Program) (i j : Importer) : Prop :=
  ∀ l name, Orderly l s → p.Asks l name →
    Follows a n s l (i name) (j name) fun _ _ => True

/-- The unit that was asked for inside of frames is registered. Its program is not running if it was
not to be had, unless its name is not importable. -/
def Answered (s : List Frame) (name : String) : Outcome UnitId → Loader → Prop
  | .ok id, l => l.registry.find? name = some id
  | .error _, _ => UnitName.isImportable name → name ∉ Frame.runningNames s

/-- The importers give the units that they are asked for inside of the frames, and the second
importer does as the first. -/
def Supplies (a : Ambient) (n : Nat) (s : List Frame) (i j : Importer) : Prop :=
  ∀ l name, Orderly l (.asking name :: s) →
    Follows a n (.asking name :: s) l (i name) (j name) (Answered s name)

/-- The attribute of a unit, or what is done if there is none. -/
lemma Follows.attribute {key : String} {x y : LoadM Value} {Q : Outcome Value → Loader → Prop}
    (hv : ∀ v, (l.registry.unit id).attribute? key = some v → Q (.ok v) l)
    (hm : Follows a n s l x y Q) :
    Follows a n s l (LoadM.attribute id key x) (LoadM.attribute id key y) Q := by
  have hx := LoadM.exec_attribute l id key x
  have hy := LoadM.exec_attribute l id key y
  cases hk : (l.registry.unit id).attribute? key with
  | none =>
    rw [hk] at hx hy
    exact hm.congr hx hy
  | some v =>
    rw [hk] at hx hy
    exact (Follows.pure (hv v hk)).congr hx hy

/-- A computation whose value is not used goes on step by step. -/
lemma Follows.discard {α : Type} {x y : LoadM α} {Q : Outcome α → Loader → Prop}
    (h : Follows a n s l x y Q) :
    Follows a n s l (discard x) (discard y) fun _ _ => True := by
  have hb := h.bind (f := fun _ => Pure.pure ()) (g := fun _ => Pure.pure ())
    (R := fun _ _ => True) (fun _ _ _ _ => .pure trivial) fun _ _ _ => trivial
  exact hb.congr (LoadM.exec_discard l x) (LoadM.exec_discard l y)

/-- A value that a unit has as an attribute is followed along attributes of units. -/
lemma follow_follows (hi : Answers a n s p i j) {missing : LoadM Value}
    (hm : ∀ l, ∃ e, exec missing l = (.error e, l)) {segments : List (List Char)} {v : Value}
    (ho : Orderly l s)
    (hv : ∃ u key, (l.registry.unit u).attribute? key = some v) :
    Follows a n s l (v.follow i missing segments) (v.follow j missing segments)
      (Gives fun v l => p.Computes l v) := by
  have hmiss : ∀ l, Follows a n s l missing missing (Gives fun v l => p.Computes l v) := by
    intro l
    obtain ⟨e, he⟩ := hm l
    exact .of_exec he gives_error
  induction segments generalizing l v with
  | nil =>
    obtain ⟨u, key, hkey⟩ := hv
    rw [Value.follow, Value.follow]
    exact .pure (gives_ok.2 (.read hkey))
  | cons segment segments ih =>
    cases v with
    | unit target =>
      obtain ⟨u, key, hkey⟩ := hv
      rw [Value.follow, Value.follow]
      refine .bind (hi l target ho (.reference hkey)) (fun id l' hs _ => ?_)
        fun _ _ _ => gives_error
      refine .bind (Q := Gives fun v l' => ∃ u key, (l'.registry.unit u).attribute? key = some v)
        (.attribute (fun v hk => gives_ok.2 ⟨id, _, hk⟩) ?_) (fun v l'' hs' hv => ?_)
        fun _ _ _ => gives_error
      · obtain ⟨e, he⟩ := hm l'
        exact .of_exec he gives_error
      · exact ih (hs'.orderly (hs.orderly ho)) (gives_ok.1 hv)
    | _ => exact hmiss l

/-- The value of an expression is a literal of it or an attribute. -/
lemma evaluate_follows (hi : Answers a n s p i j) (ho : Orderly l s) {target : String} {e : Expr}
    (he : .assign target e ∈ p.statements) :
    Follows a n s l (e.evaluate i id) (e.evaluate j id) (Gives fun v l => p.Computes l v) := by
  cases e with
  | literal v => exact .pure (gives_ok.2 (.literal he))
  | name m =>
    have hm : ∀ l, ∃ e, exec (LoadM.fail id (.undefined m) : LoadM Value) l = (.error e, l) :=
      fun l => ⟨_, LoadM.exec_fail l id _⟩
    simp only [Expr.evaluate]
    cases UnitName.segments m with
    | nil => exact .of_exec (LoadM.exec_fail l id _) gives_error
    | cons first rest =>
      refine .bind (Q := Gives fun v l' => ∃ u key, (l'.registry.unit u).attribute? key = some v)
        (.attribute (fun v hk => gives_ok.2 ⟨id, _, hk⟩) ?_) (fun v l' hs hv => ?_)
        fun _ _ _ => gives_error
      · exact .of_exec (LoadM.exec_fail l id _) gives_error
      · exact follow_follows hi hm (hs.orderly ho) (gives_ok.1 hv)

/-- What a selective import binds is an attribute or a child that it mentions. -/
lemma importedValue_follows (hi : Answers a n s p i j) (ho : Orderly l s) {source : UnitId}
    {module key : String} {names : List String} (h : .fromImport module names ∈ p.statements)
    (hk : key ∈ names) :
    Follows a n s l (importedValue i id source module key) (importedValue j id source module key)
      (Gives fun v l => p.Computes l v) := by
  refine .attribute (fun v hv => gives_ok.2 (.read hv)) ?_
  refine .tryCatch (Q := Gives fun v l => p.Computes l v) ?_ (fun _ _ h => h) fun e l' _ => ?_
  · have hask := hi l _ ho (.child h hk)
    exact .bind hask.discard (fun _ _ _ _ => .pure (gives_ok.2 (.child h hk)))
      fun _ _ _ => gives_error
  · cases hn : e.isNotFound
    · exact ⟨e, by simp, gives_error⟩
    · refine ⟨.executionFailed (l'.registry.unit id).name (.cannotImport key module), ?_,
        gives_error⟩
      rfl

/-- A running program sets an attribute. -/
lemma assign_follows {key : String} {v : Value} (h : p.Computes l v) :
    Follows a n (.running unit id p :: s) l (LoadM.assign id key v) (LoadM.assign id key v)
      fun _ _ => True :=
  .same (LoadM.exec_assign l id key v) (.single (.assign h)) trivial fun _ _ => rfl

/-- A statement is a sequence of steps. -/
lemma statement_follows (hi : Answers a n (.running unit id p :: s) p i j)
    (ho : Orderly l (.running unit id p :: s)) {st : Statement} (hst : st ∈ p.statements) :
    Follows a n (.running unit id p :: s) l (st.run i id) (st.run j id) fun _ _ => True := by
  cases st with
  | assign target e =>
    exact .bind (evaluate_follows hi ho hst) (fun v l' _ hv => assign_follows (gives_ok.1 hv))
      fun _ _ _ => trivial
  | importUnit module newName =>
    refine .bind (hi l module ho (.imported hst)).discard (fun _ l' _ _ => ?_) fun _ _ _ => trivial
    cases newName with
    | none => exact assign_follows (.outermost hst)
    | some newName => exact assign_follows (.imported hst)
  | fromImport module names =>
    refine .bind (hi l module ho (.source hst)) (fun source l' hs _ => ?_) fun _ _ _ => trivial
    refine .forM (hs.orderly ho) fun key hk l'' ho' => ?_
    exact .bind (importedValue_follows hi ho' hst hk)
      (fun v _ _ hv => assign_follows (gives_ok.1 hv)) fun _ _ _ => trivial
  | raise message => exact .of_exec (LoadM.exec_fail l id _) trivial

/-- Importers answer if their imports are sequences of steps. -/
lemma Answers.recorded (h : Supplies a n (.running unit id p :: s) i j) :
    Answers a n (.running unit id p :: s) p i.recorded j.recorded := by
  intro l name ho hask
  refine .nest (.single (.ask hask)) rfl (h _ name (ho.congr fun _ => rfl)) ?_ ?_ ?_
    (g := fun r => r) (k := fun r l' => match r with
      | .ok id => l'.note (.given name id)
      | .error _ => l')
  · intro r l' _ hr
    cases r with
    | ok id => exact ⟨.give hr, trivial, fun _ _ => ⟨⟨id, rfl⟩, rfl⟩⟩
    | error e => exact ⟨.deny hr, trivial, by simp⟩
  all_goals
    rw [Importer.recorded, LoadM.exec_bind, LoadM.exec_note]
    simp only [LoadM.exec_bind]
    split <;> simp_all

/-- A program is a sequence of steps if its importer answers. -/
theorem run_follows (ho : Orderly l (.running unit id p :: s))
    (h : Supplies a n (.running unit id p :: s) i j) :
    Follows a n (.running unit id p :: s) l (p.run i id) (p.run j id) fun _ _ => True :=
  .forM ho fun _ hst _ ho' => statement_follows (.recorded h) ho' hst

end UnitLoader
