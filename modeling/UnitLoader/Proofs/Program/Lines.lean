import UnitLoader.Program.Parser
import UnitLoader.Proofs.Text.Trim

/-!
# Programs line by line

A text is read line by line, so that a text after another one is read as it is by itself. Only the
numbers of its lines change. The error of a text is that of the first line that is neither a
statement nor skipped, with the number of that line.

## Main definitions

* `UnitLoader.Text.lines` — the lines of a text, with line ends of either kind.
* `UnitLoader.lineFault?` — what is wrong with a line.
* `UnitLoader.ParseError.IsFirst` — the first error of lines.

## Main results

* `UnitLoader.Program.parse_eq_parseLines` — a text is read by its lines.
* `UnitLoader.Program.parse_append_newline` — two texts with a line feed between them are read one
  after the other, and the error of a text is the first of its lines.
-/

set_option relaxedAutoImplicit false
set_option autoImplicit false

namespace UnitLoader

open Text

/-! ## Lines -/

namespace Text

variable {sep : Char} {line text : List Char}

/-- A line without a carriage return at its end. -/
def dropReturn (line : List Char) : List Char :=
  if line.getLast? = some '\r' then line.dropLast else line

/-- The lines of a text. A line ends in a line feed, which may have a carriage return before it.
What comes after the last line feed is a line too, unless it is empty. -/
def lines (text : List Char) : List (List Char) :=
  let ps := pieces '\n' text
  ps.dropLast.map dropReturn ++ (ps.getLast?.filter (· ≠ [])).toList

/-- A line that ends in a line feed comes before the lines of the rest. -/
lemma lines_append (h : '\n' ∉ line) (text : List Char) :
    lines (line ++ '\n' :: text) = dropReturn line :: lines text := by
  have hpieces : pieces '\n' (line ++ '\n' :: text) = line :: pieces '\n' text := by
    rw [pieces_append_sep, pieces_eq_singleton h, List.singleton_append]
  have hne : pieces '\n' text ≠ [] := pieces_ne_nil text
  simp only [lines, hpieces, List.dropLast_cons_of_ne_nil hne, List.getLast?_cons_of_ne_nil hne,
    List.map_cons, List.cons_append]

/-- So does one that ends in a carriage return and a line feed. -/
lemma lines_append_return (h : '\n' ∉ line) (text : List Char) :
    lines (line ++ '\r' :: '\n' :: text) = line :: lines text := by
  have hline : '\n' ∉ line ++ ['\r'] := by simpa using h
  have hlines := lines_append hline text
  simpa [dropReturn] using hlines

example : lines "a\r\n\nb\r".toList = ["a".toList, [], "b\r".toList] := by decide

/-- A carriage return is a blank. -/
lemma trim_dropReturn (line : List Char) : trim (dropReturn line) = trim line := by
  unfold dropReturn
  split
  · next hreturn =>
    obtain ⟨before, rfl⟩ := List.getLast?_eq_some_iff.1 hreturn
    rw [List.dropLast_concat, trim_concat (by decide)]
  · rfl

/-- There is one piece more than there are separators. -/
lemma length_pieces (text : List Char) : (pieces sep text).length = text.count sep + 1 := by
  induction text with
  | nil => rfl
  | cons c text ih =>
    by_cases hc : c = sep
    · subst hc
      rw [pieces_cons_sep, List.length_cons, ih, List.count_cons_self]
    · rw [pieces_cons_of_pieces hc rfl, List.count_cons_of_ne hc, ← ih]
      rfl

end Text

/-! ## Reading lines -/

variable {number : Nat} {e : ParseError} {line : List Char} {ls : List (List Char)}

/-- What is wrong with a line, if anything is. -/
def lineFault? (line : List Char) : Option ParseFault :=
  if isSkipped (trim line) then none
  else match parseStatement (trim line) with
    | .error fault => some fault
    | .ok _ => none

/-- The error of the first of the lines that is neither a statement nor skipped. -/
def ParseError.IsFirst (e : ParseError) (ls : List (List Char)) : Prop :=
  ∃ before line after, ls = before ++ line :: after ∧ (∀ l ∈ before, lineFault? l = none) ∧
    lineFault? line = some e.fault ∧ e.line = before.length + 1

/-- An error so many lines later. -/
def ParseError.later (e : ParseError) (count : Nat) : ParseError :=
  { e with line := e.line + count }

/-- Lines are parsed in two parts as in one, with the second part numbered on from the first. -/
lemma parseLines_append (number : Nat) (xs ys : List (List Char)) :
    parseLines number (xs ++ ys) =
      parseLines number xs >>= fun ss => (parseLines (number + xs.length) ys).map (ss ++ ·) := by
  induction xs generalizing number with
  | nil =>
    rw [List.nil_append, parseLines, List.length_nil, Nat.add_zero]
    cases parseLines number ys <;> rfl
  | cons line xs ih =>
    have hlength : number + 1 + xs.length = number + (line :: xs).length := by
      rw [List.length_cons]
      omega
    rw [List.cons_append, parseLines, parseLines, ih, hlength]
    split
    · rfl
    · cases parseStatement (trim line) with
      | error fault => rfl
      | ok s =>
        dsimp only
        cases parseLines (number + 1) xs with
        | error e => rfl
        | ok ss => cases parseLines (number + (line :: xs).length) ys <;> rfl

/-- Further down in a text lines are read alike, and their errors have larger numbers. -/
lemma parseLines_add (number count : Nat) (ls : List (List Char)) :
    parseLines (number + count) ls = (parseLines number ls).mapError (·.later count) := by
  induction ls generalizing number with
  | nil => rfl
  | cons line ls ih =>
    rw [parseLines, parseLines, Nat.add_right_comm, ih]
    split
    · rfl
    · cases parseStatement (trim line) with
      | error fault => rfl
      | ok s => cases parseLines (number + 1) ls <;> rfl

/-- Blanks around lines do not matter. -/
lemma parseLines_map {f : List Char → List Char} (hf : ∀ line, trim (f line) = trim line)
    (number : Nat) (ls : List (List Char)) :
    parseLines number (ls.map f) = parseLines number ls := by
  induction ls generalizing number with
  | nil => rfl
  | cons line ls ih => rw [List.map_cons, parseLines, parseLines, hf, ih]

/-- A text is read by its lines. -/
theorem Program.parse_eq_parseLines (text : List Char) :
    Program.parse text = (parseLines 1 (lines text)).map Program.mk := by
  have hlast (number : Nat) (p : List Char) :
      parseLines number [p] = parseLines number ((some p).filter (· ≠ [])).toList := by
    by_cases hp : p = []
    · subst hp
      rfl
    · rw [Option.filter_some, if_pos (by simpa using hp), Option.toList_some]
  have hne : pieces '\n' text ≠ [] := pieces_ne_nil text
  have hpieces := List.dropLast_append_getLast hne
  rw [Program.parse, lines, List.getLast?_eq_some_getLast hne, parseLines_append,
    parseLines_map trim_dropReturn, List.length_map, ← hlast, ← parseLines_append, hpieces]

/-! ## The first error -/

/-- A line with a fault ends the parse with that fault and its number. -/
lemma parseLines_cons_of_lineFault?_eq_some {fault : ParseFault}
    (h : lineFault? line = some fault) :
    parseLines number (line :: ls) = .error ⟨number, fault⟩ := by
  rw [lineFault?] at h
  rw [parseLines]
  split at h
  · cases h
  · next hskipped =>
    rw [if_neg hskipped]
    cases hs : parseStatement (trim line) with
    | error fault' =>
      rw [hs] at h
      obtain rfl := Option.some.inj h
      rfl
    | ok s =>
      rw [hs] at h
      cases h

/-- After a line with which nothing is wrong, the error is that of the lines after it. -/
lemma parseLines_cons_of_lineFault?_eq_none (h : lineFault? line = none) :
    parseLines number (line :: ls) = .error e ↔ parseLines (number + 1) ls = .error e := by
  rw [lineFault?] at h
  rw [parseLines]
  split at h
  · next hskipped => rw [if_pos hskipped]
  · next hskipped =>
    rw [if_neg hskipped]
    cases hs : parseStatement (trim line) with
    | error fault =>
      rw [hs] at h
      cases h
    | ok s => cases parseLines (number + 1) ls <;> simp [Except.map]

/-- The error of lines is that of the first with which something is wrong. -/
lemma parseLines_eq_error_iff :
    parseLines number ls = .error e ↔
      ∃ before line after, ls = before ++ line :: after ∧ (∀ l ∈ before, lineFault? l = none) ∧
        lineFault? line = some e.fault ∧ e.line = number + before.length := by
  induction ls generalizing number with
  | nil => simp [parseLines]
  | cons line ls ih =>
    -- A faulty line is the first one, and a line without a fault moves the number on by one.
    cases hline : lineFault? line with
    | some fault =>
      rw [parseLines_cons_of_lineFault?_eq_some hline]
      constructor
      · intro he
        obtain rfl := Except.error.inj he
        exact ⟨[], line, ls, rfl, nofun, hline, rfl⟩
      · rintro ⟨before, line', after, hsplit, hbefore, hfault, hnumber⟩
        cases before with
        | nil =>
          obtain ⟨rfl, rfl⟩ := List.cons.inj hsplit
          obtain rfl := Option.some.inj (hline.symm.trans hfault)
          obtain rfl : e.line = number := hnumber
          rfl
        | cons l before =>
          obtain ⟨rfl, -⟩ := List.cons.inj hsplit
          exact absurd (hbefore line (List.mem_cons_self ..)) (by simp [hline])
    | none =>
      rw [parseLines_cons_of_lineFault?_eq_none hline, ih]
      constructor
      · rintro ⟨before, line', after, rfl, hbefore, hfault, hnumber⟩
        refine ⟨line :: before, line', after, rfl, List.forall_mem_cons.2 ⟨hline, hbefore⟩, hfault,
          ?_⟩
        rw [hnumber, List.length_cons]
        omega
      · rintro ⟨before, line', after, hsplit, hbefore, hfault, hnumber⟩
        cases before with
        | nil =>
          obtain ⟨rfl, -⟩ := List.cons.inj hsplit
          exact absurd hline (by simp [hfault])
        | cons l before =>
          obtain ⟨rfl, rfl⟩ := List.cons.inj hsplit
          refine ⟨before, line', after, rfl, (List.forall_mem_cons.1 hbefore).2, hfault, ?_⟩
          rw [hnumber, List.length_cons]
          omega

/-- **Two texts with a line feed between them are read one after the other.** If something is wrong
with the first, that is the error; else it is what is wrong with the second, further down by the
lines of the first. If nothing is wrong with either, the statements of the second come after those
of the first. So the error of a text is that of the first of its lines that is neither a statement
nor skipped, however the lines end, and lines are counted from 1.

**Proof sketch.** A line feed separates the lines of the first text from those of the second, which
are numbered on. A line feed at the end of a text ends its last line and begins an empty one, which
is skipped. -/
theorem Program.parse_append_newline (a b : List Char) :
    (Program.parse (a ++ '\n' :: b) =
      match Program.parse a, Program.parse b with
      | .error e, _ => .error e
      | .ok _, .error e => .error { e with line := e.line + (a.count '\n' + 1) }
      | .ok p, .ok q => .ok ⟨p.statements ++ q.statements⟩) ∧
    ∀ e, Program.parse a = .error e ↔ e.IsFirst (lines a) := by
  constructor
  · rw [Program.parse, pieces_append_sep, parseLines_append, parseLines_add, length_pieces,
      Program.parse, Program.parse]
    cases parseLines 1 (pieces '\n' a) with
    | error e => rfl
    | ok ss => cases parseLines 1 (pieces '\n' b) <;> rfl
  · intro e
    rw [Program.parse_eq_parseLines, ParseError.IsFirst]
    have hfirst := @parseLines_eq_error_iff 1 e (lines a)
    simp only [Nat.add_comm 1] at hfirst
    rw [← hfirst]
    cases parseLines 1 (lines a) <;> simp [Except.map]

end UnitLoader
