import ScadAdvisor.Proofs.Lines

/-! # Lines and columns of offsets

Every offset of a text stands on one of its lines, so many characters behind the start of the line.
The index says which line that is and how far the offset is behind its start.
-/

namespace ScadAdvisor

namespace Text

/-! ## Offsets on lines -/

@[simp] theorem length_splitOn (sep : Char) (text : Text) : (splitOn sep text).length = text.count sep + 1 := by
  induction text with
  | nil => rfl
  | cons c cs ih =>
    by_cases hc : c = sep
    · rw [hc, splitOn_cons_self, List.length_cons, ih, List.count_cons_self]
    · obtain ⟨piece, rest, h⟩ := List.exists_cons_of_ne_nil (splitOn_ne_nil sep cs)
      rw [h, List.length_cons] at ih
      rw [splitOn_cons_of_ne sep c cs piece rest hc h, List.length_cons, ih,
        List.count_cons_of_ne hc]

theorem exists_line_of_le_join (lines : List Text) (hne : lines ≠ []) (offset : Nat)
    (h : offset ≤ (join ['\n'] lines).length) :
    ∃ i line k, lines[i]? = some line ∧ k ≤ line.length ∧ offset = (ended (lines.take i)).length + k := by
  induction lines generalizing offset with
  | nil => exact absurd rfl hne
  | cons line rest ih =>
    rcases Nat.lt_or_ge line.length offset with hlt | hle
    · -- The offset lies behind the newline of the first line, so there is a second one.
      have hrest : rest ≠ [] := by
        rintro rfl
        exact absurd h (Nat.not_le.mpr hlt)
      rw [join_cons_of_ne_nil _ _ _ hrest] at h
      simp only [List.length_append, List.length_singleton] at h
      obtain ⟨i, piece, k, hpiece, hk, hoffset⟩ := ih hrest (offset - (line.length + 1)) (by omega)
      refine ⟨i + 1, piece, k, hpiece, hk, ?_⟩
      rw [List.take_succ_cons, length_ended_cons]
      omega
    · exact ⟨0, line, offset, rfl, hle, by simp [ended]⟩

theorem exists_line_of_le (text : Text) (offset : Nat) (h : offset ≤ text.length) :
    ∃ i line k, text.lines[i]? = some line ∧ k ≤ line.length ∧ offset = text.startOfLine i + k := by
  rw [← join_lines text] at h
  exact exists_line_of_le_join text.lines (splitOn_ne_nil '\n' text) offset h

end Text

namespace LineIndex

@[simp] theorem length_startsFrom (pos : Nat) (text : Text) : (startsFrom pos text).length = text.count '\n' := by
  induction text generalizing pos with
  | nil => rfl
  | cons c cs ih =>
    rw [startsFrom, List.count_cons]
    split
    · rw [List.length_cons, ih]
    · rw [ih, Nat.add_zero]

@[simp] theorem lineCount_ofText (text : Text) : (ofText text).lineCount = text.lines.length := by
  rw [lineCount, ofText, List.length_cons, length_startsFrom, Text.lines, Text.length_splitOn]

/-! ## Positions -/

theorem positionOf_line (text : Text) (i : Nat) (line : Text) (h : text.lines[i]? = some line) (k : Nat)
    (hk : k ≤ line.length) :
    (ofText text).positionOf (text.startOfLine i + k : Nat) = ⟨i + 1, k + 1⟩ := by
  have hline := lineOf_line text i line h k hk
  have hstart := lineStart?_line text i line h
  simp only [positionOf, hline, hstart, Option.getD_some, Position.mk.injEq, true_and]
  omega

/-- What a line and a column say of the offset that stands there. -/
structure Locates (text : Text) (offset : Nat) (p : Position) : Prop where
  newlines : p.line = 1 + (text.take offset).count '\n'
  line : 1 ≤ p.line ∧ p.line ≤ (ofText text).lineCount
  column : 1 ≤ p.column
  start : ∃ start, (ofText text).lineStart? p.line = some start ∧ start + p.column - 1 = offset
  before : '\n' ∉ Text.slice text (offset - p.column + 1).toNat offset ∧
    ∃ piece, text.lines[p.line - 1]? = some piece ∧
      Text.slice text (offset - p.column + 1).toNat offset = piece.take (p.column - 1).toNat

theorem locates_positionOf (text : Text) (offset : Nat) (h : offset ≤ text.length) :
    Locates text offset ((ofText text).positionOf offset) := by
  obtain ⟨i, line, k, hline, hk, rfl⟩ := text.exists_line_of_le offset h
  have hlt : i < text.lines.length := (List.getElem?_eq_some_iff.mp hline).1
  have hcount := lineOf_line text i line hline k hk
  have hslice := text.slice_line i line hline 0 k hk
  rw [lineOf_ofText] at hcount
  rw [Nat.add_zero, Text.slice, Text.slice, List.drop_zero, Nat.sub_zero] at hslice
  have hstart : ((text.startOfLine i + k : Nat) - (k + 1 : Int) + 1).toNat = text.startOfLine i := by
    omega
  have hcolumn : ((k : Int) + 1 - 1).toNat = k := by omega
  rw [positionOf_line text i line hline k hk]
  refine ⟨by simp only; omega, ?_, by simp only; omega, ?_, ?_⟩
  · rw [lineCount_ofText]
    simp only
    omega
  · exact ⟨_, lineStart?_line text i line hline, by simp only; omega⟩
  · simp only [hstart, hcolumn, Nat.add_sub_cancel]
    refine ⟨?_, line, hline, hslice⟩
    rw [Text.slice, hslice]
    exact fun hmem => text.newline_not_mem_line i line hline (List.mem_of_mem_take hmem)

end LineIndex

def Position.Before (p q : Position) : Prop :=
  p.line < q.line ∨ p.line = q.line ∧ p.column < q.column

namespace LineIndex

theorem positionOf_before (text : Text) (offset later : Nat) (hlt : offset < later)
    (h : later ≤ text.length) :
    ((ofText text).positionOf offset).Before ((ofText text).positionOf later) := by
  have hfirst := locates_positionOf text offset (by omega)
  have hsecond := locates_positionOf text later h
  obtain ⟨start, hstart, hoffset⟩ := hfirst.start
  obtain ⟨start', hstart', hlater⟩ := hsecond.start
  have hcount : (text.take offset).count '\n' ≤ (text.take later).count '\n' :=
    (List.take_sublist_take_left (by omega)).count_le _
  have hlines := hfirst.newlines
  have hlines' := hsecond.newlines
  rcases Nat.lt_or_eq_of_le hcount with hfewer | hsame
  · left
    omega
  · -- Both stand on one line and are measured from its start.
    have hline : ((ofText text).positionOf offset).line = ((ofText text).positionOf later).line := by
      omega
    rw [hline, hstart', Option.some.injEq] at hstart
    right
    exact ⟨hline, by omega⟩

/-- The starts of the lines up to that of an offset lie at or before it, and the others behind it. So
the line is found by looking for the place of the offset in the table of starts. -/
theorem start_le_iff (text : Text) (offset : Nat) (h : offset ≤ text.length) (i start : Nat)
    (hstart : (ofText text).starts[i]? = some start) :
    start ≤ offset ↔ i < ((ofText text).positionOf offset).line := by
  have hi : i < text.lines.length := by
    rw [← lineCount_ofText]
    exact (List.getElem?_eq_some_iff.mp hstart).1
  have hline := List.getElem?_eq_getElem hi
  rw [starts_ofText text i hi, Option.some.injEq] at hstart
  have hposition := positionOf_line text i _ hline 0 (Nat.zero_le _)
  rw [Nat.add_zero, hstart] at hposition
  constructor
  · intro hle
    rcases Nat.lt_or_eq_of_le hle with hlt | rfl
    · have hbefore := positionOf_before text start offset hlt h
      rw [hposition] at hbefore
      rcases hbefore with hbefore | hbefore <;> simp only at hbefore <;> omega
    · rw [hposition]
      exact Nat.lt_succ_self i
  · intro hlt
    by_contra hgt
    have hlength : start ≤ text.length := by
      obtain ⟨after, hafter⟩ := text.split_at_line i _ hline
      have hlen := congrArg List.length hafter
      rw [List.length_append] at hlen
      rw [← hstart, Text.startOfLine]
      omega
    have hbefore := positionOf_before text offset start (by omega) hlength
    have hcolumn := (locates_positionOf text offset h).column
    rw [hposition] at hbefore
    rcases hbefore with hbefore | hbefore <;> simp only at hbefore <;> omega

/-- The index of a text has its lines. Each offset up to the end of the text has the line that holds it
and the column behind what stands before it on that line; the two give the offset back, and they go up
with it. -/
theorem positionOf_exact (text : Text) (offset : Nat) (h : offset ≤ text.length) :
    (ofText text).lineCount = text.lines.length ∧
      Locates text offset ((ofText text).positionOf offset) ∧
      (∀ (i start : Nat), (ofText text).starts[i]? = some start →
        (start ≤ offset ↔ i < ((ofText text).positionOf offset).line)) ∧
      ∀ later : Nat, offset < later → later ≤ text.length →
        ((ofText text).positionOf offset).Before ((ofText text).positionOf later) :=
  ⟨lineCount_ofText text, locates_positionOf text offset h, start_le_iff text offset h,
    positionOf_before text offset⟩

/-- The offset of a newline, with an empty line behind it and the end of the text behind another
newline. -/
theorem positionOf_newline_exact :
    let text : Text := "ab\n\ncd\n".toList
    ((ofText text).positionOf 2 = ⟨1, 3⟩ ∧ (ofText text).positionOf 3 = ⟨2, 1⟩ ∧
      (ofText text).positionOf 7 = ⟨4, 1⟩ ∧ text.length = 7) ∧
      (ofText text).lineCount = text.lines.length ∧
      Locates text 2 ((ofText text).positionOf (2 : Nat)) ∧
      (∀ (i start : Nat), (ofText text).starts[i]? = some start →
        (start ≤ 2 ↔ i < ((ofText text).positionOf (2 : Nat)).line)) ∧
      ∀ later : Nat, 2 < later → later ≤ text.length →
        ((ofText text).positionOf (2 : Nat)).Before ((ofText text).positionOf later) := by
  intro text
  exact ⟨by decide, positionOf_exact text 2 (by decide)⟩

end LineIndex

end ScadAdvisor
