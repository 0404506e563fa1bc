import ScadAdvisor.Proofs.Lines
import ScadAdvisor.Proofs.Reassignment.Positions

/-! # The lines of warnings

The scan counts lines and characters as it goes, and asks no line index. Both agree on where a warning
stands, and on where the name that it is about was assigned first.
-/

namespace ScadAdvisor.Reassignment

/-! ## Lines and the states before them -/

namespace State

theorem mem_advanceAll_iff (s : State) (lines : List Text) (d : Diagnostic) :
    d ∈ (s.advanceAll lines).2 ↔
      ∃ i line, lines[i]? = some line ∧ ((s.advanceAll (lines.take i)).1.advance line).2 = some d := by
  induction lines generalizing s with
  | nil => simp [advanceAll]
  | cons line rest ih =>
    rw [advanceAll, List.mem_append, Option.mem_toList, ih]
    constructor
    · rintro (hd | ⟨i, line', hline, hd⟩)
      · exact ⟨0, line, rfl, hd⟩
      · exact ⟨i + 1, line', hline, hd⟩
    · rintro ⟨_ | i, line', hline, hd⟩
      · cases hline
        exact Or.inl hd
      · exact Or.inr ⟨i, line', hline, hd⟩

theorem exists_line_of_mem_events (s : State) (lines : List Text) (e : Event) (h : e ∈ s.events lines) :
    ∃ i line, lines[i]? = some line ∧ (s.advanceAll (lines.take i)).1.event? line = some e := by
  induction lines generalizing s with
  | nil => simp [events] at h
  | cons line rest ih =>
    rw [events, List.mem_append, Option.mem_toList] at h
    rcases h with h | h
    · exact ⟨0, line, rfl, h⟩
    · obtain ⟨i, line', hline, he⟩ := ih _ h
      exact ⟨i + 1, line', hline, he⟩

theorem events_pairwise (s : State) (lines : List Text) :
    (s.events lines).Pairwise fun e f => e.line < f.line ∧ e.start < f.start := by
  induction lines generalizing s with
  | nil => exact List.Pairwise.nil
  | cons line rest ih =>
    rw [events, List.pairwise_append]
    refine ⟨by cases s.event? line <;> simp, ih _, ?_⟩
    intro e he f hf
    have hfirst : e ∈ s.events [line] := by simpa [events] using he
    have hfront := s.events_within [line] e hfirst
    have hrest := events_within _ rest f hf
    rw [advance_line, advance_offset] at hrest
    simp only [Text.ended, List.length_singleton, List.flatMap_cons, List.flatMap_nil, List.append_nil,
      List.length_append] at hfront
    omega

end State

theorem pairwise_repeats (events : List Event) (R : Nat → Nat → Prop)
    (h : events.Pairwise fun e f => R e.start f.start) :
    (repeats events).Pairwise fun d d' => R d.start d'.start := by
  have hstart : ∀ (p : Event × Nat) (d : Diagnostic), p.1.warning? (events.take p.2) = some d →
      d.start = p.1.start := by
    rintro ⟨e, i⟩ d hd
    obtain ⟨first, -, rfl⟩ := Option.map_eq_some_iff.mp hd
    rfl
  have hpairs : events.zipIdx.Pairwise fun p q => R p.1.start q.1.start := by
    rw [← List.pairwise_map (f := Prod.fst) (R := fun e f : Event => R e.start f.start)]
    rwa [List.zipIdx_map_fst]
  refine hpairs.filterMap _ ?_
  intro p q hpq d hd d' hd'
  rw [hstart p d hd, hstart q d' hd']
  exact hpq

def stateBefore (text : Text) (i : Nat) : State := (State.advanceAll {} (text.lines.take i)).1

@[simp] theorem stateBefore_line (text : Text) (i : Nat) (line : Text) (h : text.lines[i]? = some line) :
    (stateBefore text i).line = i := by
  have hlt : i < text.lines.length := (List.getElem?_eq_some_iff.mp h).1
  rw [stateBefore, State.advanceAll_line, List.length_take, Nat.min_eq_left (Nat.le_of_lt hlt)]
  exact Nat.zero_add i

@[simp] theorem stateBefore_offset (text : Text) (i : Nat) :
    (stateBefore text i).offset = text.startOfLine i := by
  rw [stateBefore, State.advanceAll_offset, Text.startOfLine]
  exact Nat.zero_add _

theorem recorded_stateBefore (text : Text) (i : Nat) :
    Recorded (State.events {} (text.lines.take i)) (stateBefore text i) :=
  (Recorded.initial.advanceAll (text.lines.take i)).1

/-! ## Places of names -/

/-- The name stands at this offset, on the line with this number, the way a line index counts. -/
structure StandsAt (text name : Text) (line offset : Nat) : Prop where
  slice : Text.slice text offset (offset + name.length) = name
  number : (LineIndex.ofText text).lineOf offset = line

theorem standsAt_of_event? (text : Text) (i : Nat) (line : Text) (hline : text.lines[i]? = some line)
    (e : Event) (he : (stateBefore text i).event? line = some e) :
    StandsAt text e.assignment.name e.line e.start ∧ e.line = i + 1 ∧
      text.startOfLine i ≤ e.start ∧ e.start + e.assignment.name.length ≤ text.startOfLine i + line.length := by
  have hslice := (stateBefore text i).event?_slice line e he
  have hstop := Text.le_length_of_slice _ _ _ e.assignment.name_ne_nil hslice
  obtain ⟨a, -, rfl⟩ := (stateBefore text i).event?_eq_some line e he
  dsimp only at hslice hstop ⊢
  rw [stateBefore_line text i line hline, stateBefore_offset]
  refine ⟨⟨?_, ?_⟩, rfl, by omega, by omega⟩
  · rw [Nat.add_assoc, text.slice_line i line hline _ _ hstop, hslice]
  · exact LineIndex.lineOf_line text i line hline a.offset (by omega)

theorem standsAt_of_mem_events (text : Text) (i : Nat) (e : Event)
    (h : e ∈ State.events {} (text.lines.take i)) :
    StandsAt text e.assignment.name e.line e.start ∧ e.line ≤ i := by
  obtain ⟨j, line, hline, he⟩ := State.exists_line_of_mem_events _ _ _ h
  rw [List.getElem?_take] at hline
  split at hline
  · rename_i hlt
    rw [List.take_take, Nat.min_eq_left (Nat.le_of_lt hlt)] at he
    obtain ⟨hstands, hnumber, -⟩ := standsAt_of_event? text j line hline e he
    exact ⟨hstands, by omega⟩
  · cases hline

theorem standsAt_of_mem_all_events (text : Text) (e : Event) (h : e ∈ State.events {} text.lines) :
    StandsAt text e.assignment.name e.line e.start := by
  rw [← List.take_length (l := text.lines)] at h
  exact (standsAt_of_mem_events text _ e h).1

/-! ## Warnings -/

/-- What a warning says that the scan gives about `line` when it comes to it in state `s`. It is about
the name at its offsets, and `first` is what the scan has recorded about that name. -/
structure Warned (text : Text) (s : State) (line : Text) (d : Diagnostic) (name : Text)
    (first : Record) : Prop where
  message : d.message = message name first.line
  stop : d.stop = d.start + name.length
  stands : StandsAt text name (s.advance line).1.line d.start
  lineStart : (LineIndex.ofText text).lineStart? (s.advance line).1.line = some s.offset
  within : s.offset ≤ d.start ∧ d.stop ≤ s.offset + line.length
  recorded : (s.opened line).recordOf name = some first
  earlier : first.line < (s.advance line).1.line
  first_stands : StandsAt text name first.line first.offset

theorem warned_of_advance (text : Text) (i : Nat) (line : Text) (hline : text.lines[i]? = some line)
    (d : Diagnostic) (h : ((stateBefore text i).advance line).2 = some d) :
    ∃ name first, Warned text (stateBefore text i) line d name first := by
  have hrecorded := recorded_stateBefore text i
  rw [(hrecorded.advance line).2, Option.bind_eq_some_iff] at h
  obtain ⟨e, he, hwarning⟩ := h
  obtain ⟨f, hf, rfl⟩ := Option.map_eq_some_iff.mp hwarning
  have hkey : f.key = e.key := by simpa using List.find?_some hf
  have hname : f.assignment.name = e.assignment.name := congrArg Prod.snd hkey
  obtain ⟨hstands, hnumber, hstart, hstop⟩ := standsAt_of_event? text i line hline e he
  obtain ⟨hfirst, hearlier⟩ := standsAt_of_mem_events text i f (List.mem_of_find?_eq_some hf)
  have hadvance : ((stateBefore text i).advance line).1.line = i + 1 := by
    rw [State.advance_line, stateBefore_line text i line hline]
  have hrecord : ((stateBefore text i).opened line).recordOf e.assignment.name = some f.record := by
    have hlookup := (hrecorded.opened line).lookup_key (Recorded.live_event he)
    rw [hf, Option.map_some] at hlookup
    obtain ⟨a, -, rfl⟩ := (stateBefore text i).event?_eq_some line e he
    exact hlookup
  rw [hname] at hfirst
  rw [hnumber] at hstands
  refine ⟨e.assignment.name, f.record, ?_⟩
  constructor
  · rfl
  · rfl
  · rw [hadvance]
    exact hstands
  · rw [hadvance, stateBefore_offset]
    exact LineIndex.lineStart?_line text i line hline
  · rw [stateBefore_offset]
    exact ⟨hstart, hstop⟩
  · exact hrecord
  · rw [hadvance]
    exact Nat.lt_succ_of_le hearlier
  · exact hfirst

/-- The warnings of a text are those that its lines give, at most one for each line and in their order.
Each stands within its line, over the name that it is about, and cites an earlier line where the name
was assigned first. The line index of the text tells the same lines as the scan. -/
theorem warnings_on_lines (text : Text) :
    let number := fun d : Diagnostic => (LineIndex.ofText text).lineOf d.start
    ((findReassignments text).Pairwise fun d d' => d.start < d'.start ∧ number d < number d') ∧
      (∀ d, d ∈ findReassignments text ↔
        ∃ i line, text.lines[i]? = some line ∧ ((stateBefore text i).advance line).2 = some d) ∧
      ∀ i line d, text.lines[i]? = some line → ((stateBefore text i).advance line).2 = some d →
        number d = i + 1 ∧ ((stateBefore text i).advance line).1.line = i + 1 ∧
          ∃ name first, Warned text (stateBefore text i) line d name first := by
  intro number
  refine ⟨?_, fun d => State.mem_advanceAll_iff {} text.lines d, ?_⟩
  · rw [findReassignments_eq]
    apply pairwise_repeats _ fun a b => a < b ∧
      (LineIndex.ofText text).lineOf a < (LineIndex.ofText text).lineOf b
    have hnumber : ∀ e ∈ State.events {} text.lines, (LineIndex.ofText text).lineOf e.start = e.line :=
      fun e he => (standsAt_of_mem_all_events text e he).number
    refine (State.events_pairwise {} text.lines).imp_of_mem ?_
    intro e f he hf hlt
    rw [hnumber e he, hnumber f hf]
    exact ⟨hlt.2, hlt.1⟩
  · intro i line d hline hd
    obtain ⟨name, first, hwarned⟩ := warned_of_advance text i line hline d hd
    have hadvance : ((stateBefore text i).advance line).1.line = i + 1 := by
      rw [State.advance_line, stateBefore_line text i line hline]
    exact ⟨hadvance ▸ hwarned.stands.number, hadvance, name, first, hwarned⟩

/-- A name in a body, behind a comment. The warning cites the first assignment in that body, not the one
before it. -/
theorem warning_in_body_on_line :
    let text : Text := "x = 1;\nmodule m() \x7b\n x = 2;\n/* x */ x = 3;\n\x7d\nx = 4;".toList
    let line := "/* x */ x = 3;".toList
    let s := stateBefore text 3
    let d := warning ⟨8, ['x'], by decide⟩ 36 3
    text.lines[3]? = some line ∧ (s.advance line).2 = some d ∧
      (findReassignments text).map (·.start) = [36, 45] ∧
      (LineIndex.ofText text).lineOf d.start = 4 ∧ (s.advance line).1.line = 4 ∧
      ∃ name first, Warned text s line d name first := by
  intro text line s d
  have hline : text.lines[3]? = some line := by decide +kernel
  have hd : (s.advance line).2 = some d := by decide +kernel
  obtain ⟨hnumber, hadvance, hwarned⟩ := (warnings_on_lines text).2.2 3 line d hline hd
  exact ⟨hline, hd, by decide +kernel, hnumber, hadvance, hwarned⟩

end ScadAdvisor.Reassignment
