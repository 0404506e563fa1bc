import ScadAdvisor.Proofs.Mask
import ScadAdvisor.Proofs.Reassignment.Events

/-! # Where the names of warnings stand -/

namespace ScadAdvisor.Reassignment

/-! ## On a line -/

theorem assignment?_spec (line : Text) (a : Assignment) (h : assignment? line = some a) :
    Text.slice line a.offset (a.offset + a.name.length) = a.name ∧
      ∀ c ∈ a.name, Ascii.isWord c = true := by
  unfold assignment? at h
  dsimp only at h
  split at h
  · cases h
  · split at h
    · split at h
      · cases h
      · cases h
        refine ⟨?_, List.all_eq_true.mp List.all_takeWhile⟩
        apply Text.slice_of_isPrefix
        rw [Text.drop_takeWhile_length]
        exact List.takeWhile_prefix _
    · cases h

/-- Blanked comments move nothing, so a name stands in the line where it stands in what is left of
the line. -/
theorem State.event?_slice (s : State) (line : Text) (e : Event) (h : s.event? line = some e) :
    Text.slice line e.assignment.offset (e.assignment.offset + e.assignment.name.length) =
      e.assignment.name := by
  obtain ⟨a, ha, rfl⟩ := s.event?_eq_some line e h
  obtain ⟨hword, hclass⟩ := assignment?_spec _ a ha
  exact (blanking_stripLine s.inBlock line).slice_eq hword (Text.no_space_of_isWord _ hclass)

/-! ## In a text -/

@[simp] theorem State.advance_offset (s : State) (line : Text) :
    (s.advance line).1.offset = s.offset + line.length + 1 := by
  obtain ⟨_, _, _, _, _, h⟩ := s.advance_frame line
  rw [h]

@[simp] theorem State.advance_line (s : State) (line : Text) : (s.advance line).1.line = s.line + 1 := by
  obtain ⟨_, _, _, _, _, h⟩ := s.advance_frame line
  rw [h]

@[simp] theorem State.advanceAll_line (s : State) (lines : List Text) :
    (s.advanceAll lines).1.line = s.line + lines.length := by
  induction lines generalizing s with
  | nil => rfl
  | cons line rest ih =>
    rw [State.advanceAll, ih, State.advance_line, List.length_cons]
    omega

@[simp] theorem State.advanceAll_offset (s : State) (lines : List Text) :
    (s.advanceAll lines).1.offset = s.offset + (Text.ended lines).length := by
  induction lines generalizing s with
  | nil => rfl
  | cons line rest ih =>
    rw [State.advanceAll, ih, State.advance_offset, Text.length_ended_cons]
    omega

theorem State.events_within (s : State) (lines : List Text) (e : Event) (h : e ∈ s.events lines) :
    s.line < e.line ∧ e.line ≤ s.line + lines.length ∧ s.offset ≤ e.start ∧
      e.start < s.offset + (Text.ended lines).length := by
  induction lines generalizing s with
  | nil => simp [State.events] at h
  | cons line rest ih =>
    rw [State.events, List.mem_append] at h
    rw [List.length_cons, Text.length_ended_cons]
    rcases h with h | h
    · have hevent : s.event? line = some e := by simpa using h
      have hslice := s.event?_slice line e hevent
      have hstop := Text.le_length_of_slice _ _ _ e.assignment.name_ne_nil hslice
      obtain ⟨a, -, rfl⟩ := s.event?_eq_some line e hevent
      dsimp only at hstop ⊢
      omega
    · have hrest := ih _ h
      rw [State.advance_line, State.advance_offset] at hrest
      omega

theorem mem_repeats (events : List Event) (d : Diagnostic) (h : d ∈ repeats events) :
    ∃ e ∈ events, ∃ first ∈ events, d = warning e.assignment e.start first.line := by
  obtain ⟨⟨e, i⟩, hmem, hwarning⟩ := List.mem_filterMap.mp h
  obtain ⟨first, hfirst, rfl⟩ := Option.map_eq_some_iff.mp hwarning
  exact ⟨e, List.mem_of_getElem? (List.mem_zipIdx_iff_getElem?.mp hmem), first,
    List.mem_of_mem_take (List.mem_of_find?_eq_some hfirst), rfl⟩

end ScadAdvisor.Reassignment
