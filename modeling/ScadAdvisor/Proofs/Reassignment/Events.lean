import ScadAdvisor.Proofs.Reassignment.Scopes

/-! # Warnings and the history of assignments

The scan keeps the first assignments of the scopes that are open, and forgets those of a body that
is closed. What it reports is nevertheless decided by the whole history of assignments.
-/

namespace ScadAdvisor.Reassignment

/-! ## Events -/

/-- An assignment that counts: the scope in which it is made, its line, and where its name starts. -/
structure Event where
  scope : Nat
  line : Nat
  start : Nat
  assignment : Assignment
deriving DecidableEq, Repr

namespace Event

def key (e : Event) : Nat × Text := (e.scope, e.assignment.name)

def record (e : Event) : Record := ⟨e.line, e.start⟩

def firstIn (e : Event) (earlier : List Event) : Option Event := earlier.find? (·.key == e.key)

/-- The warning about an event, given those before it. -/
def warning? (e : Event) (earlier : List Event) : Option Diagnostic :=
  (e.firstIn earlier).map fun first => warning e.assignment e.start first.line

end Event

/-- The warnings about a whole history: each event is compared with those before it. -/
def repeats (events : List Event) : List Diagnostic :=
  events.zipIdx.filterMap fun (e, i) => e.warning? (events.take i)

namespace State

/-- The state in which the assignment of a line is looked at, behind the braces that open on the
line. -/
def opened (s : State) (line : Text) : State :=
  let strip := stripLine s.inBlock line
  openBraces (strip.text.count '{')
    { s with
      line := s.line + 1
      inBlock := strip.inBlock
      pending := s.pending || isSignature strip.text }

/-- The event of a line. There is none inside parentheses or behind an open block comment, and none
for a word of the language. -/
def event? (s : State) (line : Text) : Option Event :=
  if s.parens = 0 ∧ s.inBlock = false then
    match assignment? (stripLine s.inBlock line).text with
    | some a =>
      if keywords.contains a.name then none
      else some ⟨(s.opened line).current.id, s.line + 1, s.offset + a.offset, a⟩
    | none => none
  else none

def events : State → List Text → List Event
  | _, [] => []
  | s, line :: rest => (s.event? line).toList ++ events (s.advance line).1 rest

theorem event?_eq_some (s : State) (line : Text) (e : Event) (h : s.event? line = some e) :
    ∃ a, assignment? (stripLine s.inBlock line).text = some a ∧
      e = ⟨(s.opened line).current.id, s.line + 1, s.offset + a.offset, a⟩ := by
  unfold event? at h
  split at h
  · split at h
    · rename_i a ha
      split at h
      · cases h
      · cases h
        exact ⟨a, ha, rfl⟩
    · cases h
  · cases h

/-! ## One line in three parts -/

/-- Looks an event up, and records it if it is the first of its kind. -/
def enter (s : State) (e : Event) : State × Option Diagnostic :=
  match s.assigned.lookup e.key with
  | some first => (s, some (warning e.assignment e.start first.line))
  | none => ({ s with assigned := s.assigned ++ [(e.key, e.record)] }, none)

def finish (s : State) (working line : Text) : State :=
  let closed := closeBraces (working.count '}') (s.countParens working)
  { closed with offset := closed.offset + line.length + 1 }

theorem openBraces_eq (n : Nat) (s : State) :
    ∃ braces bodies nextId pending, openBraces n s = { s with braces, bodies, nextId, pending } := by
  induction n generalizing s with
  | zero => exact ⟨s.braces, s.bodies, s.nextId, s.pending, rfl⟩
  | succ n ih =>
    obtain ⟨braces, bodies, nextId, pending, h⟩ := ih s.openBrace
    refine ⟨braces, bodies, nextId, pending, ?_⟩
    rw [openBraces, h]
    rcases s.openBrace_cases with ⟨-, he⟩ | ⟨-, he⟩ <;> rw [he]

@[simp] theorem opened_line (s : State) (line : Text) : (s.opened line).line = s.line + 1 := by
  unfold opened
  obtain ⟨_, _, _, _, h⟩ := openBraces_eq ((stripLine s.inBlock line).text.count '{') _
  rw [h]

@[simp] theorem opened_offset (s : State) (line : Text) : (s.opened line).offset = s.offset := by
  unfold opened
  obtain ⟨_, _, _, _, h⟩ := openBraces_eq ((stripLine s.inBlock line).text.count '{') _
  rw [h]

theorem assign_eq (s : State) (a : Assignment) (h : keywords.contains a.name = false) :
    s.assign a = s.enter ⟨s.current.id, s.line, s.offset + a.offset, a⟩ := by
  rw [assign, if_neg (by simp only [h, Bool.false_eq_true, not_false_eq_true])]
  rfl

/-- The assignment of a line, as `advance` looks at it, is its event. -/
theorem checked_eq (s : State) (line : Text) :
    (if s.parens == 0 && !(stripLine s.inBlock line).startedInBlock then
      match assignment? (stripLine s.inBlock line).text with
      | some a => (s.opened line).assign a
      | none => (s.opened line, none)
    else (s.opened line, none)) =
      match s.event? line with
      | some e => (s.opened line).enter e
      | none => (s.opened line, none) := by
  have hstarted : (stripLine s.inBlock line).startedInBlock = s.inBlock := rfl
  have hcond : (s.parens == 0 && !s.inBlock) = true ↔ s.parens = 0 ∧ s.inBlock = false := by simp
  unfold event?
  rw [hstarted]
  by_cases h : s.parens = 0 ∧ s.inBlock = false
  · rw [if_pos (hcond.mpr h), if_pos h]
    cases assignment? (stripLine s.inBlock line).text with
    | none => rfl
    | some a =>
      cases hkey : keywords.contains a.name with
      | true => simp only [assign, hkey, if_true]
      | false =>
        simp only [hkey, Bool.false_eq_true, if_false]
        rw [assign_eq _ _ hkey, opened_line, opened_offset]
  · rw [if_neg (mt hcond.mp h), if_neg h]

theorem advance_eq (s : State) (line : Text) :
    s.advance line =
      let checked := match s.event? line with
        | some e => (s.opened line).enter e
        | none => (s.opened line, none)
      (checked.1.finish (stripLine s.inBlock line).text line, checked.2) := by
  rw [← checked_eq]
  rfl

def withRecords (s : State) (assigned : List ((Nat × Text) × Record)) : State := { s with assigned }

theorem enter_eq (s : State) (e : Event) : ∃ assigned, (s.enter e).1 = s.withRecords assigned := by
  unfold enter
  split
  · exact ⟨s.assigned, rfl⟩
  · exact ⟨_, rfl⟩

/-- But for the records, a line does nothing between the braces that it opens and those that it
closes. -/
theorem advance_fst (s : State) (line : Text) :
    ∃ assigned, (s.advance line).1 =
      ((s.opened line).withRecords assigned).finish (stripLine s.inBlock line).text line := by
  rw [advance_eq]
  cases s.event? line with
  | none => exact ⟨(s.opened line).assigned, rfl⟩
  | some e =>
    obtain ⟨assigned, h⟩ := (s.opened line).enter_eq e
    exact ⟨assigned, congrArg (finish · _ line) h⟩

/-! ## Records -/

theorem closeBraces_eq (n : Nat) (s : State) :
    ∃ braces bodies assigned, closeBraces n s = { s with braces, bodies, assigned } := by
  induction n generalizing s with
  | zero => exact ⟨s.braces, s.bodies, s.assigned, rfl⟩
  | succ n ih =>
    obtain ⟨braces, bodies, assigned, h⟩ := ih s.closeBrace
    refine ⟨braces, bodies, assigned, ?_⟩
    rw [closeBraces, h]
    rcases s.closeBrace_cases with ⟨_, _, -, -, he⟩ | ⟨-, he⟩ <;> rw [he]

theorem finish_eq (s : State) (working line : Text) :
    ∃ braces bodies assigned, s.finish working line = { s with
      braces
      bodies
      assigned
      parens := parenDepth s.parens working
      offset := s.offset + line.length + 1 } := by
  obtain ⟨braces, bodies, assigned, h⟩ := closeBraces_eq (working.count '}') (s.countParens working)
  refine ⟨braces, bodies, assigned, ?_⟩
  rw [finish, h]
  rfl

/-- What a line does to everything but scopes and records. -/
theorem advance_frame (s : State) (line : Text) :
    ∃ braces bodies nextId pending assigned, (s.advance line).1 =
      { braces, bodies, nextId, pending, assigned
        parens := parenDepth s.parens (stripLine s.inBlock line).text
        inBlock := (stripLine s.inBlock line).inBlock
        line := s.line + 1
        offset := s.offset + line.length + 1 } := by
  obtain ⟨assigned, hadvance⟩ := s.advance_fst line
  obtain ⟨braces, bodies, assigned', hfinish⟩ :=
    ((s.opened line).withRecords assigned).finish_eq (stripLine s.inBlock line).text line
  obtain ⟨_, _, nextId, pending, hopened⟩ := openBraces_eq ((stripLine s.inBlock line).text.count '{')
    { s with
      line := s.line + 1
      inBlock := (stripLine s.inBlock line).inBlock
      pending := s.pending || isSignature (stripLine s.inBlock line).text }
  refine ⟨braces, bodies, nextId, pending, assigned', ?_⟩
  rw [hadvance, hfinish, withRecords, opened, hopened]

def Live (s : State) (id : Nat) : Prop := id ∈ s.scopes.map Scope.id

theorem live_iff (s : State) (id : Nat) : s.Live id ↔ id = 0 ∨ id ∈ s.bodies.map Scope.id := by
  simp [Live, scopes, globalScope]

theorem live_current (s : State) : s.Live s.current.id := by
  rw [live_iff, current]
  cases s.bodies with
  | nil => exact Or.inl rfl
  | cons top rest => exact Or.inr (by simp)

end State

/-- The records are the first events of the scopes that are open, and no event is in a scope that is
still to come. -/
structure Recorded (history : List Event) (s : State) : Prop where
  ordered : s.Ordered
  scope_lt : ∀ e ∈ history, e.scope < s.nextId
  -- The ids to come are included, so that a body has no records when it opens.
  record : ∀ id name, s.Live id ∨ s.nextId ≤ id →
    s.assigned.lookup (id, name) = (history.find? (·.key == (id, name))).map Event.record

namespace Recorded

theorem initial : Recorded [] {} := ⟨State.ordered_initial, by simp, by simp⟩

theorem congr {history : List Event} {s t : State} (h : Recorded history s) (hbodies : t.bodies = s.bodies)
    (hnext : t.nextId = s.nextId) (hassigned : t.assigned = s.assigned) : Recorded history t := by
  obtain ⟨⟨hids, hpos, hlt, hnext_pos⟩, hscope, hrecord⟩ := h
  refine ⟨⟨?_, ?_, ?_, ?_⟩, ?_, ?_⟩
  all_goals simp only [hbodies, hnext, hassigned, State.live_iff] at *
  all_goals assumption

theorem openBrace {history : List Event} {s : State} (h : Recorded history s) :
    Recorded history s.openBrace := by
  have hordered := h.ordered.openBrace
  rcases s.openBrace_cases with ⟨-, he⟩ | ⟨-, he⟩
  · rw [he] at hordered ⊢
    refine ⟨hordered, fun e hmem => Nat.lt_succ_of_lt (h.scope_lt e hmem), ?_⟩
    intro id name hid
    -- The new body has the next id, which nothing has used so far.
    apply h.record
    simp only [State.live_iff, List.map_cons, List.mem_cons] at hid ⊢
    rcases hid with (hid | hid | hid) | hid
    · exact Or.inl (Or.inl hid)
    · exact Or.inr (Nat.le_of_eq hid.symm)
    · exact Or.inl (Or.inr hid)
    · exact Or.inr (Nat.le_of_succ_le hid)
  · rw [he]
    exact h.congr rfl rfl rfl

theorem lookup_filter (entries : List ((Nat × Text) × Record)) (dead id : Nat) (name : Text)
    (h : id ≠ dead) :
    (entries.filter fun entry => entry.1.1 != dead).lookup (id, name) = entries.lookup (id, name) := by
  induction entries with
  | nil => rfl
  | cons entry rest ih =>
    obtain ⟨⟨id', name'⟩, record⟩ := entry
    by_cases hdead : id' = dead
    · -- The entry is dropped, and it was none of this scope.
      have hkey : ((id, name) == (id', name')) = false := by simp [hdead, h]
      rw [List.filter_cons_of_neg (by simp [hdead]), ih, List.lookup_cons, hkey]
    · rw [List.filter_cons_of_pos (by simp [hdead]), List.lookup_cons, List.lookup_cons, ih]

theorem closeBrace {history : List Event} {s : State} (h : Recorded history s) :
    Recorded history s.closeBrace := by
  have hordered := h.ordered.closeBrace
  rcases s.closeBrace_cases with ⟨top, rest, hbodies, -, he⟩ | ⟨-, he⟩
  · rw [he] at hordered ⊢
    refine ⟨hordered, h.scope_lt, ?_⟩
    intro id name hid
    have hids := h.ordered.ids
    have hpos := h.ordered.pos top (by simp [hbodies])
    have hlt := h.ordered.lt_nextId top (by simp [hbodies])
    rw [hbodies, List.map_cons, List.pairwise_cons] at hids
    simp only [State.live_iff] at hid
    -- The ids that are left, and those to come, are not the id that is closed.
    have hne : id ≠ top.id := by
      rcases hid with (hid | hid) | hid
      · omega
      · exact Nat.ne_of_lt (hids.1 id hid)
      · exact Nat.ne_of_gt (Nat.lt_of_lt_of_le hlt hid)
    rw [lookup_filter _ _ _ _ hne]
    apply h.record
    rw [State.live_iff, hbodies, List.map_cons, List.mem_cons]
    tauto
  · rw [he]
    exact h.congr rfl rfl rfl

theorem live_lt {history : List Event} {s : State} {id : Nat} (h : Recorded history s)
    (hid : s.Live id) : id < s.nextId := by
  rw [State.live_iff] at hid
  rcases hid with rfl | hid
  · exact h.ordered.nextId_pos
  · obtain ⟨body, hbody, rfl⟩ := List.mem_map.mp hid
    exact h.ordered.lt_nextId body hbody

theorem lookup_key {history : List Event} {s : State} {e : Event} (h : Recorded history s)
    (he : s.Live e.scope) : s.assigned.lookup e.key = (e.firstIn history).map Event.record :=
  h.record e.scope e.assignment.name (Or.inl he)

theorem enter {history : List Event} {s : State} {e : Event} (h : Recorded history s)
    (he : s.Live e.scope) : Recorded (history ++ [e]) (s.enter e).1 := by
  have hscope : ∀ f ∈ history ++ [e], f.scope < s.nextId := by
    intro f hf
    rcases List.mem_append.mp hf with hf | hf
    · exact h.scope_lt f hf
    · rw [List.mem_singleton.mp hf]
      exact h.live_lt he
  have hkey := h.lookup_key he
  unfold State.enter
  split
  · rename_i first hfirst
    refine ⟨h.ordered, hscope, ?_⟩
    intro id name hid
    rw [h.record id name hid, List.find?_append]
    by_cases hname : e.key = (id, name)
    · -- There is an earlier event with this key, and it stays the first.
      rw [hkey, Event.firstIn, hname] at hfirst
      obtain ⟨f, hf, -⟩ := Option.map_eq_some_iff.mp hfirst
      rw [hf, Option.some_or]
    · simp [hname]
  · rename_i hnone
    refine ⟨⟨h.ordered.ids, h.ordered.pos, h.ordered.lt_nextId, h.ordered.nextId_pos⟩, hscope, ?_⟩
    intro id name hid
    rw [List.lookup_append, h.record id name hid, List.find?_append]
    by_cases hname : e.key = (id, name)
    · rw [hkey, Event.firstIn, hname, Option.map_eq_none_iff] at hnone
      simp [hnone, hname]
    · have hbeq : ((id, name) == e.key) = false := beq_eq_false_iff_ne.mpr (Ne.symm hname)
      simp [hname, List.lookup_cons, hbeq]

theorem openBraces {history : List Event} {s : State} (n : Nat) (h : Recorded history s) :
    Recorded history (State.openBraces n s) := by
  induction n generalizing s with
  | zero => exact h
  | succ n ih => exact ih h.openBrace

theorem closeBraces {history : List Event} {s : State} (n : Nat) (h : Recorded history s) :
    Recorded history (State.closeBraces n s) := by
  induction n generalizing s with
  | zero => exact h
  | succ n ih => exact ih h.closeBrace

theorem opened {history : List Event} {s : State} (line : Text) (h : Recorded history s) :
    Recorded history (s.opened line) := openBraces _ (h.congr rfl rfl rfl)

theorem finish {history : List Event} {s : State} (working line : Text) (h : Recorded history s) :
    Recorded history (s.finish working line) :=
  (closeBraces (working.count '}') (h.congr rfl rfl rfl : Recorded history (s.countParens working))).congr
    rfl rfl rfl

theorem live_event {s : State} {line : Text} {e : Event} (h : s.event? line = some e) :
    (s.opened line).Live e.scope := by
  obtain ⟨a, -, rfl⟩ := s.event?_eq_some line e h
  exact State.live_current _

/-- One line adds its event to the history, and reports it if the history says so. -/
theorem advance {history : List Event} {s : State} (line : Text) (h : Recorded history s) :
    Recorded (history ++ (s.event? line).toList) (s.advance line).1 ∧
      (s.advance line).2 = (s.event? line).bind fun e => e.warning? history := by
  have hopened := h.opened line
  rw [State.advance_eq]
  cases hevent : s.event? line with
  | none =>
    refine ⟨?_, rfl⟩
    rw [Option.toList_none, List.append_nil]
    exact hopened.finish _ _
  | some e =>
    have hlive := live_event hevent
    refine ⟨(hopened.enter hlive).finish _ _, ?_⟩
    have hkey := hopened.lookup_key hlive
    show ((s.opened line).enter e).2 = e.warning? history
    rw [State.enter, hkey, Event.warning?]
    cases e.firstIn history <;> rfl

end Recorded

/-! ## Whole texts -/

def repeatsAfter (history : List Event) : List Event → List Diagnostic
  | [] => []
  | e :: rest => (e.warning? history).toList ++ repeatsAfter (history ++ [e]) rest

theorem repeatsAfter_eq (history events : List Event) :
    repeatsAfter history events =
      (events.zipIdx history.length).filterMap fun (e, i) => e.warning? ((history ++ events).take i) := by
  induction events generalizing history with
  | nil => rfl
  | cons e rest ih =>
    rw [repeatsAfter, ih, List.zipIdx_cons, List.filterMap_cons]
    simp only [List.length_append, List.length_singleton, List.append_assoc, List.singleton_append,
      List.take_left]
    cases e.warning? history <;> rfl

@[simp] theorem repeatsAfter_nil (events : List Event) : repeatsAfter [] events = repeats events :=
  repeatsAfter_eq [] events

theorem Recorded.advanceAll {history : List Event} {s : State} (lines : List Text)
    (h : Recorded history s) :
    Recorded (history ++ s.events lines) (s.advanceAll lines).1 ∧
      (s.advanceAll lines).2 = repeatsAfter history (s.events lines) := by
  induction lines generalizing history s with
  | nil => exact ⟨by simpa [State.events, State.advanceAll] using h, rfl⟩
  | cons line rest ih =>
    obtain ⟨hnext, hwarning⟩ := h.advance line
    obtain ⟨hrest, hwarnings⟩ := ih hnext
    rw [State.advanceAll, State.events, hwarning, hwarnings]
    refine ⟨by simpa using hrest, ?_⟩
    cases s.event? line with
    | none => simp
    | some e => rfl

theorem State.mem_scopes_openBraces (n : Nat) (s : State) (scope : Scope)
    (h : scope ∈ (openBraces n s).scopes) : scope ∈ s.scopes ∨ s.nextId ≤ scope.id := by
  induction n generalizing s with
  | zero => exact Or.inl h
  | succ n ih =>
    have hopen := ih s.openBrace h
    rcases s.openBrace_cases with ⟨-, he⟩ | ⟨-, he⟩
    · rw [he] at hopen
      simp only [scopes, List.reverse_cons, List.mem_cons, List.mem_append, List.mem_reverse,
        List.not_mem_nil, or_false] at hopen ⊢
      rcases hopen with (hglobal | hbody | rfl) | hid
      · exact Or.inl (Or.inl hglobal)
      · exact Or.inl (Or.inr hbody)
      · exact Or.inr (Nat.le_refl _)
      · exact Or.inr (Nat.le_of_succ_le hid)
    · rw [he] at hopen
      exact hopen

theorem findReassignments_eq (text : Text) :
    findReassignments text = repeats (State.events {} text.lines) := by
  rw [findReassignments, (Recorded.initial.advanceAll text.lines).2, repeatsAfter_nil]

/-- A text is warned about each event that has an earlier one of the same scope and name, in the
order of its lines, with the line of the first such event. A scope that opens on a line has an id
that no event before that line has, so what is forgotten with a scope is never asked for again. -/
theorem findReassignments_eq_repeats (text : Text) :
    findReassignments text = repeats (State.events {} text.lines) ∧
      ∀ (before : List Text) (line : Text) (scope : Scope),
        let s := (State.advanceAll {} before).1
        scope ∈ (s.opened line).scopes → scope ∉ s.scopes →
          ∀ e ∈ State.events {} before, e.scope ≠ scope.id := by
  refine ⟨findReassignments_eq text, ?_⟩
  intro before line scope s hopened hscope e he
  have hlt := (Recorded.initial.advanceAll before).1.scope_lt e he
  have hnew := (State.mem_scopes_openBraces _ _ scope hopened).resolve_left hscope
  exact Nat.ne_of_lt (Nat.lt_of_lt_of_le hlt hnew)

/-- Two bodies use one name. The second body opens on the fifth line with an id of its own, and the
assignments that are repeated are those in it and behind it. -/
theorem repeats_of_two_bodies :
    let text : Text := ("x = 1;\nmodule m() \x7b\n x = 2;\n\x7d\n" ++
      "module n() \x7b\n x = 3;\n x = 4;\n\x7d\nx = 5;").toList
    let before := text.lines.take 4
    let line := "module n() \x7b".toList
    let s := (State.advanceAll {} before).1
    let body : Scope := ⟨2, 1⟩
    findReassignments text = repeats (State.events {} text.lines) ∧
      (findReassignments text).map (·.start) = [52, 61] ∧
      body ∈ (s.opened line).scopes ∧ body ∉ s.scopes ∧
      (State.events {} before).map Event.scope = [0, 1] ∧
      ∀ e ∈ State.events {} before, e.scope ≠ body.id := by
  intro text before line s body
  obtain ⟨hwarnings, hfresh⟩ := findReassignments_eq_repeats text
  have hopened : body ∈ (s.opened line).scopes := by decide +kernel
  have hnew : body ∉ s.scopes := by decide +kernel
  exact ⟨hwarnings, by decide +kernel, hopened, hnew, by decide +kernel,
    hfresh before line body hopened hnew⟩

end ScadAdvisor.Reassignment
