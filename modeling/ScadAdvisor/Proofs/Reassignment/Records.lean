import Mathlib.Data.List.Nodup
import ScadAdvisor.Proofs.Reassignment.Positions
import ScadAdvisor.Proofs.Reassignment.Reachable

/-! # The records of open scopes

Records are made while lines are read, and dropped while braces are closed, by hand or on a line. At any
time there is one record for each variable that was assigned in a scope that is still open, and it stays
as it is for as long as that scope does.
-/

namespace ScadAdvisor.Reassignment

/-! ## Steps -/

/-- What can be done with a state. -/
inductive ScanStep where
  | line (text : Text)
  | opening
  | closing
  | parens (text : Text)
  | pending (waiting : Bool)
deriving DecidableEq, Repr

namespace State

def perform (s : State) : ScanStep → State
  | .line text => (s.advance text).1
  | .opening => s.openBrace
  | .closing => s.closeBrace
  | .parens text => s.countParens text
  | .pending waiting => { s with pending := waiting }

def run (s : State) (steps : List ScanStep) : State := steps.foldl perform s

@[simp] theorem run_concat (s : State) (steps : List ScanStep) (step : ScanStep) :
    s.run (steps ++ [step]) = (s.run steps).perform step := List.foldl_concat ..

theorem Reachable.perform {s : State} (h : s.Reachable) (step : ScanStep) : (s.perform step).Reachable := by
  cases step with
  | line text => exact .line s text h
  | opening => exact .opening s h
  | closing => exact .closing s h
  | parens text => exact .parens s text h
  | pending waiting => exact .pending s waiting h

theorem reachable_iff (s : State) : s.Reachable ↔ ∃ steps, s = run {} steps := by
  have hstep (steps : List ScanStep) (step : ScanStep) :
      ∃ steps', (run {} steps).perform step = run {} steps' := ⟨_, (run_concat {} steps step).symm⟩
  constructor
  · intro h
    induction h with
    | initial => exact ⟨[], rfl⟩
    | line s text _ ih =>
      obtain ⟨steps, rfl⟩ := ih
      exact hstep steps (.line text)
    | opening s _ ih =>
      obtain ⟨steps, rfl⟩ := ih
      exact hstep steps .opening
    | closing s _ ih =>
      obtain ⟨steps, rfl⟩ := ih
      exact hstep steps .closing
    | parens s text _ ih =>
      obtain ⟨steps, rfl⟩ := ih
      exact hstep steps (.parens text)
    | pending s waiting _ ih =>
      obtain ⟨steps, rfl⟩ := ih
      exact hstep steps (.pending waiting)
  · rintro ⟨steps, rfl⟩
    induction steps using List.reverseRecOn with
    | nil => exact .initial
    | append_singleton steps step ih =>
      rw [run_concat]
      exact ih.perform step

end State

/-! ## Depths -/

/-- The depth of parentheses as an integer, which is lifted to zero where it falls below. -/
def liftedDepth (depth : Int) (text : Text) : Int :=
  text.foldl (fun d c => if c == '(' then d + 1 else if c == ')' then max 0 (d - 1) else d) depth

theorem State.parenDepth_eq_liftedDepth (depth : Nat) (text : Text) :
    (parenDepth depth text : Int) = liftedDepth depth text := by
  induction text generalizing depth with
  | nil => rfl
  | cons c cs ih =>
    rw [parenDepth, ih]
    show liftedDepth _ cs = liftedDepth _ cs
    congr 1
    dsimp only
    split_ifs
    · exact Int.natCast_succ depth
    · omega
    · rfl

namespace State

@[simp] theorem braces_openBrace (s : State) : s.openBrace.braces = s.braces + 1 := by
  rcases s.openBrace_cases with ⟨-, he⟩ | ⟨-, he⟩ <;> rw [he]

@[simp] theorem braces_closeBrace (s : State) : s.closeBrace.braces = s.braces - 1 := by
  rcases s.closeBrace_cases with ⟨_, _, -, -, he⟩ | ⟨-, he⟩ <;> rw [he]

@[simp] theorem braces_openBraces (n : Nat) (s : State) : (openBraces n s).braces = s.braces + n := by
  induction n generalizing s with
  | zero => rfl
  | succ n ih =>
    rw [openBraces, ih, braces_openBrace]
    omega

@[simp] theorem braces_closeBraces (n : Nat) (s : State) : (closeBraces n s).braces = s.braces - n := by
  induction n generalizing s with
  | zero => rfl
  | succ n ih =>
    rw [closeBraces, ih, braces_closeBrace]
    omega

@[simp] theorem braces_advance (s : State) (line : Text) :
    (s.advance line).1.braces =
      s.braces + (stripLine s.inBlock line).text.count '{' - (stripLine s.inBlock line).text.count '}' := by
  obtain ⟨assigned, hadvance⟩ := s.advance_fst line
  rw [hadvance, finish]
  dsimp only
  rw [braces_closeBraces]
  show (s.opened line).braces - _ = _
  rw [opened, braces_openBraces]

@[simp] theorem parens_advance (s : State) (line : Text) :
    (s.advance line).1.parens = parenDepth s.parens (stripLine s.inBlock line).text := by
  obtain ⟨_, _, _, _, _, h⟩ := s.advance_frame line
  rw [h]

end State

/-- Both depths count from zero as integers do, and are lifted to zero by what closes too much. -/
structure CountsFromZero (s : State) : Prop where
  braces : 0 ≤ (s.braces : Int)
  parens : 0 ≤ (s.parens : Int)
  opening : (s.openBrace.braces : Int) = s.braces + 1
  closing : (s.closeBrace.braces : Int) = max 0 (s.braces - 1)
  counting : ∀ text, ((s.countParens text).parens : Int) = liftedDepth s.parens text
  line_braces : ∀ line, ((s.advance line).1.braces : Int) =
    max 0 (s.braces + (stripLine s.inBlock line).text.count '{' -
      (stripLine s.inBlock line).text.count '}')
  line_parens : ∀ line, ((s.advance line).1.parens : Int) =
    liftedDepth s.parens (stripLine s.inBlock line).text

theorem countsFromZero (s : State) : CountsFromZero s where
  braces := Int.natCast_nonneg _
  parens := Int.natCast_nonneg _
  opening := by
    rw [s.braces_openBrace]
    rfl
  closing := by
    rw [s.braces_closeBrace]
    omega
  counting text := State.parenDepth_eq_liftedDepth s.parens text
  line_braces line := by
    rw [s.braces_advance]
    omega
  line_parens line := by
    rw [s.parens_advance]
    exact State.parenDepth_eq_liftedDepth s.parens _

/-! ## Records -/

/-- A record about a variable that is assigned on one of the first `lines` lines, before the offset
`stop`. -/
structure IsRecord (lines stop : Nat) (entry : (Nat × Text) × Record) : Prop where
  name_ne_nil : entry.1.2 ≠ []
  word_name : ∀ c ∈ entry.1.2, Ascii.isWord c = true
  not_keyword : entry.1.2 ∉ keywords
  line_pos : 1 ≤ entry.2.line
  line_le : entry.2.line ≤ lines
  offset_lt : entry.2.offset < stop

/-- Each key has one record, and that is about a scope that is open. -/
structure Tidy (lines stop : Nat) (s : State) : Prop where
  keys : (s.assigned.map Prod.fst).Nodup
  live : ∀ entry ∈ s.assigned, s.Live entry.1.1
  record : ∀ entry ∈ s.assigned, IsRecord lines stop entry

theorem State.event?_not_keyword (s : State) (line : Text) (e : Event) (h : s.event? line = some e) :
    e.assignment.name ∉ keywords := by
  unfold event? at h
  split at h
  · split at h
    · rename_i a _
      split at h
      · cases h
      · rename_i hkey
        cases h
        simpa using hkey
    · cases h
  · cases h

theorem isRecord_of_event? (s : State) (line : Text) (e : Event) (h : s.event? line = some e) :
    IsRecord (s.line + 1) (s.offset + line.length + 1) (e.key, e.record) := by
  have hwithin := s.events_within [line] e (by simp [State.events, h])
  rw [Text.length_ended_cons] at hwithin
  obtain ⟨a, ha, he⟩ := s.event?_eq_some line e h
  refine ⟨e.assignment.name_ne_nil, ?_, s.event?_not_keyword line e h, ?_, ?_, ?_⟩
  · rw [he]
    exact (assignment?_spec _ a ha).2
  · exact Nat.lt_of_le_of_lt (Nat.zero_le _) hwithin.1
  · exact hwithin.2.1
  · show e.start < _
    simpa [Text.ended, Nat.add_assoc] using hwithin.2.2.2

namespace Tidy

variable {lines stop : Nat} {s : State}

theorem initial : Tidy 0 0 {} := ⟨by simp, by simp, by simp⟩

theorem mono {lines' stop' : Nat} (h : Tidy lines stop s) (hlines : lines ≤ lines')
    (hstop : stop ≤ stop') : Tidy lines' stop' s :=
  ⟨h.keys, h.live, fun entry hentry =>
    let r := h.record entry hentry
    ⟨r.name_ne_nil, r.word_name, r.not_keyword, r.line_pos, Nat.le_trans r.line_le hlines,
      Nat.lt_of_lt_of_le r.offset_lt hstop⟩⟩

theorem congr {t : State} (h : Tidy lines stop s) (hbodies : t.bodies = s.bodies)
    (hassigned : t.assigned = s.assigned) : Tidy lines stop t := by
  obtain ⟨hkeys, hlive, hrecord⟩ := h
  simp only [State.live_iff] at hlive
  refine ⟨?_, ?_, ?_⟩
  all_goals simp only [State.live_iff, hbodies, hassigned]
  all_goals assumption

theorem openBrace (h : Tidy lines stop s) : Tidy lines stop s.openBrace := by
  rcases s.openBrace_cases with ⟨-, he⟩ | ⟨-, he⟩
  · rw [he]
    refine ⟨h.keys, ?_, h.record⟩
    intro entry hentry
    have hlive := h.live entry hentry
    rw [State.live_iff] at hlive ⊢
    exact hlive.imp_right (List.mem_cons_of_mem _)
  · rw [he]
    exact h.congr rfl rfl

theorem closeBrace (h : Tidy lines stop s) : Tidy lines stop s.closeBrace := by
  rcases s.closeBrace_cases with ⟨top, rest, hbodies, -, he⟩ | ⟨-, he⟩
  · rw [he]
    refine ⟨h.keys.sublist (List.filter_sublist.map Prod.fst), ?_, ?_⟩
    · intro entry hentry
      obtain ⟨hmem, hne⟩ := List.mem_filter.mp hentry
      have hlive := h.live entry hmem
      rw [State.live_iff, hbodies, List.map_cons, List.mem_cons] at hlive
      rw [State.live_iff]
      exact hlive.imp_right fun hid => hid.resolve_left (bne_iff_ne.mp hne)
    · exact fun entry hentry => h.record entry (List.mem_of_mem_filter hentry)
  · rw [he]
    exact h.congr rfl rfl

theorem openBraces (n : Nat) (h : Tidy lines stop s) : Tidy lines stop (State.openBraces n s) := by
  induction n generalizing s with
  | zero => exact h
  | succ n ih => exact ih h.openBrace

theorem closeBraces (n : Nat) (h : Tidy lines stop s) : Tidy lines stop (State.closeBraces n s) := by
  induction n generalizing s with
  | zero => exact h
  | succ n ih => exact ih h.closeBrace

theorem enter {e : Event} (h : Tidy lines stop s) (hlive : s.Live e.scope)
    (hrecord : IsRecord lines stop (e.key, e.record)) : Tidy lines stop (s.enter e).1 := by
  unfold State.enter
  split
  · exact h
  · rename_i hnone
    refine ⟨?_, ?_, ?_⟩
    · have hnew : e.key ∉ s.assigned.map Prod.fst := by
        intro hmem
        obtain ⟨entry, hentry, hkey⟩ := List.mem_map.mp hmem
        have := List.lookup_eq_none_iff.mp hnone entry hentry
        simp [hkey] at this
      rw [List.map_append, List.map_singleton, ← List.concat_eq_append]
      exact List.Nodup.concat hnew h.keys
    · intro entry hentry
      rcases List.mem_append.mp hentry with hentry | hentry
      · exact h.live entry hentry
      · rw [List.mem_singleton.mp hentry]
        exact hlive
    · intro entry hentry
      rcases List.mem_append.mp hentry with hentry | hentry
      · exact h.record entry hentry
      · rw [List.mem_singleton.mp hentry]
        exact hrecord

theorem opened (line : Text) (h : Tidy lines stop s) : Tidy lines stop (s.opened line) :=
  openBraces _ (h.congr rfl rfl)

theorem finish (working line : Text) (h : Tidy lines stop s) :
    Tidy lines stop (s.finish working line) :=
  (closeBraces (working.count '}') (h.congr rfl rfl : Tidy lines stop (s.countParens working))).congr
    rfl rfl

theorem advance (line : Text) (h : Tidy s.line s.offset s) :
    Tidy (s.advance line).1.line (s.advance line).1.offset (s.advance line).1 := by
  have hopened := (h.mono (Nat.le_add_right _ 1) (by omega : s.offset ≤ s.offset + line.length + 1)).opened
    line
  rw [State.advance_line, State.advance_offset, State.advance_eq]
  cases he : s.event? line with
  | none => exact hopened.finish _ _
  | some e =>
    exact (hopened.enter (Recorded.live_event he) (isRecord_of_event? s line e he)).finish _ _

theorem perform (step : ScanStep) (h : Tidy s.line s.offset s) :
    Tidy (s.perform step).line (s.perform step).offset (s.perform step) := by
  have hopen : s.openBrace.line = s.line ∧ s.openBrace.offset = s.offset := by
    rcases s.openBrace_cases with ⟨-, he⟩ | ⟨-, he⟩ <;> rw [he] <;> exact ⟨rfl, rfl⟩
  have hclose : s.closeBrace.line = s.line ∧ s.closeBrace.offset = s.offset := by
    rcases s.closeBrace_cases with ⟨_, _, -, -, he⟩ | ⟨-, he⟩ <;> rw [he] <;> exact ⟨rfl, rfl⟩
  cases step with
  | line text => exact h.advance text
  | opening =>
    rw [State.perform, hopen.1, hopen.2]
    exact h.openBrace
  | closing =>
    rw [State.perform, hclose.1, hclose.2]
    exact h.closeBrace
  | parens text => exact h.congr rfl rfl
  | pending waiting => exact h.congr rfl rfl

theorem run (steps : List ScanStep) :
    Tidy (State.run {} steps).line (State.run {} steps).offset (State.run {} steps) := by
  induction steps using List.reverseRecOn with
  | nil => exact initial
  | append_singleton steps step ih =>
    rw [State.run_concat]
    exact ih.perform step

end Tidy

/-! ## Records that stay -/

theorem Recorded.perform {history : List Event} {s : State} (h : Recorded history s) (step : ScanStep) :
    ∃ new, Recorded (history ++ new) (s.perform step) := by
  cases step with
  | line text => exact ⟨_, (h.advance text).1⟩
  | opening => exact ⟨[], by rw [List.append_nil]; exact h.openBrace⟩
  | closing => exact ⟨[], by rw [List.append_nil]; exact h.closeBrace⟩
  | parens text => exact ⟨[], by rw [List.append_nil]; exact h.congr rfl rfl rfl⟩
  | pending waiting => exact ⟨[], by rw [List.append_nil]; exact h.congr rfl rfl rfl⟩

theorem Recorded.run {history : List Event} {s : State} (h : Recorded history s)
    (steps : List ScanStep) : ∃ new, Recorded (history ++ new) (s.run steps) := by
  induction steps using List.reverseRecOn with
  | nil => exact ⟨[], by rw [List.append_nil]; exact h⟩
  | append_singleton steps step ih =>
    obtain ⟨new, hnew⟩ := ih
    obtain ⟨newer, hnewer⟩ := hnew.perform step
    rw [State.run_concat]
    exact ⟨new ++ newer, by rw [← List.append_assoc]; exact hnewer⟩

/-- The first event of a key stays the first one, whatever comes behind it. -/
theorem Recorded.lookup_run {history : List Event} {s : State} (h : Recorded history s)
    (steps : List ScanStep) {key : Nat × Text} {record : Record} (hlive : s.Live key.1)
    (hlookup : s.assigned.lookup key = some record) (hlater : (s.run steps).Live key.1) :
    (s.run steps).assigned.lookup key = some record := by
  obtain ⟨new, hnew⟩ := h.run steps
  rw [h.record key.1 key.2 (Or.inl hlive)] at hlookup
  obtain ⟨first, hfirst, hrecord⟩ := Option.map_eq_some_iff.mp hlookup
  rw [hnew.record key.1 key.2 (Or.inl hlater), List.find?_append, hfirst, Option.some_or, Option.map_some,
    hrecord]

/-- In every state that a scan can come to, the depths count from zero, and all records are about
variables of scopes that are open, assigned on a line that was read and before what is to be read, one
for each scope and name. Whatever is done from there on, a record stays as it is while its scope is
open. -/
theorem records_current (s : State) (hs : s.Reachable) (steps : List ScanStep) :
    CountsFromZero s ∧ Tidy s.line s.offset s ∧
      ∀ key record, s.assigned.lookup key = some record → (s.run steps).Live key.1 →
        (s.run steps).assigned.lookup key = some record := by
  obtain ⟨before, rfl⟩ := (State.reachable_iff s).mp hs
  have htidy := Tidy.run before
  refine ⟨countsFromZero _, htidy, ?_⟩
  intro key record hlookup hlater
  obtain ⟨history, hrecorded⟩ := hs.recorded
  obtain ⟨front, back, hassigned, -⟩ := List.lookup_eq_some_iff.mp hlookup
  have hlive := htidy.live (key, record) (by simp [hassigned])
  exact hrecorded.lookup_run steps hlive hlookup hlater

/-- A block in a body is opened, a line in it assigns the variable once more, and the block is closed:
the record is still the one that the body made, on its first line. -/
theorem record_of_open_body :
    let s := (State.advanceAll {} (["x = 1;", "module m() \x7b", " x = 2;"].map String.toList)).1
    let steps : List ScanStep := [.opening, .line " x = 3;".toList, .closing]
    let record : Record := ⟨3, 21⟩
    s.Reachable ∧ s.assigned.lookup (1, ['x']) = some record ∧ (s.run steps).Live 1 ∧
      CountsFromZero s ∧ Tidy s.line s.offset s ∧
      (s.run steps).assigned.lookup (1, ['x']) = some record := by
  intro s steps record
  have hreachable : s.Reachable := State.reachable_advanceAll {} _ .initial
  have hrecord : s.assigned.lookup (1, ['x']) = some record := by decide +kernel
  have hlive : (s.run steps).Live 1 := (State.live_iff _ 1).mpr (by decide +kernel)
  obtain ⟨hcounts, htidy, hstays⟩ := records_current s hreachable steps
  exact ⟨hreachable, hrecord, hlive, hcounts, htidy, hstays _ _ hrecord hlive⟩

end ScadAdvisor.Reassignment
