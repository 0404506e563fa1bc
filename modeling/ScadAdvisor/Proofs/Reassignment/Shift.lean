import ScadAdvisor.Proofs.Reassignment.Positions
import ScadAdvisor.Proofs.Reassignment.Reading

/-! # The same run further down

A run takes no decision by its line number, its offset or its records, so when all lines move down
its assignments move with them. The signature that waits for a body is another matter.
-/

namespace ScadAdvisor.Reassignment

/-! ## Moving a run -/

def Event.moved (e : Event) (lines size : Nat) : Event :=
  { e with line := e.line + lines, start := e.start + size }

namespace State

/-- The same state further down, with other records. -/
def moved (s : State) (lines size : Nat) (assigned : List ((Nat × Text) × Record)) : State :=
  { s with line := s.line + lines, offset := s.offset + size, assigned }

@[simp] theorem openBrace_moved (s : State) (lines size : Nat) (assigned : List ((Nat × Text) × Record)) :
    (s.moved lines size assigned).openBrace = s.openBrace.moved lines size assigned := by
  unfold openBrace
  cases h : s.pending <;> simp [moved, h]

@[simp] theorem openBraces_moved (n : Nat) (s : State) (lines size : Nat)
    (assigned : List ((Nat × Text) × Record)) :
    openBraces n (s.moved lines size assigned) = (openBraces n s).moved lines size assigned := by
  induction n generalizing s with
  | zero => rfl
  | succ n ih => rw [openBraces, openBrace_moved, ih, openBraces]

@[simp] theorem closeBrace_moved (s : State) (lines size : Nat) (assigned : List ((Nat × Text) × Record)) :
    ∃ assigned', (s.moved lines size assigned).closeBrace = s.closeBrace.moved lines size assigned' := by
  unfold closeBrace
  cases hbodies : s.bodies with
  | nil => exact ⟨assigned, by simp [moved, hbodies]⟩
  | cons top rest =>
    by_cases hanchor : top.anchor = s.braces
    · exact ⟨assigned.filter fun entry => entry.1.1 != top.id, by simp [moved, hbodies, hanchor]⟩
    · exact ⟨assigned, by simp [moved, hbodies, hanchor]⟩

@[simp] theorem closeBraces_moved (n : Nat) (s : State) (lines size : Nat)
    (assigned : List ((Nat × Text) × Record)) :
    ∃ assigned', closeBraces n (s.moved lines size assigned) =
      (closeBraces n s).moved lines size assigned' := by
  induction n generalizing s assigned with
  | zero => exact ⟨assigned, rfl⟩
  | succ n ih =>
    obtain ⟨assigned', h⟩ := s.closeBrace_moved lines size assigned
    rw [closeBraces, h]
    exact ih s.closeBrace assigned'

@[simp] theorem opened_moved (s : State) (line : Text) (lines size : Nat)
    (assigned : List ((Nat × Text) × Record)) :
    (s.moved lines size assigned).opened line = (s.opened line).moved lines size assigned := by
  unfold opened
  rw [← openBraces_moved]
  simp [moved, Nat.add_right_comm]

theorem finish_moved (s : State) (working line : Text) (lines size : Nat)
    (assigned : List ((Nat × Text) × Record)) :
    ∃ assigned', (s.moved lines size assigned).finish working line =
      (s.finish working line).moved lines size assigned' := by
  obtain ⟨assigned', h⟩ :=
    closeBraces_moved (working.count '}') (s.countParens working) lines size assigned
  refine ⟨assigned', ?_⟩
  unfold finish
  rw [show (s.moved lines size assigned).countParens working =
    (s.countParens working).moved lines size assigned from rfl, h]
  simp [moved]
  omega

theorem advance_moved (s : State) (line : Text) (lines size : Nat)
    (assigned : List ((Nat × Text) × Record)) :
    ∃ assigned', ((s.moved lines size assigned).advance line).1 =
      (s.advance line).1.moved lines size assigned' := by
  obtain ⟨records, h⟩ := s.advance_fst line
  obtain ⟨records', h'⟩ := (s.moved lines size assigned).advance_fst line
  rw [h, h', opened_moved]
  exact ((s.opened line).withRecords records).finish_moved _ line lines size records'

@[simp] theorem event?_moved (s : State) (line : Text) (lines size : Nat)
    (assigned : List ((Nat × Text) × Record)) :
    (s.moved lines size assigned).event? line = (s.event? line).map (·.moved lines size) := by
  have hblock : (s.moved lines size assigned).inBlock = s.inBlock := rfl
  unfold event?
  rw [opened_moved, hblock]
  show (if s.parens = 0 ∧ s.inBlock = false then _ else _) = _
  split
  · cases assignment? (stripLine s.inBlock line).text with
    | none => rfl
    | some a =>
      dsimp only
      split
      · rfl
      · simp [moved, Event.moved, current]
        omega
  · rfl

@[simp] theorem events_moved (s : State) (rest : List Text) (lines size : Nat)
    (assigned : List ((Nat × Text) × Record)) :
    (s.moved lines size assigned).events rest = (s.events rest).map (·.moved lines size) := by
  induction rest generalizing s assigned with
  | nil => rfl
  | cons line rest ih =>
    obtain ⟨assigned', h⟩ := s.advance_moved line lines size assigned
    rw [events, events, h, ih, event?_moved, List.map_append]
    cases s.event? line <;> rfl

/-! ## Scopes line by line -/

def scopesAt : State → List Text → List (List Scope)
  | _, [] => []
  | s, line :: rest => (s.opened line).scopes :: scopesAt (s.advance line).1 rest

@[simp] theorem scopesAt_moved (s : State) (rest : List Text) (lines size : Nat)
    (assigned : List ((Nat × Text) × Record)) :
    (s.moved lines size assigned).scopesAt rest = s.scopesAt rest := by
  induction rest generalizing s assigned with
  | nil => rfl
  | cons line rest ih =>
    obtain ⟨assigned', h⟩ := s.advance_moved line lines size assigned
    rw [scopesAt, scopesAt, h, ih, opened_moved]
    rfl

/-! ## A signature that waits -/

/-- A signature has been read in front. -/
def waiting (s : State) : State := { s with pending := true }

theorem opened_waiting_of_signature (s : State) (line : Text)
    (h : isSignature (stripLine s.inBlock line).text = true) : s.waiting.opened line = s.opened line := by
  unfold opened waiting
  simp [h]

theorem opened_waiting_of_no_brace (s : State) (line : Text) (h : '{' ∉ (stripLine s.inBlock line).text) :
    s.waiting.opened line = (s.opened line).waiting := by
  unfold opened waiting
  simp [List.count_eq_zero.mpr h, openBraces]

@[simp] theorem closeBrace_waiting (s : State) : s.waiting.closeBrace = s.closeBrace.waiting := by
  unfold closeBrace
  cases hbodies : s.bodies with
  | nil => simp [waiting, hbodies]
  | cons top rest => by_cases hanchor : top.anchor = s.braces <;> simp [waiting, hbodies, hanchor]

@[simp] theorem closeBraces_waiting (n : Nat) (s : State) :
    closeBraces n s.waiting = (closeBraces n s).waiting := by
  induction n generalizing s with
  | zero => rfl
  | succ n ih => rw [closeBraces, closeBrace_waiting, ih, closeBraces]

@[simp] theorem finish_waiting (s : State) (working line : Text) :
    s.waiting.finish working line = (s.finish working line).waiting := by
  unfold finish
  rw [show s.waiting.countParens working = (s.countParens working).waiting from rfl, closeBraces_waiting]
  rfl

@[simp] theorem enter_waiting (s : State) (e : Event) :
    s.waiting.enter e = ((s.enter e).1.waiting, (s.enter e).2) := by
  unfold enter
  cases h : s.assigned.lookup e.key <;> simp [waiting, h]

theorem event?_waiting (s : State) (line : Text)
    (h : (s.waiting.opened line).current = (s.opened line).current) :
    s.waiting.event? line = s.event? line := by
  unfold event?
  rw [h]
  rfl

theorem advance_waiting_of_signature (s : State) (line : Text)
    (h : isSignature (stripLine s.inBlock line).text = true) : s.waiting.advance line = s.advance line := by
  have hopened := s.opened_waiting_of_signature line h
  rw [advance_eq, advance_eq, hopened, event?_waiting s line (by rw [hopened])]
  rfl

theorem advance_waiting_of_no_brace (s : State) (line : Text)
    (h : '{' ∉ (stripLine s.inBlock line).text) :
    (s.waiting.advance line).1 = (s.advance line).1.waiting := by
  have hopened := s.opened_waiting_of_no_brace line h
  rw [advance_eq, advance_eq, hopened, event?_waiting s line (by rw [hopened]; rfl)]
  cases s.event? line with
  | none => exact finish_waiting _ _ _
  | some e =>
    dsimp only
    rw [enter_waiting]
    exact finish_waiting _ _ _

theorem advance_pending (s : State) (line : Text) (hbrace : '{' ∉ (stripLine s.inBlock line).text)
    (hsignature : isSignature (stripLine s.inBlock line).text = false) :
    (s.advance line).1.pending = s.pending := by
  obtain ⟨assigned, h⟩ := s.advance_fst line
  obtain ⟨_, _, _, hfinish⟩ :=
    ((s.opened line).withRecords assigned).finish_eq (stripLine s.inBlock line).text line
  rw [h, hfinish]
  simp [withRecords, opened, List.count_eq_zero.mpr hbrace, openBraces, hsignature]

theorem openBraces_bodies (n : Nat) (s : State) (h : s.pending = false) :
    (openBraces n s).bodies = s.bodies := by
  induction n generalizing s with
  | zero => rfl
  | succ n ih =>
    rcases s.openBrace_cases with ⟨hp, -⟩ | ⟨-, he⟩
    · simp [h] at hp
    · rw [openBraces, ih _ (by rw [he]; exact h), he]

/-- A bare block behind a signature that still waits is taken for its body. -/
theorem opened_waiting_of_brace (s : State) (line : Text) (hpending : s.pending = false)
    (hsignature : isSignature (stripLine s.inBlock line).text = false)
    (hbrace : '{' ∈ (stripLine s.inBlock line).text) :
    (s.waiting.opened line).scopes = (s.opened line).scopes ++ [⟨s.nextId, s.braces + 1⟩] := by
  obtain ⟨n, hn⟩ := Nat.exists_eq_succ_of_ne_zero (Nat.ne_of_gt (List.count_pos_iff.mpr hbrace))
  have hwaiting : (s.waiting.opened line).bodies = ⟨s.nextId, s.braces + 1⟩ :: s.bodies := by
    show (openBraces ((stripLine s.inBlock line).text.count '{') _).bodies = _
    rw [hn, openBraces, openBraces_bodies]
    · rfl
    · rfl
  have hopened : (s.opened line).bodies = s.bodies := openBraces_bodies _ _ (by simp [hpending, hsignature])
  rw [scopes, scopes, hwaiting, hopened]
  simp

end State

/-- Of the lines that have a signature or an opening brace, the first one has a signature. -/
def SignatureFirst (inBlock : Bool) (lines : List Text) : Prop :=
  ∀ strip ∈ (stripLines inBlock lines).find? fun strip => isSignature strip.text || strip.text.contains '{',
    isSignature strip.text = true

instance (inBlock : Bool) (lines : List Text) : Decidable (SignatureFirst inBlock lines) :=
  inferInstanceAs (Decidable (∀ _ ∈ _, _))

theorem signatureFirst_cons (inBlock : Bool) (line : Text) (rest : List Text) :
    SignatureFirst inBlock (line :: rest) ↔
      isSignature (stripLine inBlock line).text = true ∨
        '{' ∉ (stripLine inBlock line).text ∧ SignatureFirst (stripLine inBlock line).inBlock rest := by
  unfold SignatureFirst
  rw [stripLines, List.find?_cons]
  cases hsignature : isSignature (stripLine inBlock line).text with
  | true => simp [hsignature]
  | false =>
    by_cases hbrace : '{' ∈ (stripLine inBlock line).text
    · simp [hsignature, hbrace]
    · simp [hbrace]

namespace State

theorem events_waiting (s : State) (lines : List Text) (h : SignatureFirst s.inBlock lines) :
    s.waiting.events lines = s.events lines := by
  induction lines generalizing s with
  | nil => rfl
  | cons line rest ih =>
    rw [events, events]
    rcases (signatureFirst_cons s.inBlock line rest).mp h with hsignature | ⟨hbrace, hrest⟩
    · rw [s.advance_waiting_of_signature line hsignature,
        event?_waiting s line (by rw [s.opened_waiting_of_signature line hsignature])]
    · rw [← s.advance_inBlock line] at hrest
      rw [s.advance_waiting_of_no_brace line hbrace, ih _ hrest,
        event?_waiting s line (by rw [s.opened_waiting_of_no_brace line hbrace]; rfl)]

/-- A signature in front makes no difference to the scopes exactly if the next one to open is that of
another signature. -/
theorem scopesAt_waiting_iff (s : State) (lines : List Text) (hpending : s.pending = false) :
    s.waiting.scopesAt lines = s.scopesAt lines ↔ SignatureFirst s.inBlock lines := by
  induction lines generalizing s with
  | nil => simp [scopesAt, SignatureFirst, stripLines]
  | cons line rest ih =>
    rw [signatureFirst_cons, scopesAt, scopesAt, List.cons.injEq]
    cases hsignature : isSignature (stripLine s.inBlock line).text with
    | true =>
      simp [s.opened_waiting_of_signature line hsignature, s.advance_waiting_of_signature line hsignature]
    | false =>
      by_cases hbrace : '{' ∈ (stripLine s.inBlock line).text
      · simp [s.opened_waiting_of_brace line hpending hsignature hbrace, hbrace]
      · have hnext := ih (s.advance line).1 ((s.advance_pending line hbrace hsignature).trans hpending)
        rw [s.opened_waiting_of_no_brace line hbrace, s.advance_waiting_of_no_brace line hbrace, hnext,
          s.advance_inBlock line]
        simp [hbrace, waiting, scopes]

end State

end ScadAdvisor.Reassignment
