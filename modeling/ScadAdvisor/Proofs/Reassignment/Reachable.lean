import ScadAdvisor.Proofs.Reassignment.Events

/-! # States that a scan can come to

A state can be fed lines, and whoever holds it can also count braces and parentheses by hand.
-/

namespace ScadAdvisor.Reassignment

namespace State

inductive Reachable : State → Prop where
  | initial : Reachable {}
  | line (s : State) (line : Text) (h : Reachable s) : Reachable (s.advance line).1
  | opening (s : State) (h : Reachable s) : Reachable s.openBrace
  | closing (s : State) (h : Reachable s) : Reachable s.closeBrace
  | parens (s : State) (text : Text) (h : Reachable s) : Reachable (s.countParens text)
  | pending (s : State) (waiting : Bool) (h : Reachable s) : Reachable { s with pending := waiting }

theorem reachable_advanceAll (s : State) (lines : List Text) (h : s.Reachable) :
    (s.advanceAll lines).1.Reachable := by
  induction lines generalizing s with
  | nil => exact h
  | cons line rest ih => exact ih _ (.line s line h)

/-! ## A history -/

theorem Reachable.recorded {s : State} (h : s.Reachable) : ∃ history, Recorded history s := by
  induction h with
  | initial => exact ⟨[], Recorded.initial⟩
  | line s line _ ih =>
    obtain ⟨history, hs⟩ := ih
    exact ⟨_, (hs.advance line).1⟩
  | opening s _ ih =>
    obtain ⟨history, hs⟩ := ih
    exact ⟨history, hs.openBrace⟩
  | closing s _ ih =>
    obtain ⟨history, hs⟩ := ih
    exact ⟨history, hs.closeBrace⟩
  | parens s text _ ih =>
    obtain ⟨history, hs⟩ := ih
    exact ⟨history, hs.congr rfl rfl rfl⟩
  | pending s waiting _ ih =>
    obtain ⟨history, hs⟩ := ih
    exact ⟨history, hs.congr rfl rfl rfl⟩

end State

theorem Recorded.assigned_lt {history : List Event} {s : State} (h : Recorded history s)
    (entry : (Nat × Text) × Record) (hentry : entry ∈ s.assigned) : entry.1.1 < s.nextId := by
  obtain ⟨⟨id, name⟩, record⟩ := entry
  show id < s.nextId
  by_contra hle
  have hnone : s.assigned.lookup (id, name) = none := by
    rw [h.record id name (Or.inr (by omega)), Option.map_eq_none_iff, List.find?_eq_none]
    intro e he hkey
    have hscope := h.scope_lt e he
    rw [beq_iff_eq, Event.key, Prod.mk.injEq] at hkey
    omega
  have := List.lookup_eq_none_iff.mp hnone _ hentry
  simp at this

/-! ## A brace stack -/

namespace Refines

theorem congr {s t : State} {b : BraceStack} (h : Refines s b) (hbraces : t.braces = s.braces)
    (hbodies : t.bodies = s.bodies) (hnext : t.nextId = s.nextId) :
    Refines t { b with pending := t.pending } :=
  ⟨hbraces.trans h.braces, hbodies.trans h.bodies, hnext.trans h.nextId, rfl⟩

theorem openBraces (n : Nat) {s : State} {b : BraceStack} (h : Refines s b) :
    ∃ b', Refines (State.openBraces n s) b' := by
  induction n generalizing s b with
  | zero => exact ⟨b, h⟩
  | succ n ih => exact ih h.opening

theorem closeBraces (n : Nat) {s : State} {b : BraceStack} (h : Refines s b) :
    ∃ b', Refines (State.closeBraces n s) b' := by
  induction n generalizing s b with
  | zero => exact ⟨b, h⟩
  | succ n ih => exact ih h.closing

theorem advance {s : State} {b : BraceStack} (h : Refines s b) (line : Text) :
    ∃ b', Refines (s.advance line).1 b' := by
  obtain ⟨assigned, hadvance⟩ := s.advance_fst line
  obtain ⟨_, hopened⟩ : ∃ b', Refines (s.opened line) b' := openBraces _ (h.congr rfl rfl rfl)
  obtain ⟨_, hclosed⟩ := closeBraces ((stripLine s.inBlock line).text.count '}')
    (hopened.congr rfl rfl rfl : Refines
      (((s.opened line).withRecords assigned).countParens (stripLine s.inBlock line).text) _)
  rw [hadvance]
  exact ⟨_, hclosed.congr rfl rfl rfl⟩

end Refines

theorem State.Reachable.refines {s : State} (h : s.Reachable) : ∃ b, Refines s b := by
  induction h with
  | initial => exact ⟨{}, ⟨rfl, rfl, rfl, rfl⟩⟩
  | line s line _ ih =>
    obtain ⟨b, hs⟩ := ih
    exact hs.advance line
  | opening s _ ih =>
    obtain ⟨b, hs⟩ := ih
    exact ⟨_, hs.opening⟩
  | closing s _ ih =>
    obtain ⟨b, hs⟩ := ih
    exact ⟨_, hs.closing⟩
  | parens s text _ ih =>
    obtain ⟨b, hs⟩ := ih
    exact ⟨_, hs.congr rfl rfl rfl⟩
  | pending s waiting _ ih =>
    obtain ⟨b, hs⟩ := ih
    exact ⟨_, hs.congr rfl rfl rfl⟩

/-! ## Ids -/

namespace State

/-- A scope with this id is open, or may still be opened. -/
def Ahead (s : State) (id : Nat) : Prop := s.Live id ∨ s.nextId ≤ id

theorem ahead_iff (s : State) (id : Nat) :
    s.Ahead id ↔ id = 0 ∨ id ∈ s.bodies.map Scope.id ∨ s.nextId ≤ id := by
  rw [Ahead, live_iff, or_assoc]

theorem Ahead.congr {s t : State} {id : Nat} (h : t.Ahead id) (hbodies : t.bodies = s.bodies)
    (hnext : t.nextId = s.nextId) : s.Ahead id := by
  rw [ahead_iff] at h ⊢
  rwa [← hbodies, ← hnext]

theorem ahead_openBrace (s : State) (id : Nat) (h : s.openBrace.Ahead id) : s.Ahead id := by
  rcases s.openBrace_cases with ⟨-, he⟩ | ⟨-, he⟩
  · rw [ahead_iff] at h ⊢
    simp only [he, List.map_cons, List.mem_cons] at h
    rcases h with h | (h | h) | h
    · exact Or.inl h
    · exact Or.inr (Or.inr (by omega))
    · exact Or.inr (Or.inl h)
    · exact Or.inr (Or.inr (by omega))
  · rw [he] at h
    exact h.congr rfl rfl

theorem ahead_closeBrace (s : State) (id : Nat) (h : s.closeBrace.Ahead id) : s.Ahead id := by
  rcases s.closeBrace_cases with ⟨top, rest, hbodies, -, he⟩ | ⟨-, he⟩
  · rw [ahead_iff] at h ⊢
    simp only [he] at h
    simp only [hbodies, List.map_cons, List.mem_cons]
    tauto
  · rw [he] at h
    exact h.congr rfl rfl

theorem ahead_openBraces (n : Nat) (s : State) (id : Nat) (h : (openBraces n s).Ahead id) :
    s.Ahead id := by
  induction n generalizing s with
  | zero => exact h
  | succ n ih => exact s.ahead_openBrace id (ih _ h)

theorem ahead_closeBraces (n : Nat) (s : State) (id : Nat) (h : (closeBraces n s).Ahead id) :
    s.Ahead id := by
  induction n generalizing s with
  | zero => exact h
  | succ n ih => exact s.ahead_closeBrace id (ih _ h)

theorem ahead_opened (s : State) (line : Text) (id : Nat) (h : (s.opened line).Ahead id) :
    s.Ahead id :=
  (ahead_openBraces _ _ id h).congr rfl rfl

theorem ahead_advance (s : State) (line : Text) (id : Nat) (h : (s.advance line).1.Ahead id) :
    s.Ahead id := by
  obtain ⟨assigned, hadvance⟩ := s.advance_fst line
  rw [hadvance, finish] at h
  exact s.ahead_opened line id ((ahead_closeBraces _ _ id (h.congr rfl rfl)).congr rfl rfl)

/-- No line makes an assignment in a scope that was closed before it. -/
theorem ahead_events (s : State) (lines : List Text) (e : Event) (h : e ∈ s.events lines) :
    s.Ahead e.scope := by
  induction lines generalizing s with
  | nil => simp [events] at h
  | cons line rest ih =>
    rw [events, List.mem_append] at h
    rcases h with h | h
    · exact s.ahead_opened line _ (Or.inl (Recorded.live_event (by simpa using h)))
    · exact s.ahead_advance line _ (ih _ h)

end State

end ScadAdvisor.Reassignment
