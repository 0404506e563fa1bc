import Mathlib.Data.List.Induction
import Mathlib.Tactic.Common
import ScadAdvisor.Reassignment.State

/-! # Scopes and braces

The scan knows of braces only their depth, and closes a body by comparing that depth with one
number. Here it is compared with a stack that remembers every open brace.
-/

namespace ScadAdvisor.Reassignment

namespace State

/-! ## What a brace does -/

theorem openBrace_cases (s : State) :
    (s.pending = true ∧ s.openBrace = { s with
      braces := s.braces + 1
      bodies := ⟨s.nextId, s.braces + 1⟩ :: s.bodies
      nextId := s.nextId + 1
      pending := false }) ∨
    (s.pending = false ∧ s.openBrace = { s with braces := s.braces + 1 }) := by
  unfold openBrace
  cases s.pending
  · exact Or.inr ⟨rfl, rfl⟩
  · exact Or.inl ⟨rfl, rfl⟩

theorem closeBrace_cases (s : State) :
    (∃ top rest, s.bodies = top :: rest ∧ top.anchor = s.braces ∧ s.closeBrace = { s with
      braces := s.braces - 1
      bodies := rest
      assigned := s.assigned.filter fun entry => entry.1.1 != top.id }) ∨
    ((∀ top ∈ s.bodies.head?, top.anchor ≠ s.braces) ∧
      s.closeBrace = { s with braces := s.braces - 1 }) := by
  unfold closeBrace
  split
  · rename_i top rest hbodies
    split
    · rename_i hanchor
      exact Or.inl ⟨top, rest, hbodies, eq_of_beq hanchor, rfl⟩
    · rename_i hanchor
      refine Or.inr ⟨?_, rfl⟩
      intro t ht
      rw [hbodies, List.head?_cons, Option.mem_some_iff] at ht
      subst ht
      simpa using hanchor
  · rename_i hbodies
    refine Or.inr ⟨?_, rfl⟩
    simp [hbodies]

/-! ## Scopes in order -/

/-- Ids grow from the global scope inwards, and the id of the next body is greater than all of
them. -/
structure Ordered (s : State) : Prop where
  ids : (s.bodies.map Scope.id).Pairwise (· > ·)
  pos : ∀ body ∈ s.bodies, 0 < body.id
  lt_nextId : ∀ body ∈ s.bodies, body.id < s.nextId
  nextId_pos : 0 < s.nextId

theorem ordered_initial : Ordered {} := ⟨by simp, by simp, by simp, by decide⟩

theorem Ordered.openBrace {s : State} (h : s.Ordered) : s.openBrace.Ordered := by
  rcases s.openBrace_cases with ⟨-, he⟩ | ⟨-, he⟩
  · rw [he]
    refine ⟨?_, ?_, ?_, Nat.succ_pos _⟩
    · simpa using ⟨h.lt_nextId, h.ids⟩
    · simpa using ⟨h.nextId_pos, h.pos⟩
    · simpa using fun body hbody => Nat.lt_succ_of_lt (h.lt_nextId body hbody)
  · rw [he]
    exact ⟨h.ids, h.pos, h.lt_nextId, h.nextId_pos⟩

theorem Ordered.closeBrace {s : State} (h : s.Ordered) : s.closeBrace.Ordered := by
  rcases s.closeBrace_cases with ⟨top, rest, hbodies, -, he⟩ | ⟨-, he⟩
  · obtain ⟨hids, hpos, hlt, hnext⟩ := h
    rw [hbodies] at hids hpos hlt
    rw [he]
    exact ⟨(List.pairwise_cons.mp hids).2, fun b hb => hpos b (by simp [hb]),
      fun b hb => hlt b (by simp [hb]), hnext⟩
  · rw [he]
    exact ⟨h.ids, h.pos, h.lt_nextId, h.nextId_pos⟩

theorem Ordered.scopes {s : State} (h : s.Ordered) : (s.scopes.map Scope.id).Pairwise (· < ·) := by
  have hrev : (s.bodies.map Scope.id).reverse.Pairwise (· < ·) := List.pairwise_reverse.mpr h.ids
  simpa [State.scopes, globalScope, hrev] using h.pos

end State

/-! ## The brace stack -/

inductive BraceOp where
  | opening
  | closing
  | pending (waiting : Bool)
deriving DecidableEq, Repr

def State.braceStep (s : State) : BraceOp → State
  | .opening => s.openBrace
  | .closing => s.closeBrace
  | .pending waiting => { s with pending := waiting }

/-- All open braces. Those that opened a body are marked with its id. -/
structure BraceStack where
  /-- The innermost brace comes first. -/
  frames : List (Option Nat) := []
  pending : Bool := false
  opened : Nat := 0
deriving DecidableEq, Repr

namespace BraceStack

def step (b : BraceStack) : BraceOp → BraceStack
  | .opening =>
    if b.pending then
      { frames := some (b.opened + 1) :: b.frames, pending := false, opened := b.opened + 1 }
    else { b with frames := none :: b.frames }
  | .closing => { b with frames := b.frames.tail }
  | .pending waiting => { b with pending := waiting }

/-- The marked braces from the outermost one inwards, each with its height in the stack. -/
def bodies (b : BraceStack) : List Scope :=
  (b.frames.reverse.zipIdx 1).filterMap fun (mark, height) => mark.map fun id => ⟨id, height⟩

@[simp] theorem bodies_cons (mark : Option Nat) (frames : List (Option Nat)) (pending : Bool) (opened : Nat) :
    bodies ⟨mark :: frames, pending, opened⟩ =
      bodies ⟨frames, pending, opened⟩ ++
        (mark.map fun id => (⟨id, frames.length + 1⟩ : Scope)).toList := by
  unfold bodies
  rw [List.reverse_cons, List.zipIdx_append, List.filterMap_append, List.length_reverse]
  cases mark <;> simp [Nat.add_comm]

theorem bodies_anchor_le (b : BraceStack) (scope : Scope) (h : scope ∈ b.bodies) :
    scope.anchor ≤ b.frames.length := by
  unfold bodies at h
  obtain ⟨⟨mark, height⟩, hmem, hscope⟩ := List.mem_filterMap.mp h
  obtain ⟨id, -, rfl⟩ := Option.map_eq_some_iff.mp hscope
  have hlt := (List.mem_zipIdx hmem).2.1
  rw [List.length_reverse] at hlt
  show height ≤ b.frames.length
  omega

end BraceStack

/-! ## Refinement -/

/-- The scan's counters and bodies are what the brace stack says. -/
structure Refines (s : State) (b : BraceStack) : Prop where
  braces : s.braces = b.frames.length
  bodies : s.bodies = b.bodies.reverse
  nextId : s.nextId = b.opened + 1
  pending : s.pending = b.pending

namespace Refines

theorem opening {s : State} {b : BraceStack} (h : Refines s b) :
    Refines s.openBrace (b.step .opening) := by
  obtain ⟨frames, pending, opened⟩ := b
  obtain ⟨hbraces, hbodies, hnext, hpending⟩ := h
  rcases s.openBrace_cases with ⟨hp, he⟩ | ⟨hp, he⟩
  · obtain rfl : pending = true := by rw [← hp, hpending]
    rw [he]
    refine ⟨by simp [BraceStack.step, hbraces], ?_, by simp [BraceStack.step, hnext], rfl⟩
    rw [BraceStack.step, if_pos rfl, BraceStack.bodies_cons]
    simp only [hbraces, hbodies, hnext]
    simp [BraceStack.bodies]
  · obtain rfl : pending = false := by rw [← hp, hpending]
    rw [he]
    refine ⟨by simp [BraceStack.step, hbraces], ?_, hnext, hpending⟩
    simp only [BraceStack.step, Bool.false_eq_true, if_false, BraceStack.bodies_cons]
    simpa using hbodies

theorem closeBrace_unmarked {s : State} {b : BraceStack} {frames : List (Option Nat)} (h : Refines s b)
    (hframes : b.frames = none :: frames) : s.closeBrace = { s with braces := s.braces - 1 } := by
  obtain ⟨_, pending, opened⟩ := b
  obtain rfl : _ = none :: frames := hframes
  have hbraces : s.braces = frames.length + 1 := h.braces
  have hbodies : s.bodies = (BraceStack.bodies ⟨frames, pending, opened⟩).reverse := by
    rw [h.bodies, BraceStack.bodies_cons]
    simp
  rcases s.closeBrace_cases with ⟨top, rest, htop, hanchor, -⟩ | ⟨-, he⟩
  · -- The anchors of the bodies around a bare block are below its depth.
    have hmem : top ∈ BraceStack.bodies ⟨frames, pending, opened⟩ := by
      rw [← List.mem_reverse, ← hbodies, htop]
      exact List.mem_cons_self
    have hle := BraceStack.bodies_anchor_le _ _ hmem
    dsimp only at hle
    omega
  · exact he

theorem closeBrace_marked {s : State} {b : BraceStack} {id : Nat} {frames : List (Option Nat)}
    (h : Refines s b) (hframes : b.frames = some id :: frames) :
    s.closeBrace = { s with
      braces := s.braces - 1
      bodies := s.bodies.tail
      assigned := s.assigned.filter fun entry => entry.1.1 != id } := by
  obtain ⟨_, pending, opened⟩ := b
  obtain rfl : _ = some id :: frames := hframes
  have hbraces : s.braces = frames.length + 1 := h.braces
  have htop : s.bodies = ⟨id, frames.length + 1⟩ ::
      (BraceStack.bodies ⟨frames, pending, opened⟩).reverse := by
    rw [h.bodies, BraceStack.bodies_cons]
    simp
  rcases s.closeBrace_cases with ⟨top, rest, hcons, -, he⟩ | ⟨hne, -⟩
  · rw [htop] at hcons
    cases hcons
    rw [he, htop]
    rfl
  · rw [htop] at hne
    exact absurd hbraces.symm (hne _ rfl)

theorem closing {s : State} {b : BraceStack} (h : Refines s b) :
    Refines s.closeBrace (b.step .closing) := by
  obtain ⟨frames, pending, opened⟩ := b
  have hbodies := h.bodies
  cases frames with
  | nil =>
    -- No brace is open, so the depth stays at zero.
    rcases s.closeBrace_cases with ⟨top, rest, htop, -, -⟩ | ⟨-, he⟩
    · simp [hbodies, BraceStack.bodies] at htop
    · rw [he]
      exact ⟨by simp [BraceStack.step, h.braces], hbodies, h.nextId, h.pending⟩
  | cons mark frames =>
    have hdepth : s.braces - 1 = frames.length := by simp [h.braces]
    rw [BraceStack.bodies_cons] at hbodies
    cases mark with
    | none =>
      rw [h.closeBrace_unmarked rfl]
      exact ⟨hdepth, by simpa [BraceStack.step] using hbodies, h.nextId, h.pending⟩
    | some id =>
      rw [h.closeBrace_marked rfl]
      exact ⟨hdepth, by simp [hbodies, BraceStack.step], h.nextId, h.pending⟩

theorem braceStep {s : State} {b : BraceStack} (h : Refines s b) (op : BraceOp) :
    Refines (s.braceStep op) (b.step op) := by
  cases op with
  | opening => exact h.opening
  | closing => exact h.closing
  | pending waiting => exact ⟨h.braces, h.bodies, h.nextId, rfl⟩

theorem run (ops : List BraceOp) :
    Refines (ops.foldl State.braceStep {}) (ops.foldl BraceStack.step {}) := by
  induction ops using List.reverseRecOn with
  | nil => exact ⟨rfl, rfl, rfl, rfl⟩
  | append_singleton ops op ih =>
    rw [List.foldl_append, List.foldl_append]
    exact ih.braceStep op

theorem scopes {s : State} {b : BraceStack} (h : Refines s b) : s.scopes = globalScope :: b.bodies := by
  simp [State.scopes, h.bodies]

/-- The scope that a closing brace ends is the one that its opening brace began, if there is one. -/
theorem scopes_closing {s : State} {b : BraceStack} (h : Refines s b) :
    s.scopes = s.closeBrace.scopes ++
      (b.frames.head?.join.map fun id => (⟨id, b.frames.length⟩ : Scope)).toList := by
  rw [h.scopes, h.closing.scopes]
  obtain ⟨frames, pending, opened⟩ := b
  cases frames with
  | nil => rfl
  | cons mark frames => rw [BraceStack.bodies_cons]; rfl

end Refines

theorem State.ordered_run (ops : List BraceOp) : (ops.foldl State.braceStep {}).Ordered := by
  induction ops using List.reverseRecOn with
  | nil => exact State.ordered_initial
  | append_singleton ops op ih =>
    rw [List.foldl_append]
    cases op with
    | opening => exact ih.openBrace
    | closing => exact ih.closeBrace
    | pending waiting => exact ⟨ih.ids, ih.pos, ih.lt_nextId, ih.nextId_pos⟩

/-- After any braces and signatures the depth is the height of the brace stack and the scopes are the
global one and the marked braces, anchored at their heights, with growing ids. So a closing brace
ends a scope exactly if its opening brace began that scope, and the global scope never ends. -/
theorem scopes_eq_braceStack (ops : List BraceOp) :
    let s := ops.foldl State.braceStep {}
    let b := ops.foldl BraceStack.step {}
    s.braces = b.frames.length ∧ s.scopes = globalScope :: b.bodies ∧
      (s.scopes.map Scope.id).Pairwise (· < ·) ∧ s.nextId = b.opened + 1 ∧ s.pending = b.pending ∧
      (∀ scope, s.scopes = s.closeBrace.scopes ++ [scope] ↔
        ∃ id, b.frames.head? = some (some id) ∧ scope = ⟨id, b.frames.length⟩) ∧
      (s.closeBrace.scopes = s.scopes ↔ ∀ id, b.frames.head? ≠ some (some id)) ∧
      s.closeBrace.scopes.head? = some globalScope := by
  intro s b
  have h : Refines s b := Refines.run ops
  have hclosing := h.scopes_closing
  refine ⟨h.braces, h.scopes, (State.ordered_run ops).scopes, h.nextId, h.pending, ?_, ?_, rfl⟩
  · intro scope
    rw [hclosing, List.append_cancel_left_eq]
    rcases b.frames.head? with _ | _ | id <;> simp [eq_comm]
  · rw [hclosing]
    rcases b.frames.head? with _ | _ | id <;> simp

end ScadAdvisor.Reassignment
