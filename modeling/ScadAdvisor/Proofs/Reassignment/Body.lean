import ScadAdvisor.Proofs.Reassignment.Reachable
import ScadAdvisor.Proofs.Reassignment.Reading

/-! # A body from its signature to its last brace

Between the two, everything happens above the braces that were open before: what is opened there is
closed there, and what is recorded there is forgotten there.
-/

namespace ScadAdvisor.Reassignment

/-! ## Lines that are a body -/

/-- How many more braces the lines open than they close, when their comments are gone. -/
def braceBalance : Bool → List Text → Int
  | _, [] => 0
  | inBlock, line :: rest =>
    let strip := stripLine inBlock line
    strip.text.count '{' - strip.text.count '}' + braceBalance strip.inBlock rest

@[simp] theorem braceBalance_cons (inBlock : Bool) (line : Text) (rest : List Text) :
    braceBalance inBlock (line :: rest) =
      ((stripLine inBlock line).text.count '{' : Int) - ((stripLine inBlock line).text.count '}' : Int) +
        braceBalance (stripLine inBlock line).inBlock rest := rfl

/-- A signature and its body: the body opens on the line of the signature, is open behind every line
but the last, and is closed behind the last one. -/
structure IsBody (inBlock : Bool) (lines : List Text) : Prop where
  signature : ∃ line ∈ lines.head?, isSignature (stripLine inBlock line).text = true ∧
    '{' ∈ (stripLine inBlock line).text
  inside : ∀ k < lines.length, 0 < k → 1 ≤ braceBalance inBlock (lines.take k)
  closed : braceBalance inBlock lines = 0

/-! ## What a body has on the brace stack -/

theorem getLast?_cons_ne_none (mark : Option Nat) (inner : List (Option Nat)) :
    (mark :: inner).getLast? ≠ some none ↔
      (inner = [] → mark ≠ none) ∧ inner.getLast? ≠ some none := by
  cases inner <;> simp [List.getLast?_cons]

theorem BraceStack.bodies_getLast? (inner outer : List (Option Nat)) (pending : Bool) (opened : Nat)
    (hne : inner ≠ []) (hlast : inner.getLast? ≠ some none) :
    ∃ body, (bodies ⟨inner ++ outer, pending, opened⟩).getLast? = some body ∧ some body.id ∈ inner := by
  induction inner with
  | nil => exact absurd rfl hne
  | cons mark rest ih =>
    rw [List.cons_append, bodies_cons]
    cases mark with
    | some id => exact ⟨⟨id, (rest ++ outer).length + 1⟩, by simp, by simp⟩
    | none =>
      rw [getLast?_cons_ne_none] at hlast
      obtain ⟨body, hbody, hmem⟩ := ih (fun hrest => hlast.1 hrest rfl) hlast.2
      exact ⟨body, by simpa using hbody, List.mem_cons_of_mem _ hmem⟩

theorem Refines.current_mem {s : State} {b : BraceStack} {inner outer : List (Option Nat)}
    (h : Refines s b) (hframes : b.frames = inner ++ outer) (hne : inner ≠ [])
    (hlast : inner.getLast? ≠ some none) : some s.current.id ∈ inner := by
  obtain ⟨_, pending, opened⟩ := b
  obtain rfl : _ = inner ++ outer := hframes
  obtain ⟨body, hbody, hmem⟩ := BraceStack.bodies_getLast? inner outer pending opened hne hlast
  rw [State.current, h.bodies, List.head?_reverse, hbody]
  exact hmem

/-- The braces `inner` have been opened since `s`, the outermost of them for a body. The records are
those of `s` and some of the bodies among `inner`, which are all newer than `s`. -/
structure Inside (s : State) (outer inner : List (Option Nat)) (t : State) : Prop where
  stack : ∃ b, Refines t b ∧ b.frames = inner ++ outer
  outermost : inner.getLast? ≠ some none
  fresh : ∀ id, some id ∈ inner → s.nextId ≤ id
  records : ∃ own, t.assigned = s.assigned ++ own ∧ ∀ entry ∈ own, some entry.1.1 ∈ inner
  nextId : s.nextId ≤ t.nextId

namespace Inside

theorem refl {s : State} {b : BraceStack} (h : Refines s b) : Inside s b.frames [] s where
  stack := ⟨b, h, rfl⟩
  outermost := by simp
  fresh := by simp
  records := ⟨[], by simp, by simp⟩
  nextId := Nat.le_refl _

theorem congr {s t u : State} {outer inner : List (Option Nat)} (h : Inside s outer inner t)
    (hbraces : u.braces = t.braces) (hbodies : u.bodies = t.bodies) (hnext : u.nextId = t.nextId)
    (hassigned : u.assigned = t.assigned) : Inside s outer inner u := by
  obtain ⟨b, hb, hframes⟩ := h.stack
  refine ⟨⟨_, hb.congr hbraces hbodies hnext, hframes⟩, h.outermost, h.fresh, ?_, ?_⟩
  · rw [hassigned]
    exact h.records
  · rw [hnext]
    exact h.nextId

theorem openBrace {s t : State} {outer inner : List (Option Nat)} (h : Inside s outer inner t)
    (hbody : inner ≠ [] ∨ t.pending = true) :
    ∃ mark, Inside s outer (mark :: inner) t.openBrace := by
  obtain ⟨b, hb, hframes⟩ := h.stack
  obtain ⟨own, hown, hmem⟩ := h.records
  have hnext := h.nextId
  have hstep := hb.opening
  rw [BraceStack.step] at hstep
  rcases t.openBrace_cases with ⟨hp, he⟩ | ⟨hp, he⟩
  · -- The new body has the next id.
    have hid : b.opened + 1 = t.nextId := hb.nextId.symm
    rw [if_pos (by rw [← hb.pending, hp]), hid, hframes] at hstep
    refine ⟨some t.nextId, ⟨_, hstep, rfl⟩, ?_, ?_, ?_, ?_⟩
    · exact (getLast?_cons_ne_none _ _).mpr ⟨fun _ => Option.some_ne_none _, h.outermost⟩
    · intro id hid
      rcases List.mem_cons.mp hid with hid | hid
      · cases hid
        exact hnext
      · exact h.fresh id hid
    · rw [he]
      exact ⟨own, hown, fun entry hentry => List.mem_cons_of_mem _ (hmem entry hentry)⟩
    · rw [he]
      exact Nat.le_succ_of_le hnext
  · have hne : inner ≠ [] := hbody.resolve_right (by simp [hp])
    rw [if_neg (by rw [← hb.pending, hp]; exact Bool.false_ne_true), hframes] at hstep
    refine ⟨none, ⟨_, hstep, rfl⟩, ?_, ?_, ?_, ?_⟩
    · exact (getLast?_cons_ne_none _ _).mpr ⟨fun hnil => absurd hnil hne, h.outermost⟩
    · simpa using h.fresh
    · rw [he]
      exact ⟨own, hown, fun entry hentry => List.mem_cons_of_mem _ (hmem entry hentry)⟩
    · rw [he]
      exact hnext

/-- Closing a brace of `inner` leaves the records of `s` alone: none of them has a new id. -/
theorem closeBrace {s t : State} {outer inner : List (Option Nat)} {mark : Option Nat}
    (h : Inside s outer (mark :: inner) t) (hs : ∀ entry ∈ s.assigned, entry.1.1 < s.nextId) :
    Inside s outer inner t.closeBrace := by
  obtain ⟨b, hb, hframes⟩ := h.stack
  obtain ⟨own, hown, hmem⟩ := h.records
  have hlast := ((getLast?_cons_ne_none mark inner).mp h.outermost).2
  have hfresh : ∀ id, some id ∈ inner → s.nextId ≤ id :=
    fun id hid => h.fresh id (List.mem_cons_of_mem _ hid)
  have hstack : ∃ b, Refines t.closeBrace b ∧ b.frames = inner ++ outer :=
    ⟨_, hb.closing, by simp [BraceStack.step, hframes]⟩
  cases mark with
  | none =>
    have hclose := hb.closeBrace_unmarked hframes
    refine ⟨hstack, hlast, hfresh, ?_, ?_⟩
    · rw [hclose]
      exact ⟨own, hown, fun entry hentry => by simpa using hmem entry hentry⟩
    · rw [hclose]
      exact h.nextId
  | some id =>
    have hclose := hb.closeBrace_marked hframes
    have hkept : ∀ entry ∈ s.assigned, (entry.1.1 != id) = true := by
      intro entry hentry
      have hlt := hs entry hentry
      have hle := h.fresh id List.mem_cons_self
      rw [bne_iff_ne]
      omega
    refine ⟨hstack, hlast, hfresh, ⟨own.filter fun entry => entry.1.1 != id, ?_, ?_⟩, ?_⟩
    · rw [hclose]
      show t.assigned.filter _ = _
      rw [hown, List.filter_append, List.filter_eq_self.mpr hkept]
    · intro entry hentry
      rw [List.mem_filter, bne_iff_ne] at hentry
      simpa [hentry.2] using hmem entry hentry.1
    · rw [hclose]
      exact h.nextId

theorem openBraces {s t : State} {outer inner : List (Option Nat)} (n : Nat)
    (h : Inside s outer inner t) (hbody : inner ≠ [] ∨ t.pending = true) :
    ∃ new, new.length = n ∧ Inside s outer (new ++ inner) (State.openBraces n t) := by
  induction n generalizing t inner with
  | zero => exact ⟨[], rfl, h⟩
  | succ n ih =>
    obtain ⟨mark, hopen⟩ := h.openBrace hbody
    obtain ⟨new, hlen, hnew⟩ := ih hopen (Or.inl (by simp))
    refine ⟨new ++ [mark], by simp [hlen], ?_⟩
    rw [List.append_assoc]
    exact hnew

theorem closeBraces {s t : State} {outer inner : List (Option Nat)} (n : Nat)
    (h : Inside s outer inner t) (hs : ∀ entry ∈ s.assigned, entry.1.1 < s.nextId)
    (hn : n ≤ inner.length) : Inside s outer (inner.drop n) (State.closeBraces n t) := by
  induction n generalizing t inner with
  | zero => exact h
  | succ n ih =>
    cases inner with
    | nil => simp at hn
    | cons mark inner => exact ih (h.closeBrace hs) (by simpa using hn)

theorem enter {s t : State} {outer inner : List (Option Nat)} {e : Event} (h : Inside s outer inner t)
    (he : some e.scope ∈ inner) : Inside s outer inner (t.enter e).1 := by
  unfold State.enter
  split
  · exact h
  · obtain ⟨b, hb, hframes⟩ := h.stack
    obtain ⟨own, hown, hmem⟩ := h.records
    refine ⟨⟨_, hb.congr rfl rfl rfl, hframes⟩, h.outermost, h.fresh,
      ⟨own ++ [(e.key, e.record)], by simp [hown], ?_⟩, h.nextId⟩
    intro entry hentry
    rcases List.mem_append.mp hentry with hentry | hentry
    · exact hmem entry hentry
    · rw [List.mem_singleton.mp hentry]
      exact he

theorem opened {s t : State} {outer inner : List (Option Nat)} (line : Text)
    (h : Inside s outer inner t)
    (hbody : inner ≠ [] ∨ isSignature (stripLine t.inBlock line).text = true ∧
      '{' ∈ (stripLine t.inBlock line).text) :
    ∃ inner', inner'.length = inner.length + (stripLine t.inBlock line).text.count '{' ∧ inner' ≠ [] ∧
      Inside s outer inner' (t.opened line) := by
  obtain ⟨new, hlen, hopened⟩ : ∃ new,
      new.length = (stripLine t.inBlock line).text.count '{' ∧
      Inside s outer (new ++ inner) (t.opened line) := by
    unfold State.opened
    refine openBraces _ (h.congr ?_ ?_ ?_ ?_) ?_
    any_goals rfl
    rcases hbody with hne | ⟨hsignature, -⟩
    · exact Or.inl hne
    · exact Or.inr (by simp [hsignature])
  refine ⟨new ++ inner, by rw [List.length_append]; omega, ?_, hopened⟩
  rcases hbody with hne | ⟨-, hbrace⟩
  · simp [hne]
  · have hpos := List.count_pos_iff.mpr hbrace
    rw [← hlen, List.length_pos_iff] at hpos
    simp [hpos]

theorem finish {s t : State} {outer inner : List (Option Nat)} (working line : Text)
    (h : Inside s outer inner t) (hs : ∀ entry ∈ s.assigned, entry.1.1 < s.nextId)
    (hclose : working.count '}' ≤ inner.length) :
    Inside s outer (inner.drop (working.count '}')) (t.finish working line) := by
  have hcounted : Inside s outer inner (t.countParens working) := h.congr rfl rfl rfl rfl
  exact (hcounted.closeBraces _ hs hclose).congr rfl rfl rfl rfl

/-- One line. A body must be open before it, or open on it; then its assignment is made in a body. -/
theorem advance {s t : State} {outer inner : List (Option Nat)} (line : Text)
    (h : Inside s outer inner t) (hs : ∀ entry ∈ s.assigned, entry.1.1 < s.nextId)
    (hbody : inner ≠ [] ∨ isSignature (stripLine t.inBlock line).text = true ∧
      '{' ∈ (stripLine t.inBlock line).text)
    (hclose : (stripLine t.inBlock line).text.count '}' ≤
      inner.length + (stripLine t.inBlock line).text.count '{') :
    (∀ e ∈ t.event? line, s.nextId ≤ e.scope) ∧
      ∃ inner', inner'.length + (stripLine t.inBlock line).text.count '}' =
          inner.length + (stripLine t.inBlock line).text.count '{' ∧
        Inside s outer inner' (t.advance line).1 := by
  obtain ⟨inner', hlen, hne, hopened⟩ := h.opened line hbody
  have hevent : ∀ e ∈ t.event? line, some e.scope ∈ inner' := by
    intro e he
    obtain ⟨a, -, rfl⟩ := t.event?_eq_some line e he
    obtain ⟨b, hb, hframes⟩ := hopened.stack
    exact hb.current_mem hframes hne hopened.outermost
  rw [← hlen] at hclose ⊢
  refine ⟨fun e he => hopened.fresh _ (hevent e he),
    inner'.drop ((stripLine t.inBlock line).text.count '}'), ?_, ?_⟩
  · rw [List.length_drop]
    omega
  · rw [State.advance_eq]
    cases he : t.event? line with
    | none => exact hopened.finish _ _ hs hclose
    | some e => exact (hopened.enter (hevent e he)).finish _ _ hs hclose

/-- Line after line, as long as the body stays open behind each of them but the last. -/
theorem advanceAll {s t : State} {outer inner : List (Option Nat)} (lines : List Text)
    (h : Inside s outer inner t) (hs : ∀ entry ∈ s.assigned, entry.1.1 < s.nextId)
    (hfirst : ∀ line ∈ lines.head?, inner ≠ [] ∨ isSignature (stripLine t.inBlock line).text = true ∧
      '{' ∈ (stripLine t.inBlock line).text)
    (hinside : ∀ k < lines.length, 0 < k → 1 ≤ inner.length + braceBalance t.inBlock (lines.take k))
    (hend : 0 ≤ inner.length + braceBalance t.inBlock lines) :
    (∀ e ∈ t.events lines, s.nextId ≤ e.scope) ∧
      ∃ inner', (inner'.length : Int) = inner.length + braceBalance t.inBlock lines ∧
        Inside s outer inner' (t.advanceAll lines).1 := by
  induction lines generalizing t inner with
  | nil => exact ⟨by simp [State.events], inner, by simp [braceBalance], h⟩
  | cons line rest ih =>
    have hbehind : 0 ≤ (inner.length : Int) + braceBalance t.inBlock [line] := by
      cases rest with
      | nil => exact hend
      | cons _ _ => exact Int.le_trans (by decide) (hinside 1 (by simp) (by decide))
    have hnil : ∀ inBlock, braceBalance inBlock [] = 0 := fun _ => rfl
    rw [braceBalance_cons, hnil] at hbehind
    obtain ⟨hevent, inner', hlen, hnext⟩ := h.advance line hs (hfirst line rfl) (by omega)
    -- What the rest of the lines starts from is the balance behind this one.
    have hbalance : ∀ lines, inner.length + braceBalance t.inBlock (line :: lines) =
        inner'.length + braceBalance (t.advance line).1.inBlock lines := by
      intro lines
      rw [braceBalance_cons, t.advance_inBlock line]
      omega
    have hinside' : ∀ k < rest.length,
        1 ≤ inner'.length + braceBalance (t.advance line).1.inBlock (rest.take k) := by
      intro k hk
      rw [← hbalance, ← List.take_succ_cons]
      exact hinside (k + 1) (by simpa using hk) (by omega)
    rw [hbalance] at hend ⊢
    obtain ⟨hevents, hrest⟩ := ih hnext
      (fun next hnext => by
        obtain ⟨more, rfl⟩ := List.head?_eq_some_iff.mp hnext
        have hopen := hinside' 0 (by simp)
        rw [List.take_zero, hnil] at hopen
        exact Or.inl (List.length_pos_iff.mp (by omega)))
      (fun k hk _ => hinside' k hk) hend
    refine ⟨?_, hrest⟩
    intro e he
    rw [State.events, List.mem_append] at he
    rcases he with he | he
    · exact hevent e (by simpa using he)
    · exact hevents e he

/-- When all of them are closed again, nothing is left of them. -/
theorem restored {s t : State} {b : BraceStack} (h : Inside s b.frames [] t) (hs : Refines s b) :
    t.scopes = s.scopes ∧ t.braces = s.braces ∧ t.assigned = s.assigned := by
  obtain ⟨b', hb', hframes⟩ := h.stack
  obtain ⟨own, hown, hmem⟩ := h.records
  obtain rfl : own = [] := List.eq_nil_iff_forall_not_mem.mpr fun entry hentry => by
    simpa using hmem entry hentry
  refine ⟨?_, ?_, by simpa using hown⟩
  · rw [hb'.scopes, hs.scopes, BraceStack.bodies, BraceStack.bodies, hframes, List.nil_append]
  · rw [hb'.braces, hs.braces, hframes, List.nil_append]

end Inside

/-! ## The whole body -/

theorem IsBody.balance_nonneg {inBlock : Bool} {lines : List Text} (h : IsBody inBlock lines) (k : Nat) :
    0 ≤ braceBalance inBlock (lines.take k) := by
  rcases Nat.lt_or_ge k lines.length with hk | hk
  · rcases Nat.eq_zero_or_pos k with rfl | hpos
    · exact Int.le_refl 0
    · exact Int.le_trans (by decide) (h.inside k hk hpos)
  · rw [List.take_of_length_le hk]
    exact Int.le_of_eq h.closed.symm

theorem IsBody.inside_take {s : State} {b : BraceStack} {lines : List Text}
    (h : IsBody s.inBlock lines) (hb : Refines s b) (hs : ∀ entry ∈ s.assigned, entry.1.1 < s.nextId)
    (k : Nat) :
    (∀ e ∈ s.events (lines.take k), s.nextId ≤ e.scope) ∧
      ∃ inner : List (Option Nat), (inner.length : Int) = braceBalance s.inBlock (lines.take k) ∧
        Inside s b.frames inner (s.advanceAll (lines.take k)).1 := by
  have hrun := (Inside.refl hb).advanceAll (lines.take k) hs
  simp only [List.length_nil, Int.ofNat_zero, Int.zero_add] at hrun
  apply hrun
  · obtain ⟨line, hline, hsignature⟩ := h.signature
    intro first hfirst
    rw [List.head?_take] at hfirst
    split at hfirst
    · cases hfirst
    · rw [Option.mem_unique hfirst hline]
      exact Or.inr hsignature
  · intro j hj hpos
    rw [List.length_take] at hj
    rw [List.take_take, Nat.min_eq_left (by omega)]
    exact h.inside j (by omega) hpos
  · exact h.balance_nonneg k

theorem repeatsAfter_append_of_ne (history own events : List Event)
    (h : ∀ e ∈ events, ∀ f ∈ history, f.scope ≠ e.scope) :
    repeatsAfter (history ++ own) events = repeatsAfter own events := by
  induction events generalizing own with
  | nil => rfl
  | cons e rest ih =>
    have hnone : history.find? (·.key == e.key) = none := by
      rw [List.find?_eq_none]
      intro f hf hkey
      rw [beq_iff_eq, Event.key, Event.key, Prod.mk.injEq] at hkey
      exact h e List.mem_cons_self f hf hkey.1
    rw [repeatsAfter, repeatsAfter, List.append_assoc,
      ih _ fun e he => h e (List.mem_cons_of_mem _ he), Event.warning?, Event.warning?,
      Event.firstIn, Event.firstIn, List.find?_append, hnone, Option.none_or]

/-- Behind a body the scopes, the depth of braces and the records are those from before it. The
warnings about the body are those of its own assignments. None of them is made in a scope that was
open before the body, or in one in which anything is assigned behind it, and on no line of the body
is a record made for a scope from outside. -/
theorem body_hermetic (s : State) (lines : List Text) (hs : s.Reachable)
    (hbody : IsBody s.inBlock lines) :
    let t := (s.advanceAll lines).1
    t.scopes = s.scopes ∧ t.braces = s.braces ∧ t.assigned = s.assigned ∧
      (s.advanceAll lines).2 = repeats (s.events lines) ∧
      (∀ e ∈ s.events lines, ¬ s.Live e.scope ∧ ∀ after, ∀ f ∈ t.events after, f.scope ≠ e.scope) ∧
      ∀ k, ∃ own, (s.advanceAll (lines.take k)).1.assigned = s.assigned ++ own ∧
        ∀ entry ∈ own, ¬ s.Live entry.1.1 := by
  intro t
  obtain ⟨b, hb⟩ := hs.refines
  obtain ⟨history, hrecorded⟩ := hs.recorded
  obtain ⟨hrun, hwarnings⟩ := hrecorded.advanceAll lines
  have htake := hbody.inside_take hb hrecorded.assigned_lt
  have hold : ∀ id, s.nextId ≤ id → ¬ s.Live id :=
    fun id hid hlive => Nat.not_lt_of_le hid (hrecorded.live_lt hlive)
  obtain ⟨hfresh, inner, hlen, hinside⟩ := htake lines.length
  rw [List.take_length] at hfresh hlen hinside
  obtain rfl : inner = [] := by
    rw [hbody.closed] at hlen
    exact List.length_eq_zero_iff.mp (by omega)
  obtain ⟨hscopes, hbraces, hassigned⟩ := hinside.restored hb
  refine ⟨hscopes, hbraces, hassigned, ?_, ?_, ?_⟩
  · rw [hwarnings, ← List.append_nil history, repeatsAfter_append_of_ne, repeatsAfter_nil]
    intro e he f hf
    have hlt := hrecorded.scope_lt f hf
    have hle := hfresh e he
    omega
  · intro e he
    refine ⟨hold _ (hfresh e he), ?_⟩
    -- The scope of the event was closed with the body, and its id is not given again.
    have hlt := hrun.scope_lt e (List.mem_append_right _ he)
    intro after f hf hscope
    rcases State.ahead_events t after f hf with hlive | hle
    · refine hold _ (hfresh e he) ?_
      rwa [State.Live, hscopes, hscope] at hlive
    · rw [hscope] at hle
      exact Nat.not_lt_of_le hle hlt
  · intro k
    obtain ⟨-, inner, -, hinside⟩ := htake k
    obtain ⟨own, hown, hmem⟩ := hinside.records
    exact ⟨own, hown, fun entry hentry => hold _ (hinside.fresh _ (hmem entry hentry))⟩

/-- A body that starts behind a block comment within another body, with a bare block and a body of
its own. Of its three assignments the second one repeats the first. -/
theorem hermetic_nested_body :
    let before := ["x = 1;".toList, "module o() \x7b".toList, "x = 2; /*".toList]
    let lines := ["*/ module m() \x7b // \x7b".toList, "x = 3; \x7b".toList, "x = 4; \x7d".toList,
      "module n() \x7b".toList, "x = 5; \x7d \x7d".toList]
    let s := (State.advanceAll {} before).1
    let t := (s.advanceAll lines).1
    s.Reachable ∧ IsBody s.inBlock lines ∧ s.scopes = [globalScope, ⟨1, 1⟩] ∧
      s.assigned.map Prod.fst = [(0, ['x']), (1, ['x'])] ∧
      (s.events lines).map Event.scope = [2, 2, 3] ∧ (s.advanceAll lines).2.length = 1 ∧
      t.scopes = s.scopes ∧ t.braces = s.braces ∧ t.assigned = s.assigned ∧
      (s.advanceAll lines).2 = repeats (s.events lines) := by
  intro before lines s t
  have hs : s.Reachable := State.reachable_advanceAll _ before .initial
  have hbody : IsBody s.inBlock lines :=
    ⟨⟨_, rfl, by decide +kernel, by decide +kernel⟩, by decide +kernel, by decide +kernel⟩
  obtain ⟨hscopes, hbraces, hassigned, hwarnings, -⟩ := body_hermetic s lines hs hbody
  exact ⟨hs, hbody, by decide +kernel, by decide +kernel, by decide +kernel, by decide +kernel,
    hscopes, hbraces, hassigned, hwarnings⟩

end ScadAdvisor.Reassignment
