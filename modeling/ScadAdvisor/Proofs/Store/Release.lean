import Mathlib.Data.List.Induction
import Mathlib.Data.List.Nodup
import Mathlib.Tactic.Common
import ScadAdvisor.Proofs.Store.Run
import ScadAdvisor.Scan

/-! # Handing out once

Each entry has a ledger: the calls that handed out diagnostics of it, in order. The consumed
positions are what the ledger says, whatever else happens to the store.
-/

namespace ScadAdvisor

/-! ## One call -/

namespace Entry

/-- The positions inside `range` that were not handed out, in the order of the scan. -/
def fresh (entry : Entry) (range : TextRange) : List Nat :=
  (List.range entry.diagnostics.length).filter fun i =>
    !entry.consumed.contains i && (entry.diagnostics[i]?).any fun d => range.contains d.range

@[simp] theorem mem_fresh (entry : Entry) (range : TextRange) (i : Nat) :
    i ∈ entry.fresh range ↔
      i ∉ entry.consumed ∧ ∃ d, entry.diagnostics[i]? = some d ∧ range.contains d.range = true := by
  unfold fresh
  rw [List.mem_filter, List.mem_range, Bool.and_eq_true, Option.any_eq_true]
  constructor
  · rintro ⟨-, hnew, hd⟩
    exact ⟨by simpa using hnew, hd⟩
  · rintro ⟨hnew, d, hd, hrange⟩
    exact ⟨(List.getElem?_eq_some_iff.mp hd).1, by simpa using hnew, d, hd, hrange⟩

theorem nodup_fresh (entry : Entry) (range : TextRange) : (entry.fresh range).Nodup :=
  List.nodup_range.filter _

theorem unconsumedFrom_eq (consumed : List Nat) (range : TextRange) (n : Nat) (ds : List Diagnostic) :
    unconsumedFrom consumed range n ds =
      ((ds.zipIdx n).filter fun (d, i) => !consumed.contains i && range.contains d.range).map
        Prod.swap := by
  induction ds generalizing n with
  | nil => rfl
  | cons d rest ih =>
    rw [unconsumedFrom, List.zipIdx_cons, List.filter_cons, ih]
    split <;> rfl

@[simp] theorem positions_unconsumed (entry : Entry) (range : TextRange) :
    (entry.unconsumed range).map (·.1) = entry.fresh range := by
  unfold unconsumed fresh
  rw [unconsumedFrom_eq, List.map_map, List.range_eq_range', ← List.zipIdx_map_snd, List.filter_map]
  refine congrArg (List.map Prod.snd) (List.filter_congr ?_)
  rintro ⟨d, i⟩ hmem
  have hd : entry.diagnostics[i]? = some d := List.mem_zipIdx_iff_getElem?.mp hmem
  simp [hd]

theorem mem_unconsumed (entry : Entry) (range : TextRange) (i : Nat) (d : Diagnostic)
    (h : (i, d) ∈ entry.unconsumed range) : entry.diagnostics[i]? = some d := by
  rw [unconsumed, unconsumedFrom_eq, List.mem_map] at h
  obtain ⟨⟨d', i'⟩, hmem, heq⟩ := h
  cases heq
  exact List.mem_zipIdx_iff_getElem?.mp (List.mem_of_mem_filter hmem)

theorem consume_eq (entry : Entry) (range : TextRange) :
    entry.consume range =
      ({ entry with consumed := entry.consumed ++ entry.fresh range },
        (entry.fresh range).filterMap (entry.diagnostics[·]?)) := by
  have hreleased : (entry.unconsumed range).map (·.2) =
      (entry.fresh range).filterMap (entry.diagnostics[·]?) := by
    rw [← positions_unconsumed, List.filterMap_map, ← List.filterMap_eq_map]
    apply List.filterMap_congr
    rintro ⟨i, d⟩ hmem
    exact (entry.mem_unconsumed range i d hmem).symm
  rw [← hreleased, ← positions_unconsumed]
  rfl

end Entry

structure Call where
  number : Nat
  range : TextRange
  /-- The entry as the call finds it. -/
  entry : Entry
  released : List Diagnostic
deriving DecidableEq, Repr

def Call.positions (call : Call) : List Nat := call.entry.fresh call.range

/-! ## The ledger of an entry -/

/-- The calls on an entry since it was made, in order, and the entry behind them. -/
inductive Ledger : List Call → Entry → Prop where
  | opened {entry : Entry} (h : entry.consumed = []) : Ledger [] entry
  | call {calls : List Call} {entry : Entry} (h : Ledger calls entry) (number : Nat)
      (range : TextRange) :
    Ledger (calls ++ [⟨number, range, entry, (entry.consume range).2⟩]) (entry.consume range).1

namespace Ledger

variable {calls : List Call} {entry : Entry}

theorem asMade (h : Ledger calls entry) : ∀ call ∈ calls, call.entry.asMade = entry.asMade := by
  induction h with
  | opened => simp
  | call h number range ih =>
    intro call hcall
    rcases List.mem_append.mp hcall with hcall | hcall
    · exact ih call hcall
    · rw [List.mem_singleton.mp hcall]
      rfl

theorem diagnostics (h : Ledger calls entry) (call : Call) (hcall : call ∈ calls) :
    call.entry.diagnostics = entry.diagnostics := by
  simpa [Entry.asMade] using congrArg Entry.diagnostics (h.asMade call hcall)

theorem released (h : Ledger calls entry) :
    ∀ call ∈ calls, call.released = call.positions.filterMap (entry.diagnostics[·]?) := by
  induction h with
  | opened => simp
  | call h number range ih =>
    intro call hcall
    rcases List.mem_append.mp hcall with hcall | hcall
    · exact ih call hcall
    · rw [List.mem_singleton.mp hcall, Entry.consume_eq]
      rfl

theorem consumed_eq (h : Ledger calls entry) : entry.consumed = calls.flatMap Call.positions := by
  induction h with
  | opened h => simpa using h
  | call h number range ih => simp [Entry.consume_eq, ih, Call.positions]

theorem nodup (h : Ledger calls entry) : entry.consumed.Nodup := by
  induction h with
  | opened h => simp [h]
  | @call calls entry h number range ih =>
    rw [Entry.consume_eq]
    refine List.nodup_append.mpr ⟨ih, entry.nodup_fresh range, ?_⟩
    rintro i hold j hnew rfl
    exact ((entry.mem_fresh range i).mp hnew).1 hold

theorem mem_consumed_iff (h : Ledger calls entry) (i : Nat) :
    i ∈ entry.consumed ↔ ∃ d, entry.diagnostics[i]? = some d ∧
      ∃ call ∈ calls, call.range.contains d.range = true := by
  induction h with
  | opened h => simp [h]
  | @call calls entry h number range ih =>
    rw [Entry.consume_eq]
    simp only [List.mem_append, List.mem_singleton, Entry.mem_fresh]
    by_cases hi : i ∈ entry.consumed
    · obtain ⟨d, hd, call, hcall, hrange⟩ := ih.mp hi
      exact iff_of_true (Or.inl hi) ⟨d, hd, call, Or.inl hcall, hrange⟩
    · constructor
      · rintro (hold | ⟨-, d, hd, hrange⟩)
        · exact absurd hold hi
        · exact ⟨d, hd, _, Or.inr rfl, hrange⟩
      · rintro ⟨d, hd, call, hcall | rfl, hrange⟩
        · exact absurd (ih.mpr ⟨d, hd, call, hcall, hrange⟩) hi
        · exact Or.inr ⟨hi, d, hd, hrange⟩

theorem before (h : Ledger calls entry) {earlier later : List Call} {call : Call}
    (hsplit : calls = earlier ++ call :: later) : Ledger earlier call.entry := by
  induction h generalizing later with
  | opened => simp at hsplit
  | call h number range ih =>
    rcases List.eq_nil_or_concat later with rfl | ⟨later, last, rfl⟩
    · obtain ⟨rfl, hlast⟩ := List.append_inj' hsplit rfl
      cases hlast
      exact h
    · rw [List.concat_eq_append, ← List.cons_append, ← List.append_assoc] at hsplit
      exact ih (List.append_inj' hsplit rfl).1

theorem mem_consumed_congr {calls' : List Call} {entry' : Entry} (h : Ledger calls entry)
    (h' : Ledger calls' entry') (hdiag : entry'.diagnostics = entry.diagnostics)
    (hranges : (calls'.map Call.range).Perm (calls.map Call.range)) (i : Nat) :
    i ∈ entry'.consumed ↔ i ∈ entry.consumed := by
  have hrange : ∀ (calls : List Call) (d : Diagnostic),
      (∃ call ∈ calls, call.range.contains d.range = true) ↔
        ∃ range ∈ calls.map Call.range, range.contains d.range = true := by simp
  rw [h.mem_consumed_iff, h'.mem_consumed_iff, hdiag]
  simp only [hrange, hranges.mem_iff]

theorem mem_positions_congr (h : Ledger calls entry) {i j : Nat} {d e : Diagnostic}
    (hi : entry.diagnostics[i]? = some d) (hj : entry.diagnostics[j]? = some e)
    (hspan : d.range = e.range) {call : Call} (hcall : call ∈ calls) :
    i ∈ call.positions ↔ j ∈ call.positions := by
  obtain ⟨earlier, later, hsplit⟩ := List.append_of_mem hcall
  have hbefore := h.before hsplit
  rw [← h.diagnostics call hcall] at hi hj
  have hconsumed : i ∈ call.entry.consumed ↔ j ∈ call.entry.consumed := by
    rw [hbefore.mem_consumed_iff, hbefore.mem_consumed_iff]
    simp [hi, hj, hspan]
  unfold Call.positions
  rw [Entry.mem_fresh, Entry.mem_fresh, hconsumed]
  simp [hi, hj, hspan]

end Ledger

/-! ## All entries of a store -/

namespace Store

/-- The call that an operation makes on an entry, directly or on the one that it asks for. -/
def call? (scanner : Scanner) (s : Store) (op : Operation) : Option Call :=
  let released := (s.perform scanner op).released
  match op with
  | .consumeForRange number range =>
    (s.entries[number]?).map fun entry => { number, range, entry, released }
  | .consume snapshot range =>
    let fetch := s.getSnapshot scanner snapshot
    fetch.entry.bind fun number =>
      (fetch.store.entries[number]?).map fun entry => { number, range, entry, released }
  | _ => none

def calls (scanner : Scanner) (ops : List Operation) : List Call :=
  (trace scanner {} ops).filterMap fun step => step.before.call? scanner step.operation

def callsOn (scanner : Scanner) (ops : List Operation) (number : Nat) : List Call :=
  (calls scanner ops).filter (·.number == number)

theorem perform_released (scanner : Scanner) (s : Store) (op : Operation) :
    (s.perform scanner op).released = (s.call? scanner op).toList.flatMap Call.released := by
  cases op with
  | get | getSnapshot | evict | clear => rfl
  | consume snapshot range =>
    obtain ⟨number, hnumber, h⟩ := s.consume_cases scanner snapshot range
    simp only [call?, perform, hnumber, h, Option.bind_some]
    rcases consumeForRange_cases (s.getSnapshot scanner snapshot).store number range with
      ⟨entry, hentry, he⟩ | ⟨hnone, he⟩
    · simp [hentry]
    · simp [hnone, he]
  | consumeForRange number range =>
    simp only [call?, perform]
    rcases s.consumeForRange_cases number range with ⟨entry, hentry, he⟩ | ⟨hnone, he⟩
    · simp [hentry]
    · simp [hnone, he]

@[simp] theorem calls_concat (scanner : Scanner) (ops : List Operation) (op : Operation) :
    calls scanner (ops ++ [op]) =
      calls scanner ops ++ ((after scanner {} ops).call? scanner op).toList := by
  unfold calls
  rw [trace_concat, List.filterMap_append, List.filterMap_cons, List.filterMap_nil]
  cases (after scanner {} ops).call? scanner op <;> rfl

theorem released_eq_calls (scanner : Scanner) (ops : List Operation) :
    (trace scanner {} ops).flatMap (·.outcome.released) = (calls scanner ops).flatMap Call.released := by
  induction ops using List.reverseRecOn with
  | nil => rfl
  | append_singleton ops op ih =>
    rw [trace_concat, calls_concat, List.flatMap_append, List.flatMap_append, ih, ← perform_released,
      List.flatMap_singleton]

theorem get_entries (scanner : Scanner) (s : Store) (path : Text) (version : Int)
    (source : TextSource) :
    (s.get scanner path version source).store.entries = s.entries ∨
      ∃ diagnostics, (s.get scanner path version source).store.entries =
        s.entries ++ [({ path, version, diagnostics } : Entry)] := by
  rcases s.get_cases scanner path version source with
    ⟨number, -, h⟩ | ⟨-, -, log, h⟩ | ⟨-, text, -, loads, log, h⟩
  · left; rw [h]
  · left; rw [h]; rfl
  · right; exact ⟨scanner text, by rw [h]; rfl⟩

/-- Every entry has its ledger, and no call is on an entry that is still to come. -/
structure Kept (calls : List Call) (s : Store) : Prop where
  ledger : ∀ number entry, s.entries[number]? = some entry →
    Ledger (calls.filter (·.number == number)) entry
  number_lt : ∀ call ∈ calls, call.number < s.entries.length

namespace Kept

variable {calls : List Call} {s : Store}

theorem initial : Kept [] {} := ⟨by simp, by simp⟩

theorem exists_entry (h : Kept calls s) {call : Call} (hcall : call ∈ calls) :
    ∃ entry, s.entries[call.number]? = some entry ∧
      Ledger (calls.filter (·.number == call.number)) entry := by
  have hentry := List.getElem?_eq_getElem (h.number_lt call hcall)
  exact ⟨_, hentry, h.ledger _ _ hentry⟩

theorem congr {t : Store} (h : Kept calls s) (hentries : t.entries = s.entries) :
    Kept calls t := by
  refine ⟨?_, ?_⟩
  · rw [hentries]; exact h.ledger
  · rw [hentries]; exact h.number_lt

theorem get (h : Kept calls s) (scanner : Scanner) (path : Text) (version : Int)
    (source : TextSource) : Kept calls (s.get scanner path version source).store := by
  rcases s.get_entries scanner path version source with he | ⟨diagnostics, he⟩
  · exact h.congr he
  · refine ⟨?_, ?_⟩
    · rw [he]
      intro number entry hentry
      rw [List.getElem?_append] at hentry
      split at hentry
      · exact h.ledger number entry hentry
      · rename_i hlen
        -- The entry is the new one, and no call was made on it so far.
        obtain ⟨-, rfl⟩ : number - s.entries.length = 0 ∧ entry = { path, version, diagnostics } := by
          simpa [List.getElem?_singleton, eq_comm] using hentry
        have hnone : calls.filter (·.number == number) = [] := by
          rw [List.filter_eq_nil_iff]
          intro call hcall
          have hlt := h.number_lt call hcall
          simp only [beq_iff_eq]
          omega
        rw [hnone]
        exact Ledger.opened rfl
    · rw [he]
      intro call hcall
      rw [List.length_append]
      exact Nat.lt_add_right _ (h.number_lt call hcall)

theorem consumeForRange (h : Kept calls s) (number : Nat) (range : TextRange) :
    Kept (calls ++ ((s.entries[number]?).map fun entry =>
        { number, range, entry, released := (s.consumeForRange number range).2 : Call }).toList)
      (s.consumeForRange number range).1 := by
  rcases s.consumeForRange_cases number range with ⟨entry, hentry, he⟩ | ⟨hnone, he⟩
  · rw [hentry, he]
    refine ⟨?_, ?_⟩
    · intro n e hn
      have hlt : number < s.entries.length := (List.getElem?_eq_some_iff.mp hentry).1
      rw [List.filter_append]
      by_cases hne : number = n
      · subst hne
        rw [List.getElem?_set_self hlt] at hn
        cases hn
        simpa using (h.ledger number entry hentry).call number range
      · rw [List.getElem?_set_ne hne] at hn
        simpa [hne] using h.ledger n e hn
    · intro call hcall
      rw [List.length_set]
      rcases List.mem_append.mp hcall with hcall | hcall
      · exact h.number_lt call hcall
      · obtain rfl : call = _ := by simpa using hcall
        exact (List.getElem?_eq_some_iff.mp hentry).1
  · rw [hnone, he]
    simpa using h

theorem perform (h : Kept calls s) (scanner : Scanner) (op : Operation) :
    Kept (calls ++ (s.call? scanner op).toList) (s.perform scanner op).store := by
  cases op with
  | get path version source => simpa [call?, Store.perform] using h.get scanner path version source
  | getSnapshot snapshot =>
    simpa [call?, Store.perform, getSnapshot] using
      h.get scanner snapshot.path snapshot.version (.given snapshot.text)
  | consume snapshot range =>
    obtain ⟨number, hnumber, he⟩ := s.consume_cases scanner snapshot range
    have hget : Kept calls (s.getSnapshot scanner snapshot).store := h.get _ _ _ _
    simpa only [call?, Store.perform, hnumber, he, Option.bind_some] using
      hget.consumeForRange number range
  | consumeForRange number range => exact h.consumeForRange number range
  | evict path => simpa [call?, Store.perform] using h.congr (t := (s.evict path).1) rfl
  | clear => simpa [call?, Store.perform] using h.congr (t := s.clear) rfl

theorem after (scanner : Scanner) (ops : List Operation) :
    Kept (Store.calls scanner ops) (after scanner {} ops) := by
  induction ops using List.reverseRecOn with
  | nil => exact initial
  | append_singleton ops op ih =>
    rw [calls_concat, after_concat]
    exact ih.perform scanner op

end Kept

/-- The positions that calls on an entry hand out never repeat. Each call hands out, in the order of
the scan, what lies inside its range and was not handed out by the calls before it, so in the end all
that lies inside one of the ranges is consumed, in whatever order they came, and diagnostics of one
span go together. Nothing that happens to the store in between makes a difference. -/
theorem released_once (scanner : Scanner) (ops : List Operation) (number : Nat) (entry : Entry)
    (h : (after scanner {} ops).entries[number]? = some entry) :
    let calls := callsOn scanner ops number
    (calls.flatMap Call.positions).Nodup ∧
      (∀ earlier call later, calls = earlier ++ call :: later →
        call.entry.diagnostics = entry.diagnostics ∧
        call.entry.consumed = earlier.flatMap Call.positions ∧
        call.released = call.positions.filterMap (entry.diagnostics[·]?)) ∧
      (∀ i, i ∈ entry.consumed ↔ ∃ d, entry.diagnostics[i]? = some d ∧
        ∃ call ∈ calls, call.range.contains d.range = true) ∧
      (∀ ops' number' entry', (after scanner {} ops').entries[number']? = some entry' →
        entry'.diagnostics = entry.diagnostics →
        ((callsOn scanner ops' number').map Call.range).Perm (calls.map Call.range) →
        ∀ i, i ∈ entry'.consumed ↔ i ∈ entry.consumed) ∧
      (∀ i j d e, entry.diagnostics[i]? = some d → entry.diagnostics[j]? = some e →
        d.range = e.range → ∀ call ∈ calls, i ∈ call.positions ↔ j ∈ call.positions) := by
  intro calls
  have hledger : Ledger calls entry := (Kept.after scanner ops).ledger number entry h
  refine ⟨hledger.consumed_eq ▸ hledger.nodup, ?_, hledger.mem_consumed_iff, ?_, ?_⟩
  · intro earlier call later hsplit
    have hcall : call ∈ calls := by simp [hsplit]
    exact ⟨hledger.diagnostics call hcall, (hledger.before hsplit).consumed_eq,
      hledger.released call hcall⟩
  · intro ops' number' entry' h' hdiag hranges
    exact hledger.mem_consumed_congr ((Kept.after scanner ops').ledger number' entry' h') hdiag hranges
  · intro i j d e hi hj hspan call hcall
    exact hledger.mem_positions_congr hi hj hspan hcall

/-- The second line has a digit identifier and a reassignment at one span. The entry is dropped for
another version and the store is cleared between the calls, one of which has its ends turned round. -/
theorem released_once_by_lines :
    let scanner : Scanner := ({} : ScanSettings).findings
    let text : Text := "2D = 1;\n2D = 2;\n".toList
    let ops : List Operation := [.consume ⟨['p'], 1, text⟩ ⟨8, 16⟩, .get ['p'] 2 (.given []), .clear,
      .consumeForRange 0 ⟨16, 0⟩, .consumeForRange 0 ⟨0, 16⟩]
    let ops' : List Operation := [.get ['p'] 1 (.given text), .consumeForRange 0 ⟨0, 16⟩,
      .consumeForRange 0 ⟨8, 16⟩, .consumeForRange 0 ⟨16, 0⟩]
    let entry : Entry := ⟨['p'], 1, scanner text, [1, 2, 0]⟩
    let entry' : Entry := ⟨['p'], 1, scanner text, [0, 1, 2]⟩
    (after scanner {} ops).entries[0]? = some entry ∧
      (callsOn scanner ops 0).map Call.positions = [[1, 2], [], [0]] ∧
      (entry.diagnostics.map fun d => (d.start, d.stop)) = [(0, 2), (8, 10), (8, 10)] ∧
      ((callsOn scanner ops 0).flatMap Call.positions).Nodup ∧
      (after scanner {} ops').entries[0]? = some entry' ∧
      ∀ i, i ∈ entry'.consumed ↔ i ∈ entry.consumed := by
  intro scanner text ops ops' entry entry'
  have hentry : (after scanner {} ops).entries[0]? = some entry := by decide +kernel
  have hentry' : (after scanner {} ops').entries[0]? = some entry' := by decide +kernel
  obtain ⟨hnodup, -, -, horder, -⟩ := released_once scanner ops 0 entry hentry
  refine ⟨hentry, by decide +kernel, by decide +kernel, hnodup, hentry', ?_⟩
  exact horder ops' 0 entry' hentry' rfl (by decide +kernel)

end Store

end ScadAdvisor
