import ScadAdvisor.Proofs.Table
import ScadAdvisor.Store.Basic

/-! # Runs of the store

A store is only ever changed by its operations, one after the other. What a single operation can do
is said here once, and what holds along every run is derived from it.
-/

namespace ScadAdvisor

/-! ## Operations -/

inductive Operation where
  | get (path : Text) (version : Int) (source : TextSource)
  | getSnapshot (snapshot : Snapshot)
  | consume (snapshot : Snapshot) (range : TextRange)
  /-- Entries are known by their numbers, also when the store has dropped them. -/
  | consumeForRange (number : Nat) (range : TextRange)
  | evict (path : Text)
  | clear
deriving DecidableEq, Repr

/-- The path and the version of an operation that asks for an entry. -/
def Operation.request? : Operation → Option (Text × Int)
  | .get path version _ => some (path, version)
  | .getSnapshot snapshot => some (snapshot.path, snapshot.version)
  | .consume snapshot _ => some (snapshot.path, snapshot.version)
  | _ => none

def Operation.source? : Operation → Option TextSource
  | .get _ _ source => some source
  | .getSnapshot snapshot => some (.given snapshot.text)
  | .consume snapshot _ => some (.given snapshot.text)
  | _ => none

/-- Without what was handed out. -/
def Entry.asMade (entry : Entry) : Entry := { entry with consumed := [] }

structure Outcome where
  store : Store
  entry : Option Nat := none
  loads : Nat := 0
  scans : Nat := 0
  released : List Diagnostic := []
  removed : Nat := 0
deriving DecidableEq, Repr

structure Step where
  before : Store
  operation : Operation
  outcome : Outcome
deriving DecidableEq, Repr

namespace Store

def perform (scanner : Scanner) (s : Store) : Operation → Outcome
  | .get path version source =>
    let fetch := s.get scanner path version source
    { store := fetch.store, entry := fetch.entry, loads := fetch.loads, scans := fetch.scans }
  | .getSnapshot snapshot =>
    let fetch := s.getSnapshot scanner snapshot
    { store := fetch.store, entry := fetch.entry, loads := fetch.loads, scans := fetch.scans }
  | .consume snapshot range =>
    let (fetch, released) := s.consume scanner snapshot range
    { store := fetch.store, entry := fetch.entry, loads := fetch.loads, scans := fetch.scans, released }
  | .consumeForRange number range =>
    let (store, released) := s.consumeForRange number range
    { store, released }
  | .evict path =>
    let (store, removed, _) := s.evict path
    { store, removed }
  | .clear => { store := s.clear }

def trace (scanner : Scanner) : Store → List Operation → List Step
  | _, [] => []
  | s, op :: rest => ⟨s, op, s.perform scanner op⟩ :: trace scanner (s.perform scanner op).store rest

def after (scanner : Scanner) (s : Store) (ops : List Operation) : Store :=
  ops.foldl (fun s op => (s.perform scanner op).store) s

@[simp] theorem after_concat (scanner : Scanner) (s : Store) (ops : List Operation) (op : Operation) :
    s.after scanner (ops ++ [op]) = ((s.after scanner ops).perform scanner op).store := by
  simp [after]

@[simp] theorem trace_concat (scanner : Scanner) (s : Store) (ops : List Operation) (op : Operation) :
    s.trace scanner (ops ++ [op]) = s.trace scanner ops ++
      [⟨s.after scanner ops, op, (s.after scanner ops).perform scanner op⟩] := by
  induction ops generalizing s with
  | nil => rfl
  | cons first rest ih => simp [trace, ih, after]

theorem mem_trace {scanner : Scanner} {s : Store} {ops : List Operation} {step : Step}
    (h : step ∈ s.trace scanner ops) :
    ∃ earlier later, ops = earlier ++ step.operation :: later ∧ step.before = s.after scanner earlier ∧
      step.outcome = step.before.perform scanner step.operation := by
  induction ops generalizing s with
  | nil => cases h
  | cons op rest ih =>
    rcases List.mem_cons.mp h with rfl | h
    · exact ⟨[], rest, rfl, rfl, rfl⟩
    · obtain ⟨earlier, later, rfl, hbefore, houtcome⟩ := ih h
      exact ⟨op :: earlier, later, rfl, hbefore, houtcome⟩

/-! ## What an operation does -/

/-- A new entry, put under its key. -/
def insert (s : Store) (entry : Entry) : Store :=
  { s with
    entries := s.entries ++ [entry]
    live := s.live.put entry.key s.entries.length
    misses := s.misses + 1 }

theorem get_cases (scanner : Scanner) (s : Store) (path : Text) (version : Int) (source : TextSource) :
    (∃ number, s.live.get? (snapshotKey path version) = some number ∧
      s.get scanner path version source =
        { store := { s with hits := s.hits + 1 }
          entry := some number, loads := 0, scans := 0, log := [] }) ∨
    (snapshotKey path version ∉ s.live.keys ∧ source = .loader none ∧
      ∃ log, s.get scanner path version source =
        { store := (s.evictStale path (some version)).1, entry := none, loads := 1, scans := 0, log }) ∨
    (snapshotKey path version ∉ s.live.keys ∧ ∃ text, source.get? = some text ∧
      ∃ loads log, s.get scanner path version source =
        { store := (s.evictStale path (some version)).1.insert
            { path, version, diagnostics := scanner text }
          entry := some s.entries.length, loads, scans := 1, log }) := by
  cases hkey : s.live.get? (snapshotKey path version) with
  | some number =>
    left
    exact ⟨number, rfl, by simp only [get, hkey]⟩
  | none =>
    right
    have hnot := (Table.get?_eq_none_iff _ _).mp hkey
    cases hsource : source.get? with
    | none =>
      left
      have hloader : source = .loader none := by
        cases source <;> simp_all [TextSource.get?]
      subst hloader
      exact ⟨hnot, rfl, _, by simp only [get, hkey, TextSource.get?, TextSource.isLoader, if_true]; rfl⟩
    | some text =>
      right
      exact ⟨hnot, text, rfl, _, _, by simp only [get, hkey, hsource]; rfl⟩

theorem get_loads (scanner : Scanner) (s : Store) (path : Text) (version : Int) (source : TextSource) :
    (s.get scanner path version source).loads =
      if source.isLoader && !s.contains (snapshotKey path version) then 1 else 0 := by
  cases hkey : s.live.get? (snapshotKey path version) with
  | some number => simp only [get, contains, hkey, Option.isSome_some, Bool.not_true, Bool.and_false]; rfl
  | none =>
    simp only [get, contains, hkey, Option.isSome_none, Bool.not_false, Bool.and_true]
    cases source.get? <;> rfl

theorem consumeForRange_cases (s : Store) (number : Nat) (range : TextRange) :
    (∃ entry, s.entries[number]? = some entry ∧ s.consumeForRange number range =
      ({ s with entries := s.entries.set number (entry.consume range).1 }, (entry.consume range).2)) ∨
    (s.entries[number]? = none ∧ s.consumeForRange number range = (s, [])) := by
  unfold consumeForRange
  cases s.entries[number]? with
  | some entry => exact Or.inl ⟨entry, rfl, rfl⟩
  | none => exact Or.inr ⟨rfl, rfl⟩

theorem consume_cases (scanner : Scanner) (s : Store) (snapshot : Snapshot) (range : TextRange) :
    ∃ number, (s.getSnapshot scanner snapshot).entry = some number ∧
      s.consume scanner snapshot range =
        ({ s.getSnapshot scanner snapshot with
            store := ((s.getSnapshot scanner snapshot).store.consumeForRange number range).1 },
          ((s.getSnapshot scanner snapshot).store.consumeForRange number range).2) := by
  have hentry : ∃ number, (s.getSnapshot scanner snapshot).entry = some number := by
    rcases s.get_cases scanner snapshot.path snapshot.version (.given snapshot.text) with
      ⟨number, -, h⟩ | ⟨-, hsource, -⟩ | ⟨-, text, -, loads, log, h⟩
    · exact ⟨number, by rw [getSnapshot, h]⟩
    · cases hsource
    · exact ⟨_, by rw [getSnapshot, h]⟩
  obtain ⟨number, hnumber⟩ := hentry
  refine ⟨number, hnumber, ?_⟩
  unfold consume
  simp only [hnumber]

/-! ## What no operation changes -/

def made (s : Store) : List Entry := s.entries.map Entry.asMade

@[simp] theorem getElem?_made (s : Store) (number : Nat) :
    s.made[number]? = (s.entries[number]?).map Entry.asMade := List.getElem?_map

@[simp] theorem made_consumeForRange (s : Store) (number : Nat) (range : TextRange) :
    (s.consumeForRange number range).1.made = s.made := by
  rcases s.consumeForRange_cases number range with ⟨entry, hentry, h⟩ | ⟨-, h⟩
  · rw [h]
    apply List.ext_getElem?
    intro n
    rw [getElem?_made, getElem?_made]
    by_cases hn : number = n
    · subst hn
      rw [List.getElem?_set_self (List.getElem?_eq_some_iff.mp hentry).1, hentry]
      rfl
    · rw [List.getElem?_set_ne hn]
  · rw [h]

theorem consumeForRange_eq (s : Store) (number : Nat) (range : TextRange) :
    ∃ entries, (s.consumeForRange number range).1 = { s with entries } := by
  rcases s.consumeForRange_cases number range with ⟨entry, -, h⟩ | ⟨-, h⟩
  · exact ⟨_, by rw [h]⟩
  · exact ⟨s.entries, by rw [h]⟩

theorem perform_request (scanner : Scanner) (s : Store) {op : Operation} {path : Text} {version : Int}
    {source : TextSource} (hop : op.request? = some (path, version)) (hsource : op.source? = some source) :
    let fetch := s.get scanner path version source
    (s.perform scanner op).entry = fetch.entry ∧ (s.perform scanner op).loads = fetch.loads ∧
      (s.perform scanner op).store.made = fetch.store.made := by
  cases op with
  | get | getSnapshot =>
    cases hop
    cases hsource
    exact ⟨rfl, rfl, rfl⟩
  | consume snapshot range =>
    cases hop
    cases hsource
    obtain ⟨number, -, h⟩ := s.consume_cases scanner snapshot range
    simp only [perform, h]
    exact ⟨rfl, rfl, made_consumeForRange _ number range⟩
  | consumeForRange | evict | clear => cases hop

/-- What the four ways to change a store keep, every operation keeps. -/
theorem perform_keeps {P : Store → Prop} {scanner : Scanner}
    (hget : ∀ s path version source, P s → P (s.get scanner path version source).store)
    (hconsume : ∀ s number range, P s → P (s.consumeForRange number range).1)
    (hevict : ∀ s path, P s → P (s.evict path).1) (hclear : ∀ s, P s → P s.clear)
    {s : Store} (hs : P s) (op : Operation) : P (s.perform scanner op).store := by
  cases op with
  | get path version source => exact hget s path version source hs
  | getSnapshot snapshot => exact hget s _ _ _ hs
  | consume snapshot range =>
    obtain ⟨number, -, h⟩ := s.consume_cases scanner snapshot range
    simp only [perform, h]
    exact hconsume _ _ _ (hget s _ _ _ hs)
  | consumeForRange number range => exact hconsume s number range hs
  | evict path => exact hevict s path hs
  | clear => exact hclear s hs

end Store

end ScadAdvisor
