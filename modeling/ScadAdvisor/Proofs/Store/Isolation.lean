import Mathlib.Data.List.Induction
import Mathlib.Tactic.Common
import ScadAdvisor.Proofs.Store.Accounts

/-! # Paths do not see each other

All paths share one table. If everything that is addressed to other paths is left out of a run, the rest
of it is answered as before, only that the entries are numbered anew.
-/

namespace ScadAdvisor

namespace Store

/-! ## What a store has of a path -/

def paths (s : Store) : List Text := s.entries.map Entry.path

def isOf (s : Store) (path : Text) (number : Nat) : Bool := s.paths[number]? == some path

/-- How many entries of the path stand before an entry: its number if there are no others. -/
def place (s : Store) (path : Text) (number : Nat) : Nat := (s.paths.take number).count path

def ownEntries (s : Store) (path : Text) : List Entry := s.entries.filter (·.path == path)

def ownLive (s : Store) (path : Text) : Table Nat :=
  (s.live.filter fun item => s.isOf path item.2).map fun item => (item.1, s.place path item.2)

theorem isOf_iff (s : Store) (path : Text) (number : Nat) :
    s.isOf path number = true ↔ ∃ entry, s.entries[number]? = some entry ∧ entry.path = path := by
  simp [isOf, paths]

theorem place_eq (s : Store) (path : Text) (number : Nat) :
    s.place path number = (s.entries.take number).countP (·.path == path) := by
  unfold place paths
  rw [← List.map_take, List.count, List.countP_map]
  rfl

theorem ownLive_congr {s t : Store} (hpaths : t.paths = s.paths) (hlive : t.live = s.live) (path : Text) :
    t.ownLive path = s.ownLive path := by
  unfold ownLive isOf place
  rw [hpaths, hlive]

@[simp] theorem paths_consumeForRange (s : Store) (number : Nat) (range : TextRange) :
    (s.consumeForRange number range).1.paths = s.paths := by
  have hmade := congrArg (List.map Entry.path) (s.made_consumeForRange number range)
  unfold made at hmade
  rw [List.map_map, List.map_map] at hmade
  exact hmade

theorem ownEntries_split {s : Store} {number : Nat} {entry : Entry}
    (hentry : s.entries[number]? = some entry) :
    ∃ before behind, s.entries = before ++ entry :: behind ∧ before.length = number ∧
      ∀ path, (before.filter (·.path == path)).length = s.place path number := by
  obtain ⟨hlt, rfl⟩ := List.getElem?_eq_some_iff.mp hentry
  refine ⟨s.entries.take number, s.entries.drop (number + 1), ?_, ?_, ?_⟩
  · rw [List.getElem_cons_drop, List.take_append_drop]
  · rw [List.length_take]
    omega
  · intro path
    rw [place_eq, List.countP_eq_length_filter]

theorem getElem?_ownEntries {s : Store} {path : Text} {number : Nat} {entry : Entry}
    (hentry : s.entries[number]? = some entry) (hpath : entry.path = path) :
    (s.ownEntries path)[s.place path number]? = some entry := by
  obtain ⟨before, behind, hsplit, -, hplace⟩ := ownEntries_split hentry
  unfold ownEntries
  rw [hsplit, List.filter_append, List.filter_cons_of_pos (by simpa using hpath), ← hplace path]
  simp

/-! ## Frames: what is addressed to other paths -/

section Frames

variable {s : Store} {path other : Text}

theorem ownLive_evictStale (hne : other ≠ path) (keep : Option Int) :
    (s.evictStale other keep).1.ownLive path = s.ownLive path := by
  have hstale : ∀ number, s.isOf path number = true → s.isStale other keep number = false := by
    intro number hown
    obtain ⟨entry, hentry, rfl⟩ := (s.isOf_iff path number).mp hown
    simp [isStale, hentry, Ne.symm hne]
  change (List.filter _ (List.filter _ s.live)).map _ = (List.filter _ s.live).map _
  rw [List.filter_filter]
  refine congrArg (List.map _) (List.filter_congr ?_)
  intro item _
  change (s.isOf path item.2 && !s.isStale other keep item.2) = s.isOf path item.2
  cases hown : s.isOf path item.2 with
  | true => simp [hstale item.2 hown]
  | false => rfl

@[simp] theorem ownEntries_insert (entry : Entry) :
    (s.insert entry).ownEntries path =
      s.ownEntries path ++ if entry.path = path then [entry] else [] := by
  unfold ownEntries insert
  rw [List.filter_append, List.filter_singleton]
  simp

@[simp] theorem paths_insert (entry : Entry) : (s.insert entry).paths = s.paths ++ [entry.path] := by
  simp [paths, insert]

@[simp] theorem isOf_insert (entry : Entry) :
    (s.insert entry).isOf path s.entries.length = (entry.path == path) := by
  simp [isOf, paths, insert]

@[simp] theorem place_insert (entry : Entry) :
    (s.insert entry).place path s.entries.length = (s.ownEntries path).length := by
  rw [place_eq, ownEntries, ← List.countP_eq_length_filter]
  simp [insert]

theorem ownLive_insert (hs : Indexed s) {entry : Entry} (hkey : entry.key ∉ s.live.keys) :
    (s.insert entry).ownLive path = s.ownLive path ++
      if entry.path = path then [(entry.key, (s.ownEntries path).length)] else [] := by
  have hlive : (s.insert entry).live = s.live ++ [(entry.key, s.entries.length)] :=
    Table.put_of_not_mem _ _ _ hkey
  -- The numbers in the table are those of older entries.
  have hold : ∀ item ∈ s.live, (s.insert entry).isOf path item.2 = s.isOf path item.2 ∧
      (s.insert entry).place path item.2 = s.place path item.2 := by
    intro item hitem
    obtain ⟨found, hfound, -⟩ := hs.keyed item hitem
    have hlt : item.2 < s.paths.length := by
      simpa [paths] using (List.getElem?_eq_some_iff.mp hfound).1
    unfold isOf place
    rw [paths_insert, List.getElem?_append_left hlt, List.take_append_of_le_length (by omega)]
    exact ⟨rfl, rfl⟩
  unfold ownLive
  rw [hlive, List.filter_append, List.map_append, List.filter_congr fun item hitem => (hold item hitem).1]
  congr 1
  · apply List.map_congr_left
    intro item hitem
    rw [(hold item (List.mem_of_mem_filter hitem)).2]
  · by_cases hpath : entry.path = path <;> simp [hpath]

theorem ownEntries_set {number : Nat} {entry : Entry} (hentry : s.entries[number]? = some entry)
    (updated : Entry) (hpath : updated.path = entry.path) :
    (s.entries.set number updated).filter (·.path == path) =
      if entry.path = path then (s.ownEntries path).set (s.place path number) updated
      else s.ownEntries path := by
  obtain ⟨before, behind, hsplit, rfl, hplace⟩ := ownEntries_split hentry
  unfold ownEntries
  rw [← hplace path, hsplit, List.set_append_right _ _ (Nat.le_refl _), Nat.sub_self,
    List.set_cons_zero, List.filter_append, List.filter_append, List.filter_cons, List.filter_cons, hpath]
  by_cases hown : entry.path = path
  · simp [hown]
  · simp [hown]

theorem ownEntries_consumeForRange {number : Nat} (hother : s.isOf path number = false)
    (range : TextRange) : (s.consumeForRange number range).1.ownEntries path = s.ownEntries path := by
  rcases s.consumeForRange_cases number range with ⟨entry, hentry, he⟩ | ⟨-, he⟩
  · have hne : entry.path ≠ path := by simpa [isOf, paths, hentry] using hother
    rw [he]
    exact (ownEntries_set hentry (entry.consume range).1 rfl).trans (if_neg hne)
  · rw [he]

end Frames

/-! ## A store that only ever saw one path -/

/-- One store has all that the other has of the path, and nothing else. -/
structure Alone (path : Text) (s t : Store) : Prop where
  entries : t.entries = s.ownEntries path
  live : t.live = s.ownLive path

namespace Alone

variable {path : Text} {s t : Store}

theorem getElem? (h : Alone path s t) {number : Nat} (hown : s.isOf path number = true) :
    t.entries[s.place path number]? = s.entries[number]? := by
  obtain ⟨entry, hentry, hpath⟩ := (s.isOf_iff path number).mp hown
  rw [h.entries, hentry, getElem?_ownEntries hentry hpath]

theorem get?_key (h : Alone path s t) (hs : Indexed s) (version : Int) :
    t.live.get? (snapshotKey path version) =
      (s.live.get? (snapshotKey path version)).map (s.place path) := by
  rw [h.live, ownLive, Table.get?_map, Table.get?_filter]
  intro item hitem hkey
  obtain ⟨entry, hentry, hpath, -⟩ := hs.entry_of_key hitem hkey
  exact (s.isOf_iff path item.2).mpr ⟨entry, hentry, hpath⟩

theorem contains_key (h : Alone path s t) (hs : Indexed s) (version : Int) :
    t.contains (snapshotKey path version) = s.contains (snapshotKey path version) := by
  simp [contains, h.get?_key hs]

theorem isStale (h : Alone path s t) (keep : Option Int) {number : Nat}
    (hown : s.isOf path number = true) :
    t.isStale path keep (s.place path number) = s.isStale path keep number := by
  simp only [Store.isStale, h.getElem? hown]

theorem isOf_of_isStale {keep : Option Int} {number : Nat} (hstale : s.isStale path keep number = true) :
    s.isOf path number = true := by
  obtain ⟨entry, hentry, hmatch⟩ := (Option.any_eq_true _ _).mp hstale
  rw [Bool.and_eq_true, beq_iff_eq] at hmatch
  exact (s.isOf_iff path number).mpr ⟨entry, hentry, hmatch.1⟩

theorem filter_live (h : Alone path s t) {p q : Nat → Bool}
    (hpq : ∀ number, s.isOf path number = true → p (s.place path number) = q number) :
    t.live.filter (fun item => p item.2) =
      ((s.live.filter fun item => q item.2).filter fun item => s.isOf path item.2).map
        fun item => (item.1, s.place path item.2) := by
  rw [h.live, ownLive, List.filter_map, List.filter_comm fun item : Text × Nat => s.isOf path item.2]
  refine congrArg (List.map _) (List.filter_congr ?_)
  intro item hitem
  exact hpq item.2 (List.mem_filter.mp hitem).2

theorem evictStale (h : Alone path s t) (keep : Option Int) :
    Alone path (s.evictStale path keep).1 (t.evictStale path keep).1 ∧
      (t.evictStale path keep).2.1 = (s.evictStale path keep).2.1 := by
  refine ⟨⟨h.entries, ?_⟩, ?_⟩
  · refine h.filter_live (p := (!t.isStale path keep ·)) (q := (!s.isStale path keep ·)) ?_
    intro number hown
    rw [h.isStale keep hown]
  · have hstale := h.filter_live fun number hown => h.isStale keep hown
    have hown : ∀ item ∈ s.live.filter (fun item => s.isStale path keep item.2),
        s.isOf path item.2 = true :=
      fun item hitem => isOf_of_isStale (List.mem_filter.mp hitem).2
    have hlength := congrArg List.length hstale
    rw [List.filter_eq_self.mpr hown, List.length_map] at hlength
    exact hlength

theorem insert (h : Alone path s t) (hs : Indexed s) (entry : Entry) (hpath : entry.path = path)
    (hkey : entry.key ∉ s.live.keys) : Alone path (s.insert entry) (t.insert entry) := by
  have hkey' : entry.key ∉ t.live.keys := by
    rw [← Table.get?_eq_none_iff] at hkey ⊢
    rw [Entry.key, hpath] at hkey ⊢
    rw [h.get?_key hs, hkey]
    rfl
  refine ⟨?_, ?_⟩
  · rw [ownEntries_insert, if_pos hpath, ← h.entries]
    rfl
  · rw [ownLive_insert hs hkey, if_pos hpath, ← h.entries, ← h.live]
    exact Table.put_of_not_mem _ _ _ hkey'

theorem consumeForRange (h : Alone path s t) {number : Nat} (hown : s.isOf path number = true)
    (range : TextRange) :
    Alone path (s.consumeForRange number range).1
        (t.consumeForRange (s.place path number) range).1 ∧
      (t.consumeForRange (s.place path number) range).2 = (s.consumeForRange number range).2 := by
  obtain ⟨entry, hentry, hpath⟩ := (s.isOf_iff path number).mp hown
  have hentry' : t.entries[s.place path number]? = some entry := (h.getElem? hown).trans hentry
  have hlive : (s.consumeForRange number range).1.ownLive path = s.ownLive path := by
    obtain ⟨entries, he⟩ := s.consumeForRange_eq number range
    exact ownLive_congr (s.paths_consumeForRange number range) (by rw [he]) path
  refine ⟨⟨?_, ?_⟩, ?_⟩
  · have hset := (ownEntries_set hentry (entry.consume range).1 rfl).trans (if_pos hpath)
    simp only [Store.consumeForRange, hentry, hentry']
    rw [h.entries]
    exact hset.symm
  · rw [hlive, ← h.live]
    simp only [Store.consumeForRange, hentry']
  · simp only [Store.consumeForRange, hentry, hentry']

theorem isOf_get (hs : Indexed s) {scanner : Scanner} {version : Int} {source : TextSource}
    {number : Nat} (hnumber : (s.get scanner path version source).entry = some number) :
    (s.get scanner path version source).store.isOf path number = true := by
  obtain ⟨entry, hentry, hpath, -⟩ := hs.get_entry hnumber
  exact (isOf_iff _ path number).mpr ⟨entry, hentry, hpath⟩

theorem get (h : Alone path s t) (hs : Indexed s) (scanner : Scanner) (version : Int)
    (source : TextSource) :
    let a := s.get scanner path version source
    let b := t.get scanner path version source
    Alone path a.store b.store ∧ b.entry = a.entry.map (a.store.place path) ∧
      b.loads = a.loads ∧ b.scans = a.scans := by
  intro a b
  have hlookup := h.get?_key hs version
  cases hkey : s.live.get? (snapshotKey path version) with
  | some number =>
    rw [hkey, Option.map_some] at hlookup
    simp only [a, b, Store.get, hkey, hlookup]
    exact ⟨⟨h.entries, h.live⟩, rfl, trivial, trivial⟩
  | none =>
    rw [hkey, Option.map_none] at hlookup
    have hevicted := (h.evictStale (some version)).1
    cases hsource : source.get? with
    | none =>
      simp only [a, b, Store.get, hkey, hlookup, hsource]
      exact ⟨hevicted, rfl, trivial, trivial⟩
    | some text =>
      have hmissing := (Table.get?_eq_none_iff _ _).mp hkey
      have hnew := hevicted.insert (hs.evictStale path (some version))
        { path, version, diagnostics := scanner text } rfl
        fun hmem => hmissing ((List.filter_sublist.map _).subset hmem)
      simp only [a, b, Store.get, hkey, hlookup, hsource]
      refine ⟨hnew, ?_, trivial, trivial⟩
      rw [Option.map_some, hevicted.entries]
      exact congrArg some (place_insert _).symm

end Alone

/-! ## Operations that are addressed to a path -/

def addressed (s : Store) (path : Text) : Operation → Bool
  | .get other _ _ => other == path
  | .getSnapshot snapshot => snapshot.path == path
  | .consume snapshot _ => snapshot.path == path
  | .consumeForRange number _ => s.isOf path number
  | .evict other => other == path
  | .clear => true

/-- The same operation where only entries of the path have numbers. -/
def renumbered (s : Store) (path : Text) : Operation → Operation
  | .consumeForRange number range => .consumeForRange (s.place path number) range
  | op => op

end Store

def Step.number? (step : Step) : Option Nat :=
  match step.operation with
  | .consumeForRange number _ => some number
  | _ => step.outcome.entry

/-- What an operation lets its caller know. -/
structure Answer where
  number : Option Nat
  /-- The entry as it is behind the operation, with what was handed out of it. -/
  entry : Option Entry
  loads : Nat
  scans : Nat
  released : List Diagnostic
  removed : Nat
deriving DecidableEq, Repr

def Step.answer (name : Nat → Nat) (step : Step) : Answer where
  number := step.number?.map name
  entry := step.number?.bind (step.outcome.store.entries[·]?)
  loads := step.outcome.loads
  scans := step.outcome.scans
  released := step.outcome.released
  removed := step.outcome.removed

namespace Store

def stepsFor (scanner : Scanner) (ops : List Operation) (path : Text) : List Step :=
  (trace scanner {} ops).filter fun step => step.before.addressed path step.operation

/-- The run without what is addressed to other paths. -/
def operationsFor (scanner : Scanner) (ops : List Operation) (path : Text) : List Operation :=
  (stepsFor scanner ops path).map fun step => step.before.renumbered path step.operation

namespace Alone

variable {path : Text} {s t : Store}

theorem consumeForRange_other (h : Alone path s t) {number : Nat} (hother : s.isOf path number = false)
    (range : TextRange) : Alone path (s.consumeForRange number range).1 t := by
  obtain ⟨entries, he⟩ := s.consumeForRange_eq number range
  refine ⟨?_, ?_⟩
  · rw [ownEntries_consumeForRange hother]
    exact h.entries
  · rw [ownLive_congr (s.paths_consumeForRange number range) (by rw [he])]
    exact h.live

theorem get_other (h : Alone path s t) (hs : Indexed s) (scanner : Scanner) {other : Text}
    (hne : other ≠ path) (version : Int) (source : TextSource) :
    Alone path (s.get scanner other version source).store t := by
  rcases s.get_cases scanner other version source with
    ⟨number, -, he⟩ | ⟨-, -, log, he⟩ | ⟨hkey, text, -, loads, log, he⟩
  · rw [he]
    exact ⟨h.entries, h.live⟩
  · rw [he]
    exact ⟨h.entries, h.live.trans (ownLive_evictStale hne _).symm⟩
  · rw [he]
    refine ⟨?_, ?_⟩
    · rw [ownEntries_insert, if_neg hne, List.append_nil]
      exact h.entries
    · rw [ownLive_insert (hs.evictStale _ _), if_neg hne, List.append_nil, ownLive_evictStale hne]
      · exact h.live
      · exact fun hmem => hkey ((List.filter_sublist.map _).subset hmem)

theorem perform_other (h : Alone path s t) (hs : Indexed s) (scanner : Scanner) {op : Operation}
    (hop : s.addressed path op = false) : Alone path (s.perform scanner op).store t := by
  cases op with
  | get other version source => exact h.get_other hs scanner (beq_eq_false_iff_ne.mp hop) version source
  | getSnapshot snapshot => exact h.get_other hs scanner (beq_eq_false_iff_ne.mp hop) _ _
  | consume snapshot range =>
    have hne : snapshot.path ≠ path := beq_eq_false_iff_ne.mp hop
    obtain ⟨number, hnumber, he⟩ := s.consume_cases scanner snapshot range
    simp only [perform, he]
    refine (h.get_other hs scanner hne snapshot.version _).consumeForRange_other ?_ range
    have hown := isOf_get hs hnumber
    rw [isOf, beq_iff_eq] at hown
    rw [isOf, hown]
    simpa using hne
  | consumeForRange number range => exact h.consumeForRange_other hop range
  | evict other =>
    exact ⟨h.entries, h.live.trans (ownLive_evictStale (beq_eq_false_iff_ne.mp hop) none).symm⟩
  | clear => cases hop

/-- Two steps that differ in nothing that concerns the path. -/
structure Agree (path : Text) (a b : Step) : Prop where
  store : Alone path a.outcome.store b.outcome.store
  number : b.number? = a.number?.map (a.outcome.store.place path)
  own : ∀ number ∈ a.number?, a.outcome.store.isOf path number = true
  loads : b.outcome.loads = a.outcome.loads
  scans : b.outcome.scans = a.outcome.scans
  released : b.outcome.released = a.outcome.released
  removed : b.outcome.removed = a.outcome.removed

theorem Agree.answer {a b : Step} (h : Agree path a b) :
    b.answer id = a.answer (a.outcome.store.place path) := by
  have hentry : (a.number?.map (a.outcome.store.place path)).bind (b.outcome.store.entries[·]?) =
      a.number?.bind (a.outcome.store.entries[·]?) := by
    cases hnumber : a.number? with
    | none => rfl
    | some number => exact h.store.getElem? (h.own number hnumber)
  simp only [Step.answer, h.number, hentry, h.loads, h.scans, h.released, h.removed, Option.map_id, id]

theorem perform (h : Alone path s t) (hs : Indexed s) (scanner : Scanner) {op : Operation}
    (hop : s.addressed path op = true) :
    let op' := s.renumbered path op
    Agree path ⟨s, op, s.perform scanner op⟩ ⟨t, op', t.perform scanner op'⟩ := by
  cases op with
  | get other version source =>
    obtain rfl : other = path := beq_iff_eq.mp hop
    obtain ⟨hstore, hentry, hloads, hscans⟩ := h.get hs scanner version source
    exact ⟨hstore, hentry, fun number hnumber => isOf_get hs hnumber, hloads, hscans, rfl, rfl⟩
  | getSnapshot snapshot =>
    obtain rfl : snapshot.path = path := beq_iff_eq.mp hop
    obtain ⟨hstore, hentry, hloads, hscans⟩ := h.get hs scanner snapshot.version (.given snapshot.text)
    exact ⟨hstore, hentry, fun number hnumber => isOf_get hs hnumber, hloads, hscans, rfl, rfl⟩
  | consume snapshot range =>
    obtain rfl : snapshot.path = path := beq_iff_eq.mp hop
    obtain ⟨hstore, hentry, hloads, hscans⟩ := h.get hs scanner snapshot.version (.given snapshot.text)
    obtain ⟨number, hnumber, he⟩ := s.consume_cases scanner snapshot range
    obtain ⟨number', hnumber', he'⟩ := t.consume_cases scanner snapshot range
    have hown := isOf_get hs hnumber
    obtain rfl : number' = (s.getSnapshot scanner snapshot).store.place snapshot.path number := by
      have hsame := hnumber'.symm.trans hentry
      rw [← getSnapshot, hnumber] at hsame
      exact Option.some.inj hsame
    obtain ⟨hconsumed, hreleased⟩ := hstore.consumeForRange hown range
    have hpaths := (s.getSnapshot scanner snapshot).store.paths_consumeForRange number range
    simp only [renumbered, Store.perform, he, he']
    refine ⟨hconsumed, ?_, ?_, hloads, hscans, hreleased, rfl⟩
    · simp only [Step.number?, hnumber, hnumber', place, hpaths, Option.map_some]
    · simp only [Step.number?, hnumber, isOf, hpaths]
      rintro n ⟨⟩
      exact hown
  | consumeForRange number range =>
    obtain ⟨hstore, hreleased⟩ := h.consumeForRange hop range
    have hpaths := s.paths_consumeForRange number range
    refine ⟨hstore, ?_, ?_, rfl, rfl, hreleased, rfl⟩
    · simp only [Step.number?, renumbered, Store.perform, place, hpaths, Option.map_some]
    · simp only [Step.number?, Store.perform, isOf, hpaths]
      rintro n ⟨⟩
      exact hop
  | evict other =>
    obtain rfl : other = path := beq_iff_eq.mp hop
    obtain ⟨hstore, hremoved⟩ := h.evictStale none
    exact ⟨hstore, rfl, by simp [Step.number?, Store.perform], rfl, rfl, rfl, hremoved⟩
  | clear => exact ⟨⟨h.entries, rfl⟩, rfl, by simp [Step.number?, Store.perform], rfl, rfl, rfl, rfl⟩

end Alone

/-! ## Whole runs -/

theorem stepsFor_concat (scanner : Scanner) (ops : List Operation) (op : Operation) (path : Text) :
    stepsFor scanner (ops ++ [op]) path = stepsFor scanner ops path ++
      if (after scanner {} ops).addressed path op then
        [⟨after scanner {} ops, op, (after scanner {} ops).perform scanner op⟩] else [] := by
  unfold stepsFor
  rw [trace_concat, List.filter_append, List.filter_cons, List.filter_nil]

theorem Alone.after (scanner : Scanner) (ops : List Operation) (path : Text) :
    Alone path (after scanner {} ops) (after scanner {} (operationsFor scanner ops path)) ∧
      (stepsFor scanner ops path).map (fun step => step.answer (step.outcome.store.place path)) =
        (trace scanner {} (operationsFor scanner ops path)).map (·.answer id) := by
  induction ops using List.reverseRecOn with
  | nil => exact ⟨⟨rfl, rfl⟩, rfl⟩
  | append_singleton ops op ih =>
    obtain ⟨hstore, hanswers⟩ := ih
    have hs := Indexed.after scanner ops
    unfold operationsFor at hstore hanswers ⊢
    rw [stepsFor_concat, after_concat]
    cases hop : (Store.after scanner {} ops).addressed path op with
    | false =>
      simp only [Bool.false_eq_true, if_false, List.append_nil]
      exact ⟨hstore.perform_other hs scanner hop, hanswers⟩
    | true =>
      have hagree := hstore.perform hs scanner hop
      simp only [if_true, List.map_append, List.map_singleton, after_concat, trace_concat, hanswers]
      exact ⟨hagree.store, by rw [hagree.answer]⟩

/-- If all that is addressed to other paths is left out of a run, what is left of it is answered as
before, call by call: the same entries with the same diagnostics are given and the same ones are
consumed, the same is handed out and dropped, and loaders are called at the same times. In the end both
runs have made the same entries of the path, and the same versions of it are cached. -/
theorem answers_for_path (scanner : Scanner) (ops : List Operation) (path : Text) :
    let alone := operationsFor scanner ops path
    (stepsFor scanner ops path).map (fun step => step.answer (step.outcome.store.place path)) =
        (trace scanner {} alone).map (·.answer id) ∧
      (after scanner {} ops).entries.filter (·.path == path) = (after scanner {} alone).entries ∧
      ∀ version, (after scanner {} ops).contains (snapshotKey path version) =
        (after scanner {} alone).contains (snapshotKey path version) := by
  obtain ⟨hstore, hanswers⟩ := Alone.after scanner ops path
  refine ⟨hanswers, hstore.entries.symm, ?_⟩
  intro version
  exact (hstore.contains_key (Indexed.after scanner ops) version).symm

-- The second path begins like a key of the first one, and the first entry of `a` is used when it has
-- been dropped.
example :
    let scanner : Scanner := ({} : ScanSettings).findings
    let text : Text := "x = 1;\nx = 2;\n".toList
    let other : Text := "a:1".toList
    operationsFor scanner [.get other 1 (.given text), .get ['a'] 1 (.given text), .evict other,
        .get other 2 (.loader none), .consumeForRange 0 ⟨0, 14⟩, .get ['a'] 2 (.loader (some text)),
        .consumeForRange 1 ⟨0, 14⟩, .clear] ['a'] =
      [.get ['a'] 1 (.given text), .get ['a'] 2 (.loader (some text)), .consumeForRange 0 ⟨0, 14⟩,
        .clear] := by
  decide +kernel

end Store

end ScadAdvisor
