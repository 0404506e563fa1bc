import Mathlib.Algebra.GroupWithZero.Nat
import Mathlib.Data.List.DropRight
import Mathlib.Data.List.Induction
import Mathlib.Data.List.Nodup
import Mathlib.Tactic.Common
import ScadAdvisor.Proofs.Snapshot
import ScadAdvisor.Proofs.Store.Run
import ScadAdvisor.Scan

/-! # What the store holds and counts -/

namespace ScadAdvisor.Store

/-- The entries that the store would find again. -/
def cached (s : Store) : List Entry := s.live.filterMap fun item => s.entries[item.2]?

theorem mem_cached (s : Store) (entry : Entry) :
    entry ∈ s.cached ↔ ∃ item ∈ s.live, s.entries[item.2]? = some entry := List.mem_filterMap

/-! ## Dropping versions -/

@[simp] theorem cached_evictStale (s : Store) (path : Text) (keep : Option Int) :
    (s.evictStale path keep).1.cached =
      s.cached.filter fun entry => !(entry.path == path && keep != some entry.version) := by
  unfold cached evictStale
  rw [List.filterMap_filter, List.filter_filterMap]
  apply List.filterMap_congr
  rintro ⟨key, number⟩ -
  -- A number without an entry would never be stale, but `cached` leaves it out as well.
  have hfilter : ∀ (stale : Entry → Bool) (entry : Option Entry),
      (if !entry.any stale then entry else none) = entry.filter (!stale ·) := by
    intro stale entry
    cases entry <;> simp [Option.filter]
  exact hfilter _ _

theorem size_evictStale (s : Store) (path : Text) (keep : Option Int) :
    (s.evictStale path keep).1.size + (s.evictStale path keep).1.evictions = s.size + s.evictions := by
  have hlen := List.length_eq_length_filter_add (l := s.live) fun item => s.isStale path keep item.2
  simp only [evictStale, size]
  omega

/-! ## The representation -/

/-- Every cached entry is found by its key, no path has two of them, and none is lost count of. -/
structure Indexed (s : Store) : Prop where
  keyed : ∀ item ∈ s.live, ∃ entry, s.entries[item.2]? = some entry ∧ item.1 = entry.key
  keys : s.live.keys.Nodup
  paths : (s.cached.map Entry.path).Nodup
  size : s.size + s.evictions = s.misses

namespace Indexed

theorem initial : Indexed {} := ⟨by simp, by simp [Table.keys], by simp [cached], rfl⟩

theorem congr {s t : Store} (h : Indexed s) (hmade : t.made = s.made) (hlive : t.live = s.live)
    (hevictions : t.evictions = s.evictions) (hmisses : t.misses = s.misses) : Indexed t := by
  have hentry : ∀ number : Nat,
      (t.entries[number]?).map Entry.asMade = (s.entries[number]?).map Entry.asMade := by
    intro number
    rw [← getElem?_made, ← getElem?_made, hmade]
  refine ⟨?_, by rw [hlive]; exact h.keys, ?_, ?_⟩
  · intro item hitem
    rw [hlive] at hitem
    obtain ⟨entry, hs, hkey⟩ := h.keyed item hitem
    have ht := hentry item.2
    rw [hs] at ht
    obtain ⟨entry', ht', heq⟩ := Option.map_eq_some_iff.mp ht
    injection heq with hpath hversion
    exact ⟨entry', ht', by rw [hkey, Entry.key, Entry.key, hpath, hversion]⟩
  · have hpaths : t.cached.map Entry.path = s.cached.map Entry.path := by
      unfold cached
      rw [List.map_filterMap, List.map_filterMap, hlive]
      apply List.filterMap_congr
      intro item _
      have hpath := congrArg (Option.map Entry.path) (hentry item.2)
      rw [Option.map_map, Option.map_map] at hpath
      exact hpath
    rw [hpaths]
    exact h.paths
  · rw [Store.size, hlive, hevictions, hmisses]
    exact h.size

theorem keys_eq {s : Store} (h : Indexed s) : s.live.keys = s.cached.map Entry.key := by
  unfold Table.keys cached
  rw [List.map_filterMap, ← List.filterMap_eq_map]
  apply List.filterMap_congr
  intro item hitem
  obtain ⟨entry, he, hkey⟩ := h.keyed item hitem
  simp [he, hkey]

theorem size_eq {s : Store} (h : Indexed s) : s.size = s.cached.length := by
  have hlen := congrArg List.length h.keys_eq
  rwa [Table.keys, List.length_map, List.length_map] at hlen

theorem version_ne {s : Store} (h : Indexed s) {path : Text} {version : Int}
    (hkey : snapshotKey path version ∉ s.live.keys) {entry : Entry} (hentry : entry ∈ s.cached)
    (hpath : entry.path = path) : version ≠ entry.version := by
  rintro rfl
  rw [h.keys_eq, ← hpath] at hkey
  exact hkey (List.mem_map.mpr ⟨entry, hentry, rfl⟩)

theorem cached_evicted {s : Store} (h : Indexed s) {path : Text} {version : Int}
    (hkey : snapshotKey path version ∉ s.live.keys) :
    (s.evictStale path (some version)).1.cached = s.cached.filter (·.path != path) := by
  rw [cached_evictStale]
  apply List.filter_congr
  intro entry hentry
  by_cases hpath : entry.path = path
  · simp [hpath, h.version_ne hkey hentry hpath]
  · have hne : (entry.path == path) = false := beq_eq_false_iff_ne.mpr hpath
    simp [hne, bne]

theorem evictStale {s : Store} (h : Indexed s) (path : Text) (keep : Option Int) :
    Indexed (s.evictStale path keep).1 := by
  refine ⟨?_, ?_, ?_, ?_⟩
  · intro item hitem
    exact h.keyed item (List.mem_of_mem_filter hitem)
  · exact h.keys.sublist (List.filter_sublist.map _)
  · rw [cached_evictStale]
    exact h.paths.sublist (List.filter_sublist.map _)
  · rw [size_evictStale, h.size]
    rfl

theorem insert {s : Store} (h : Indexed s) {entry : Entry} (hkey : entry.key ∉ s.live.keys)
    (hpath : ∀ other ∈ s.cached, other.path ≠ entry.path) : Indexed (s.insert entry) := by
  have hlive : (s.insert entry).live = s.live ++ [(entry.key, s.entries.length)] :=
    Table.put_of_not_mem _ _ _ hkey
  have hold : ∀ item ∈ s.live, (s.insert entry).entries[item.2]? = s.entries[item.2]? := by
    intro item hitem
    obtain ⟨other, hother, -⟩ := h.keyed item hitem
    exact List.getElem?_append_left (List.getElem?_eq_some_iff.mp hother).1
  have hnew : (s.insert entry).entries[s.entries.length]? = some entry := by simp [Store.insert]
  have hcached : (s.insert entry).cached = s.cached ++ [entry] := by
    rw [cached, hlive, List.filterMap_append, List.filterMap_congr hold]
    simp [hnew, cached]
  refine ⟨?_, ?_, ?_, ?_⟩
  · rw [hlive]
    intro item hitem
    rcases List.mem_append.mp hitem with hitem | hitem
    · rw [hold item hitem]
      exact h.keyed item hitem
    · rw [List.mem_singleton.mp hitem]
      exact ⟨entry, hnew, rfl⟩
  · rw [hlive, Table.keys, List.map_append]
    refine List.nodup_append.mpr ⟨h.keys, by simp, ?_⟩
    rintro key hmem key' hnew rfl
    obtain rfl : key = entry.key := by simpa using hnew
    exact hkey hmem
  · rw [hcached, List.map_append]
    refine List.nodup_append.mpr ⟨h.paths, by simp, ?_⟩
    rintro path hmem path' hnew rfl
    obtain ⟨other, hother, rfl⟩ := List.mem_map.mp hmem
    exact hpath other hother (by simpa using hnew)
  · have hsize : (s.insert entry).size = s.size + 1 := by simp [Store.size, hlive]
    have hcount := h.size
    rw [hsize]
    simp only [Store.insert]
    omega

theorem get {s : Store} (h : Indexed s) (scanner : Scanner) (path : Text) (version : Int)
    (source : TextSource) : Indexed (s.get scanner path version source).store := by
  rcases s.get_cases scanner path version source with
    ⟨number, -, he⟩ | ⟨-, -, log, he⟩ | ⟨hkey, text, -, loads, log, he⟩
  · rw [he]
    exact h.congr rfl rfl rfl rfl
  · rw [he]
    exact h.evictStale path (some version)
  · rw [he]
    refine (h.evictStale path (some version)).insert ?_ ?_
    · exact fun hmem => hkey ((List.filter_sublist.map _).subset hmem)
    · intro other hother
      rw [h.cached_evicted hkey, List.mem_filter] at hother
      simpa using hother.2

theorem perform {s : Store} (h : Indexed s) (scanner : Scanner) (op : Operation) :
    Indexed (s.perform scanner op).store := by
  refine perform_keeps ?_ ?_ ?_ ?_ h op
  · intro s path version source h
    exact h.get scanner path version source
  · intro s number range h
    obtain ⟨entries, he⟩ := s.consumeForRange_eq number range
    exact h.congr (s.made_consumeForRange number range) (by rw [he]) (by rw [he]) (by rw [he])
  · intro s path h
    exact h.evictStale path none
  · intro s h
    exact ⟨by simp [clear], by simp [clear, Table.keys], by simp [clear, cached], rfl⟩

theorem after (scanner : Scanner) (ops : List Operation) : Indexed (after scanner {} ops) := by
  induction ops using List.reverseRecOn with
  | nil => exact initial
  | append_singleton ops op ih =>
    rw [after_concat]
    exact ih.perform scanner op

theorem entry_of_key {s : Store} (h : Indexed s) {path : Text} {version : Int} {item : Text × Nat}
    (hitem : item ∈ s.live) (hkey : item.1 = snapshotKey path version) :
    ∃ entry, s.entries[item.2]? = some entry ∧ entry.path = path ∧ entry.version = version := by
  obtain ⟨entry, hentry, hentryKey⟩ := h.keyed item hitem
  exact ⟨entry, hentry, snapshotKey_inj (hentryKey.symm.trans hkey)⟩

theorem get_entry {s : Store} (h : Indexed s) {scanner : Scanner} {path : Text} {version : Int}
    {source : TextSource} {number : Nat}
    (hnumber : (s.get scanner path version source).entry = some number) :
    ∃ entry, (s.get scanner path version source).store.entries[number]? = some entry ∧
      entry.path = path ∧ entry.version = version := by
  rcases s.get_cases scanner path version source with
    ⟨found, hkey, he⟩ | ⟨-, -, log, he⟩ | ⟨-, text, -, loads, log, he⟩
  · rw [he] at hnumber ⊢
    cases hnumber
    exact h.entry_of_key (Table.mem_of_get? hkey) rfl
  · rw [he] at hnumber
    cases hnumber
  · rw [he] at hnumber ⊢
    cases hnumber
    exact ⟨_, List.getElem?_concat_length, rfl, rfl⟩

end Indexed

/-! ## Counting -/

theorem get_counts (scanner : Scanner) (s : Store) (path : Text) (version : Int) (source : TextSource) :
    let fetch := s.get scanner path version source
    fetch.store.hits + fetch.store.misses = s.hits + s.misses + fetch.entry.toList.length ∧
      fetch.store.misses = s.misses + fetch.scans := by
  rcases s.get_cases scanner path version source with
    ⟨number, -, h⟩ | ⟨-, -, log, h⟩ | ⟨-, text, -, loads, log, h⟩
  · simp only [h, Option.toList_some, List.length_singleton]
    omega
  · simp only [h, Option.toList_none, List.length_nil]
    exact ⟨rfl, rfl⟩
  · simp only [h, Option.toList_some, List.length_singleton]
    exact ⟨rfl, rfl⟩

theorem perform_counts (scanner : Scanner) (s : Store) (op : Operation) (hop : op ≠ .clear) :
    let outcome := s.perform scanner op
    outcome.store.hits + outcome.store.misses = s.hits + s.misses + outcome.entry.toList.length ∧
      outcome.store.misses = s.misses + outcome.scans := by
  cases op with
  | get path version source => exact s.get_counts scanner path version source
  | getSnapshot snapshot => exact s.get_counts scanner _ _ _
  | consume snapshot range =>
    obtain ⟨number, hnumber, h⟩ := s.consume_cases scanner snapshot range
    obtain ⟨entries, he⟩ := (s.getSnapshot scanner snapshot).store.consumeForRange_eq number range
    simp only [perform, h, he]
    exact s.get_counts scanner snapshot.path snapshot.version (.given snapshot.text)
  | consumeForRange number range =>
    obtain ⟨entries, he⟩ := s.consumeForRange_eq number range
    simp only [perform, he]
    exact ⟨rfl, rfl⟩
  | evict path => exact ⟨rfl, rfl⟩
  | clear => exact absurd rfl hop

end ScadAdvisor.Store

namespace ScadAdvisor

def Step.answered (step : Step) : Bool := step.operation.request?.isSome && step.outcome.entry.isSome

/-- The steps behind the last time that the store was cleared. -/
def sinceClear (steps : List Step) : List Step := steps.rtakeWhile (·.operation != .clear)

namespace Store

theorem perform_entry_of_not_request (scanner : Scanner) (s : Store) (op : Operation)
    (hop : op.request? = none) : (s.perform scanner op).entry = none := by
  cases op with
  | get | getSnapshot | consume => simp [Operation.request?] at hop
  | consumeForRange | evict | clear => rfl

theorem counts_after (scanner : Scanner) (ops : List Operation) :
    let s := after scanner {} ops
    let recent := sinceClear (trace scanner {} ops)
    s.hits + s.misses = recent.countP Step.answered ∧ s.misses = (recent.map (·.outcome.scans)).sum := by
  induction ops using List.reverseRecOn with
  | nil => exact ⟨rfl, rfl⟩
  | append_singleton ops op ih =>
    simp only [after_concat, trace_concat, sinceClear, List.rtakeWhile_concat] at ih ⊢
    by_cases hop : op = .clear
    · subst hop
      exact ⟨rfl, rfl⟩
    · have hanswered : ∀ outcome : Outcome, (op.request? = none → outcome.entry = none) →
          [(⟨after scanner {} ops, op, outcome⟩ : Step)].countP Step.answered =
            outcome.entry.toList.length := by
        rintro ⟨_, entry, _, _, _, _⟩ hrequest
        cases hr : op.request? <;> cases entry <;> simp_all [Step.answered]
      obtain ⟨hrequests, hscans⟩ := (after scanner {} ops).perform_counts scanner op hop
      rw [if_pos (by simpa using hop), List.countP_append, List.map_append, List.sum_append,
        hanswered _ (perform_entry_of_not_request scanner _ op), hrequests, hscans, ih.1, ih.2]
      exact ⟨rfl, by simp⟩

/-- After every run: each cached entry stands under the key of its path and version, no path has two
of them, every scanned snapshot is cached or was evicted, and since the store was last cleared its
counters have kept up with the requests that were given an entry and with the scans. -/
theorem accounts_balance (scanner : Scanner) (ops : List Operation) :
    let s := after scanner {} ops
    let recent := sinceClear (trace scanner {} ops)
    (∀ key number, (key, number) ∈ s.live →
      ∃ entry, s.entries[number]? = some entry ∧ key = snapshotKey entry.path entry.version) ∧
      s.live.keys.Nodup ∧ (s.cached.map Entry.path).Nodup ∧
      s.size + s.evictions = s.misses ∧
      s.hits + s.misses = recent.countP Step.answered ∧
      (recent.map (·.outcome.scans)).sum = s.misses := by
  intro s recent
  have h : Indexed s := Indexed.after scanner ops
  obtain ⟨hrequests, hscans⟩ := counts_after scanner ops
  exact ⟨fun key number hlive => h.keyed (key, number) hlive, h.keys, h.paths, h.size, hrequests,
    hscans.symm⟩

/-! ## Failed loads -/

theorem get_entry_eq_none {scanner : Scanner} {s : Store} {path : Text} {version : Int}
    {source : TextSource} (h : (s.get scanner path version source).entry = none) :
    snapshotKey path version ∉ s.live.keys ∧
      (s.get scanner path version source).store = (s.evictStale path (some version)).1 := by
  rcases s.get_cases scanner path version source with
    ⟨number, -, he⟩ | ⟨hkey, -, log, he⟩ | ⟨-, text, -, loads, log, he⟩
  · rw [he] at h
    cases h
  · exact ⟨hkey, by rw [he]⟩
  · rw [he] at h
    cases h

namespace Indexed

variable {s : Store} {path : Text} {version : Int}

theorem evictions_evicted (h : Indexed s) (hkey : snapshotKey path version ∉ s.live.keys) :
    (s.evictStale path (some version)).1.evictions =
      s.evictions + s.cached.countP (·.path == path) := by
  have hsize := s.size_evictStale path (some version)
  have hlen := List.length_eq_length_filter_add (l := s.cached) (·.path == path)
  rw [(h.evictStale path (some version)).size_eq, h.size_eq, h.cached_evicted hkey] at hsize
  rw [List.countP_eq_length_filter]
  simp only [bne] at hsize
  omega

theorem evicted_eq_self_iff (h : Indexed s) (hkey : snapshotKey path version ∉ s.live.keys) :
    (s.evictStale path (some version)).1 = s ↔ ∀ entry ∈ s.cached, entry.path ≠ path := by
  have hcached := h.cached_evicted hkey
  constructor
  · intro hsame entry hentry
    rw [hsame] at hcached
    rw [hcached, List.mem_filter] at hentry
    simpa using hentry.2
  · intro hother
    have hsize : (s.evictStale path (some version)).1.size = s.size := by
      rw [(h.evictStale path (some version)).size_eq, h.size_eq, hcached, List.filter_eq_self.mpr]
      exact fun entry hentry => bne_iff_ne.mpr (hother entry hentry)
    have hlive : (s.evictStale path (some version)).1.live = s.live :=
      List.filter_sublist.eq_of_length hsize
    have hevictions : (s.evictStale path (some version)).1.evictions = s.evictions := by
      rw [h.evictions_evicted hkey, List.countP_eq_zero.mpr (by simpa using hother), Nat.add_zero]
    calc (s.evictStale path (some version)).1
        = { s with
            live := (s.evictStale path (some version)).1.live
            evictions := (s.evictStale path (some version)).1.evictions } := rfl
      _ = s := by rw [hlive, hevictions]

end Indexed

/-- The versions of a path are dropped before the text of a new one is loaded. If that fails, the
counters of requests stay, but what was cached for the path is gone with all that was handed out of
it. Nothing changes exactly if nothing was cached for the path. -/
theorem get_of_failed_load (scanner : Scanner) (ops : List Operation) (path : Text) (version : Int)
    (hfail : ((after scanner {} ops).get scanner path version (.loader none)).entry = none) :
    let s := after scanner {} ops
    let t := (s.get scanner path version (.loader none)).store
    t.entries = s.entries ∧ t.hits = s.hits ∧ t.misses = s.misses ∧
      t.cached = s.cached.filter (·.path != path) ∧
      t.evictions = s.evictions + s.cached.countP (·.path == path) ∧
      (t = s ↔ ∀ entry ∈ s.cached, entry.path ≠ path) := by
  intro s t
  have h : Indexed s := Indexed.after scanner ops
  obtain ⟨hkey, ht⟩ := get_entry_eq_none hfail
  simp only [t, s, ht]
  exact ⟨rfl, rfl, rfl, h.cached_evicted hkey, h.evictions_evicted hkey, h.evicted_eq_self_iff hkey⟩

/-- Two paths are cached, and the load of another version fails for one of them. -/
theorem failed_load_of_two_paths :
    let scanner : Scanner := ({} : ScanSettings).findings
    let text : Text := "x = 1;\nx = 2;\n".toList
    let ops : List Operation := [.consume ⟨['a'], 1, text⟩ ⟨0, 14⟩, .get ['b'] 7 (.given text)]
    let s := after scanner {} ops
    let t := (s.get scanner ['a'] 2 (.loader none)).store
    (s.get scanner ['a'] 2 (.loader none)).entry = none ∧
      s.cached = [⟨['a'], 1, scanner text, [0]⟩, ⟨['b'], 7, scanner text, []⟩] ∧
      t.cached = s.cached.filter (·.path != ['a']) ∧
      t.evictions = s.evictions + s.cached.countP (·.path == ['a']) ∧ t ≠ s := by
  intro scanner text ops s t
  have hfail : (s.get scanner ['a'] 2 (.loader none)).entry = none := by decide +kernel
  have hcached : s.cached = [⟨['a'], 1, scanner text, [0]⟩, ⟨['b'], 7, scanner text, []⟩] := by
    decide +kernel
  obtain ⟨-, -, -, hkept, hevictions, hsame⟩ := get_of_failed_load scanner ops ['a'] 2 hfail
  refine ⟨hfail, hcached, hkept, hevictions, ?_⟩
  intro heq
  exact hsame.mp heq ⟨['a'], 1, scanner text, [0]⟩ (by rw [hcached]; simp) rfl

/-- A load that fails is not without effect: the version before it is no longer cached and counts as
evicted, and if it is asked for again, what was handed out of it is handed out once more. -/
theorem failed_load_forgets :
    let scanner : Scanner := ({} : ScanSettings).findings
    let snapshot : Snapshot := ⟨['a'], 1, "x = 1;\nx = 2;\n".toList⟩
    let s := after scanner {} [.consume snapshot ⟨0, 14⟩]
    let fetch := s.get scanner ['a'] 2 (.loader none)
    fetch.entry = none ∧ fetch.loads = 1 ∧
      s.cached.length = 1 ∧ fetch.store.cached = [] ∧
      s.evictions = 0 ∧ fetch.store.evictions = 1 ∧
      (s.consume scanner snapshot ⟨0, 14⟩).2 = [] ∧
      (fetch.store.consume scanner snapshot ⟨0, 14⟩).2.length = 1 := by
  decide +kernel

end Store

end ScadAdvisor
