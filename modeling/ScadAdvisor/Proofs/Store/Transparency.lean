import Mathlib.Data.List.Induction
import Mathlib.Tactic.Common
import ScadAdvisor.Proofs.Store.Accounts

/-! # Cached and scanned anew

If a version of a path has one text, nobody can tell a cached entry from one that is scanned anew.
-/

namespace ScadAdvisor

/-- What the operation has for a text is the text of the version that it asks for. A loader that fails has
none. -/
def Operation.Supplies (texts : Text → Int → Text) (op : Operation) : Prop :=
  ∀ request ∈ op.request?, ∀ text ∈ op.source?.bind TextSource.get?, text = texts request.1 request.2

instance (texts : Text → Int → Text) (op : Operation) : Decidable (op.Supplies texts) :=
  inferInstanceAs (Decidable (∀ request ∈ _, ∀ text ∈ _, _))

namespace Store

def IsCached (s : Store) (path : Text) (version : Int) : Prop :=
  ∃ entry ∈ s.cached, entry.path = path ∧ entry.version = version

theorem Indexed.contains_iff {s : Store} (h : Indexed s) (path : Text) (version : Int) :
    s.contains (snapshotKey path version) = true ↔ s.IsCached path version := by
  unfold contains IsCached
  constructor
  · intro hsome
    obtain ⟨number, hnumber⟩ := Option.isSome_iff_exists.mp hsome
    have hmem := Table.mem_of_get? hnumber
    obtain ⟨entry, hentry, hmatch⟩ := h.entry_of_key hmem rfl
    exact ⟨entry, (s.mem_cached entry).mpr ⟨_, hmem, hentry⟩, hmatch⟩
  · rintro ⟨entry, hentry, rfl, rfl⟩
    rw [Option.isSome_iff_ne_none, ne_eq, Table.get?_eq_none_iff, not_not, h.keys_eq]
    exact List.mem_map.mpr ⟨entry, hentry, rfl⟩

theorem get_entry_eq_none_iff (scanner : Scanner) (s : Store) (path : Text) (version : Int)
    (source : TextSource) :
    (s.get scanner path version source).entry = none ↔
      source = .loader none ∧ s.contains (snapshotKey path version) = false := by
  unfold contains
  rcases s.get_cases scanner path version source with
    ⟨number, hkey, he⟩ | ⟨hkey, rfl, log, he⟩ | ⟨-, text, hsource, loads, log, he⟩
  · simp [he, hkey]
  · simp [he, (Table.get?_eq_none_iff _ _).mpr hkey]
  · rw [he]
    refine iff_of_false (by simp) ?_
    rintro ⟨rfl, -⟩
    cases hsource

/-! ## Every entry is a scan of its text -/

def Scanned (scanner : Scanner) (texts : Text → Int → Text) (s : Store) : Prop :=
  ∀ entry ∈ s.made, entry.diagnostics = scanner (texts entry.path entry.version)

namespace Scanned

variable {scanner : Scanner} {texts : Text → Int → Text} {s : Store}

theorem get (h : Scanned scanner texts s) {path : Text} {version : Int} {source : TextSource}
    (hsource : ∀ text ∈ source.get?, text = texts path version) :
    Scanned scanner texts (s.get scanner path version source).store := by
  rcases s.get_cases scanner path version source with
    ⟨number, -, he⟩ | ⟨-, -, log, he⟩ | ⟨-, text, htext, loads, log, he⟩
  · rw [he]
    exact h
  · rw [he]
    exact h
  · rw [he]
    intro entry hentry
    rw [made, insert, List.map_append] at hentry
    rcases List.mem_append.mp hentry with hold | hnew
    · exact h entry hold
    · rw [List.mem_singleton.mp hnew]
      exact congrArg scanner (hsource text htext)

theorem perform (h : Scanned scanner texts s) {op : Operation} (hop : op.Supplies texts) :
    Scanned scanner texts (s.perform scanner op).store := by
  cases hrequest : op.request? with
  | some request =>
    obtain ⟨path, version⟩ := request
    obtain ⟨source, hsource⟩ : ∃ source, op.source? = some source := by
      cases op <;> simp_all [Operation.request?, Operation.source?]
    obtain ⟨-, -, hmade⟩ := s.perform_request scanner hrequest hsource
    unfold Scanned
    rw [hmade]
    apply h.get
    intro text htext
    exact hop (path, version) hrequest text (by simpa [hsource] using htext)
  | none =>
    cases op with
    | get | getSnapshot | consume => cases hrequest
    | consumeForRange number range =>
      unfold Scanned
      simp only [Store.perform, made_consumeForRange]
      exact h
    | evict | clear => exact h

theorem after {ops : List Operation} (hops : ∀ op ∈ ops, op.Supplies texts) :
    Scanned scanner texts (after scanner {} ops) := by
  induction ops using List.reverseRecOn with
  | nil => simp [Scanned, Store.after, made]
  | append_singleton ops op ih =>
    rw [after_concat]
    exact (ih fun other hother => hops other (List.mem_append_left _ hother)).perform
      (hops op (List.mem_append_right _ List.mem_cons_self))

end Scanned

/-! ## Requests -/

theorem Indexed.perform_entry {s : Store} (h : Indexed s) {scanner : Scanner} {op : Operation}
    {path : Text} {version : Int} {source : TextSource} (hop : op.request? = some (path, version))
    (hsource : op.source? = some source) {number : Nat}
    (hnumber : (s.perform scanner op).entry = some number) :
    ∃ entry, (s.perform scanner op).store.entries[number]? = some entry ∧
      entry.path = path ∧ entry.version = version := by
  obtain ⟨hentry, -, hmade⟩ := s.perform_request scanner hop hsource
  obtain ⟨found, hfound, hpath, hversion⟩ := h.get_entry (hentry.symm.trans hnumber)
  have hsame := congrArg (·[number]?) hmade
  simp only [getElem?_made, hfound, Option.map_some] at hsame
  obtain ⟨entry, hat, hentryMade⟩ := Option.map_eq_some_iff.mp hsame
  injection hentryMade with hpath' hversion'
  exact ⟨entry, hat, hpath'.trans hpath, hversion'.trans hversion⟩

/-- In a run in which every version of a path has one text, a request that succeeds is given an entry of
the path and the version that it asks for, with what a scan of the text finds now, whatever the run has
done before. It fails only if its loader has to be called and fails, and a loader is called once if the
version is not cached and not at all if it is. -/
theorem request_gives_fresh_scan (scanner : Scanner) (texts : Text → Int → Text) (ops : List Operation)
    (hops : ∀ op ∈ ops, op.Supplies texts) (step : Step) (hstep : step ∈ trace scanner {} ops)
    (path : Text) (version : Int) (source : TextSource)
    (hrequest : step.operation.request? = some (path, version))
    (hsource : step.operation.source? = some source) :
    (∀ number, step.outcome.entry = some number →
      ∃ entry, step.outcome.store.entries[number]? = some entry ∧ entry.path = path ∧
        entry.version = version ∧ entry.diagnostics = scanner (texts path version)) ∧
      (step.outcome.entry = none ↔ source = .loader none ∧ ¬ step.before.IsCached path version) ∧
      (step.before.IsCached path version → step.outcome.loads = 0) ∧
      (¬ step.before.IsCached path version →
        step.outcome.loads = if source.isLoader then 1 else 0) := by
  obtain ⟨earlier, later, rfl, hbefore, houtcome⟩ := mem_trace hstep
  have hs : Indexed step.before := hbefore ▸ Indexed.after scanner earlier
  have hscanned : Scanned scanner texts step.before :=
    hbefore ▸ Scanned.after fun op hop => hops op (List.mem_append_left _ hop)
  obtain ⟨hentry, hloads, -⟩ := step.before.perform_request scanner hrequest hsource
  rw [get_loads] at hloads
  have hcached := hs.contains_iff path version
  rw [houtcome]
  refine ⟨?_, ?_, ?_, ?_⟩
  · intro number hnumber
    obtain ⟨entry, hat, rfl, rfl⟩ := hs.perform_entry hrequest hsource hnumber
    have hmade : entry.asMade ∈ (step.before.perform scanner step.operation).store.made :=
      List.mem_map_of_mem (List.mem_of_getElem? hat)
    have hop := hops step.operation (List.mem_append_right _ List.mem_cons_self)
    exact ⟨entry, hat, rfl, rfl, hscanned.perform hop entry.asMade hmade⟩
  · rw [hentry, get_entry_eq_none_iff, ← hcached, Bool.not_eq_true]
  · intro hin
    rw [hloads, hcached.mpr hin, Bool.not_true, Bool.and_false]
    rfl
  · intro hout
    rw [← hcached, Bool.not_eq_true] at hout
    rw [hloads, hout, Bool.not_false, Bool.and_true]

/-- The version is consumed, dropped for another one and asked for again: it is loaded once more, and then
it is found though its loader would fail. -/
theorem fresh_scan_of_dropped_version :
    let scanner : Scanner := ({} : ScanSettings).findings
    let texts : Text → Int → Text := fun _ version =>
      if version = 1 then "2D = 1;\n2D = 2;\n".toList else []
    let ops : List Operation := [.consume ⟨['a'], 1, texts ['a'] 1⟩ ⟨0, 16⟩, .get ['a'] 2 (.given []),
      .get ['a'] 1 (.loader (some (texts ['a'] 1))), .get ['a'] 1 (.loader none)]
    let s := after scanner {} (ops.take 2)
    let t := after scanner {} (ops.take 3)
    let missed : Step := ⟨s, .get ['a'] 1 (.loader (some (texts ['a'] 1))),
      s.perform scanner (.get ['a'] 1 (.loader (some (texts ['a'] 1))))⟩
    let found : Step := ⟨t, .get ['a'] 1 (.loader none), t.perform scanner (.get ['a'] 1 (.loader none))⟩
    (∀ op ∈ ops, op.Supplies texts) ∧ missed ∈ trace scanner {} ops ∧ found ∈ trace scanner {} ops ∧
      missed.outcome.loads = 1 ∧ found.outcome.loads = 0 ∧
      found.outcome.entry = some 2 ∧
      ∃ entry, found.outcome.store.entries[2]? = some entry ∧ entry.path = ['a'] ∧ entry.version = 1 ∧
        entry.diagnostics = scanner (texts ['a'] 1) := by
  intro scanner texts ops s t missed found
  have hops : ∀ op ∈ ops, op.Supplies texts := by decide +kernel
  have hmissed : missed ∈ trace scanner {} ops := by decide +kernel
  have hfound : found ∈ trace scanner {} ops := by decide +kernel
  have hentry : found.outcome.entry = some 2 := by decide +kernel
  obtain ⟨hgiven, -⟩ :=
    request_gives_fresh_scan scanner texts ops hops found hfound ['a'] 1 (.loader none) rfl rfl
  exact ⟨hops, hmissed, hfound, by decide +kernel, by decide +kernel, hentry, hgiven 2 hentry⟩

end Store

end ScadAdvisor
