import ScadAdvisor.Proofs.Store.Accounts
import ScadAdvisor.Proofs.Store.Release

/-! # One entry for each version

What was handed out is kept with the entry, so nothing is handed out twice as long as no entry is
made twice. The store drops old versions, and would make them anew. It never has to if the versions
of a path are asked for in order.
-/

namespace ScadAdvisor

def Operation.versionOf (path : Text) (op : Operation) : Option Int :=
  op.request?.bind fun (other, version) => if other = path then some version else none

theorem Operation.versionOf_eq {op : Operation} {other : Text} {version : Int}
    (h : op.request? = some (other, version)) (path : Text) :
    op.versionOf path = if other = path then some version else none := by
  rw [versionOf, h]
  rfl

def Entry.identity (entry : Entry) : Text × Int := (entry.path, entry.version)

/-- The path and the version for which a step makes an entry. -/
def Step.made (step : Step) : Option (Text × Int) :=
  if step.outcome.scans = 0 then none else step.operation.request?

namespace Store

/-! ## What was made -/

theorem get_made (scanner : Scanner) (s : Store) (path : Text) (version : Int) (source : TextSource) :
    (s.get scanner path version source).store.made.map Entry.identity =
      s.made.map Entry.identity ++
        (if (s.get scanner path version source).scans = 0 then none else some (path, version)).toList := by
  rcases s.get_cases scanner path version source with
    ⟨number, -, h⟩ | ⟨-, -, log, h⟩ | ⟨-, text, -, loads, log, h⟩
  · simp [h, made]
  · simp [h, made, evictStale]
  · simp [h, made, evictStale, insert, Entry.asMade, Entry.identity]

@[simp] theorem perform_made (scanner : Scanner) (s : Store) (op : Operation) :
    (s.perform scanner op).store.made.map Entry.identity =
      s.made.map Entry.identity ++
        (Step.made ⟨s, op, s.perform scanner op⟩).toList := by
  cases op with
  | get path version source => exact s.get_made scanner path version source
  | getSnapshot snapshot => exact s.get_made scanner _ _ _
  | consume snapshot range =>
    obtain ⟨number, -, h⟩ := s.consume_cases scanner snapshot range
    simp only [perform, h, made_consumeForRange]
    exact s.get_made scanner snapshot.path snapshot.version (.given snapshot.text)
  | consumeForRange number range => simp [perform, Step.made]
  | evict path => simp [perform, evict, evictStale, made, Step.made]
  | clear => simp [perform, clear, made, Step.made]

theorem made_after (scanner : Scanner) (ops : List Operation) :
    (after scanner {} ops).made.map Entry.identity =
      (trace scanner {} ops).filterMap Step.made := by
  induction ops using List.reverseRecOn with
  | nil => rfl
  | append_singleton ops op ih =>
    rw [after_concat, trace_concat, List.filterMap_append, ← ih, perform_made]
    cases h : Step.made ⟨after scanner {} ops, op, (after scanner {} ops).perform scanner op⟩ <;>
      simp [h]

/-! ## The newest version -/

theorem countP_le_one {α : Type} {R : α → α → Prop} {p : α → Bool} {l : List α} (h : l.Pairwise R)
    (hp : ∀ a b, p a = true → p b = true → ¬ R a b) : l.countP p ≤ 1 := by
  induction h with
  | nil => simp
  | @cons a l ha _ ih =>
    by_cases hpa : p a = true
    · have hnone : l.countP p = 0 :=
        List.countP_eq_zero.mpr fun b hb hpb => hp a b hpa hpb (ha b hb)
      rw [List.countP_cons_of_pos hpa, hnone]
    · rw [List.countP_cons_of_neg hpa]
      exact ih

/-- The versions of a path are those that were asked for, no two entries have the same, and the entry
of the newest is cached. -/
structure Newest (path : Text) (asked : List Int) (s : Store) : Prop where
  mem_asked : ∀ entry ∈ s.made, entry.path = path → entry.version ∈ asked
  once : s.made.Pairwise fun a b => a.path = path → b.path = path → a.version ≠ b.version
  newest : ∀ (number : Nat) (entry : Entry), s.made[number]? = some entry → entry.path = path →
    (∀ v ∈ asked, v ≤ entry.version) → number ∈ s.live.map Prod.snd

namespace Newest

variable {path : Text} {asked : List Int} {s : Store}

theorem initial (path : Text) : Newest path [] {} := ⟨by simp [made], by simp [made], by simp [made]⟩

theorem congr {t : Store} (h : Newest path asked s) (hmade : t.made = s.made) (hlive : t.live = s.live) :
    Newest path asked t :=
  ⟨hmade ▸ h.mem_asked, hmade ▸ h.once, by rw [hmade, hlive]; exact h.newest⟩

theorem ask (h : Newest path asked s) (more : List Int) : Newest path (asked ++ more) s := by
  refine ⟨?_, h.once, ?_⟩
  · intro entry hentry hpath
    exact List.mem_append_left _ (h.mem_asked entry hentry hpath)
  · intro number entry hentry hpath hnewest
    exact h.newest number entry hentry hpath fun v hv => hnewest v (List.mem_append_left _ hv)

theorem version_ne (h : Newest path asked s) (hs : Indexed s) {version : Int}
    (hkey : snapshotKey path version ∉ s.live.keys) (hle : ∀ v ∈ asked, v ≤ version) :
    ∀ entry ∈ s.made, entry.path = path → entry.version ≠ version := by
  rintro entry hentry hpath rfl
  -- An entry of this version is of the newest one, so it is cached, and its key is in use.
  obtain ⟨number, hnumber⟩ := List.getElem?_of_mem hentry
  obtain ⟨item, hitem, rfl⟩ := List.mem_map.mp (h.newest number entry hnumber hpath hle)
  obtain ⟨found, hfound, hitemKey⟩ := hs.keyed item hitem
  rw [getElem?_made, hfound] at hnumber
  cases hnumber
  rw [← hpath] at hkey
  exact hkey (List.mem_map.mpr ⟨item, hitem, hitemKey⟩)

theorem evictStale (h : Newest path asked s) (other : Text) (keep : Option Int)
    (hother : other = path → ∀ entry ∈ s.made, entry.path = path → ∃ v ∈ asked, entry.version < v) :
    Newest path asked (s.evictStale other keep).1 := by
  refine ⟨h.mem_asked, h.once, ?_⟩
  intro number entry hentry hpath hnewest
  obtain ⟨item, hitem, rfl⟩ := List.mem_map.mp (h.newest number entry hentry hpath hnewest)
  have hne : entry.path ≠ other := by
    rintro rfl
    obtain ⟨v, hv, hlt⟩ := hother hpath entry (List.mem_of_getElem? hentry) hpath
    exact absurd (hnewest v hv) (Int.not_le.mpr hlt)
  refine List.mem_map.mpr ⟨item, List.mem_filter.mpr ⟨hitem, ?_⟩, rfl⟩
  obtain ⟨found, hfound, rfl⟩ := Option.map_eq_some_iff.mp ((getElem?_made _ _).symm.trans hentry)
  have hfound' : s.entries[item.2]? = some found := hfound
  have hpath' : (found.path == other) = false := beq_eq_false_iff_ne.mpr hne
  simp [isStale, hfound', hpath']

theorem insert (h : Newest path asked s) {entry : Entry} (hkey : entry.key ∉ s.live.keys)
    (hnew : entry.path = path → entry.version ∈ asked ∧
      ∀ other ∈ s.made, other.path = path → other.version ≠ entry.version) :
    Newest path asked (s.insert entry) := by
  have hmade : (s.insert entry).made = s.made ++ [entry.asMade] := by simp [made, Store.insert]
  have hlive : (s.insert entry).live.map Prod.snd = s.live.map Prod.snd ++ [s.entries.length] := by
    simp [Store.insert, Table.put_of_not_mem _ _ _ hkey]
  refine ⟨?_, ?_, ?_⟩
  · rw [hmade]
    intro other hother hpath
    rcases List.mem_append.mp hother with hother | hother
    · exact h.mem_asked other hother hpath
    · rw [List.mem_singleton.mp hother] at hpath ⊢
      exact (hnew hpath).1
  · rw [hmade, List.pairwise_append]
    refine ⟨h.once, by simp, ?_⟩
    intro other hother last hlast hpath hlastPath
    rw [List.mem_singleton.mp hlast] at hlastPath ⊢
    exact (hnew hlastPath).2 other hother hpath
  · rw [hmade, hlive]
    intro number other hother hpath hnewest
    rw [List.getElem?_append] at hother
    split at hother
    · exact List.mem_append_left _ (h.newest number other hother hpath hnewest)
    · rename_i hlen
      have hnumber : number - s.made.length = 0 := by
        by_contra hne
        rw [List.getElem?_eq_none (by simp; omega)] at hother
        cases hother
      have hmadeLen : s.made.length = s.entries.length := List.length_map ..
      exact List.mem_append_right _ (List.mem_singleton.mpr (by omega))

theorem evictOlder (h : Newest path asked s) (hs : Indexed s) {other : Text} {version : Int}
    (hkey : snapshotKey other version ∉ s.live.keys)
    (hle : other = path → ∀ v ∈ asked, v ≤ version) :
    Newest path (asked ++ (if other = path then some version else none).toList)
      (s.evictStale other (some version)).1 := by
  apply (h.ask _).evictStale
  rintro rfl entry hentry hpath
  -- No entry is of the version asked for now, so a newer one has been asked for than any that is.
  have hasked := hle rfl _ (h.mem_asked entry hentry hpath)
  have hne := h.version_ne hs hkey (hle rfl) entry hentry hpath
  exact ⟨version, by simp, by omega⟩

theorem get (h : Newest path asked s) (hs : Indexed s) (scanner : Scanner) (other : Text)
    (version : Int) (source : TextSource) (hle : other = path → ∀ v ∈ asked, v ≤ version) :
    Newest path (asked ++ (if other = path then some version else none).toList)
      (s.get scanner other version source).store := by
  rcases s.get_cases scanner other version source with
    ⟨number, -, he⟩ | ⟨hkey, -, log, he⟩ | ⟨hkey, text, -, loads, log, he⟩
  · rw [he]
    exact (h.ask _).congr rfl rfl
  · rw [he]
    exact h.evictOlder hs hkey hle
  · rw [he]
    refine (h.evictOlder hs hkey hle).insert ?_ ?_
    · exact fun hmem => hkey ((List.filter_sublist.map _).subset hmem)
    · rintro rfl
      exact ⟨by simp, h.version_ne hs hkey (hle rfl)⟩

theorem perform (h : Newest path asked s) (hs : Indexed s) (scanner : Scanner) (op : Operation)
    (hclear : op ≠ .clear) (hevict : op ≠ .evict path)
    (hle : ∀ version ∈ op.versionOf path, ∀ v ∈ asked, v ≤ version) :
    Newest path (asked ++ (op.versionOf path).toList) (s.perform scanner op).store := by
  have hget : ∀ other version source, op.request? = some (other, version) →
      Newest path (asked ++ (op.versionOf path).toList) (s.get scanner other version source).store := by
    intro other version source hop
    have hversion := Operation.versionOf_eq hop path
    rw [hversion]
    refine h.get hs scanner other version source fun hpath => hle version ?_
    rw [hversion, if_pos hpath]
    rfl
  cases op with
  | get other version source => exact hget other version source rfl
  | getSnapshot snapshot => exact hget snapshot.path snapshot.version (.given snapshot.text) rfl
  | consume snapshot range =>
    obtain ⟨number, -, he⟩ := s.consume_cases scanner snapshot range
    obtain ⟨entries, hentries⟩ := (s.getSnapshot scanner snapshot).store.consumeForRange_eq number range
    simp only [Store.perform, he]
    exact (hget snapshot.path snapshot.version (.given snapshot.text) rfl).congr
      (made_consumeForRange _ number range) (by rw [hentries]; rfl)
  | consumeForRange number range =>
    obtain ⟨entries, hentries⟩ := s.consumeForRange_eq number range
    refine (h.ask _).congr (s.made_consumeForRange number range) ?_
    simp only [Store.perform, hentries]
  | evict other =>
    refine (h.ask _).evictStale other none ?_
    rintro rfl
    exact absurd rfl hevict
  | clear => exact absurd rfl hclear

theorem after (path : Text) (scanner : Scanner) (ops : List Operation) (hclear : .clear ∉ ops)
    (hevict : .evict path ∉ ops) (hversions : (ops.filterMap (·.versionOf path)).Pairwise (· ≤ ·)) :
    Newest path (ops.filterMap (·.versionOf path)) (after scanner {} ops) := by
  induction ops using List.reverseRecOn with
  | nil => exact initial path
  | append_singleton ops op ih =>
    simp only [List.mem_append, List.mem_singleton, not_or] at hclear hevict
    have hlast : [op].filterMap (·.versionOf path) = (op.versionOf path).toList := by
      cases h : op.versionOf path <;> simp [h]
    rw [List.filterMap_append, hlast] at hversions ⊢
    obtain ⟨hearlier, -, hle⟩ := List.pairwise_append.mp hversions
    rw [after_concat]
    refine (ih hclear.1 hevict.1 hearlier).perform (Indexed.after scanner ops) scanner op
      (Ne.symm hclear.2) (Ne.symm hevict.2) ?_
    intro version hversion v hv
    exact hle v hv version (by simpa using hversion)

theorem number_eq (h : Newest path asked s) {m n : Nat} {a b : Entry} (ha : s.made[m]? = some a)
    (hb : s.made[n]? = some b) (hpath : a.path = path) (hpath' : b.path = path)
    (hversion : a.version = b.version) : m = n := by
  obtain ⟨hm, rfl⟩ := List.getElem?_eq_some_iff.mp ha
  obtain ⟨hn, rfl⟩ := List.getElem?_eq_some_iff.mp hb
  have hpairs := List.pairwise_iff_getElem.mp h.once
  rcases Nat.lt_trichotomy m n with hlt | rfl | hlt
  · exact absurd hversion (hpairs m n hm hn hlt hpath hpath')
  · rfl
  · exact absurd hversion.symm (hpairs n m hn hm hlt hpath' hpath)

theorem count_le_one (h : Newest path asked s) (version : Int) :
    (s.made.map Entry.identity).count (path, version) ≤ 1 := by
  rw [List.count, List.countP_map]
  apply countP_le_one h.once
  intro a b ha hb hne
  obtain ⟨hpath, hversion⟩ : a.path = path ∧ a.version = version := by
    simpa [Entry.identity] using ha
  obtain ⟨hpath', hversion'⟩ : b.path = path ∧ b.version = version := by
    simpa [Entry.identity] using hb
  exact hne hpath hpath' (hversion.trans hversion'.symm)

end Newest

/-! ## Whole runs -/

def callsFor (scanner : Scanner) (ops : List Operation) (path : Text) (version : Int) : List Call :=
  (calls scanner ops).filter fun call => call.entry.path == path && call.entry.version == version

theorem callsFor_eq_callsOn {path : Text} {asked : List Int} {scanner : Scanner} {ops : List Operation}
    (h : Newest path asked (after scanner {} ops)) {version : Int} {call : Call}
    (hcall : call ∈ callsFor scanner ops path version) :
    callsFor scanner ops path version = callsOn scanner ops call.number := by
  have hfound : ∀ other ∈ calls scanner ops,
      (after scanner {} ops).made[other.number]? = some other.entry.asMade := by
    intro other hother
    obtain ⟨entry, hentry, hledger⟩ := (Kept.after scanner ops).exists_entry hother
    have hmade := hledger.asMade other (List.mem_filter.mpr ⟨hother, beq_self_eq_true _⟩)
    rw [getElem?_made, hentry, Option.map_some, hmade]
  obtain ⟨hmem, hsnapshot⟩ := List.mem_filter.mp hcall
  obtain ⟨hpath, hversion⟩ : call.entry.path = path ∧ call.entry.version = version := by
    simpa using hsnapshot
  apply List.filter_congr
  intro other hother
  rw [Bool.eq_iff_iff, Bool.and_eq_true, beq_iff_eq, beq_iff_eq, beq_iff_eq]
  constructor
  · rintro ⟨hpath', hversion'⟩
    exact h.number_eq (hfound other hother) (hfound call hmem) hpath' hpath
      (hversion'.trans hversion.symm)
  · intro hnumber
    have hsame := hfound other hother
    rw [hnumber, hfound call hmem] at hsame
    injection hsame with hsame
    injection hsame with hpath' hversion'
    exact ⟨hpath' ▸ hpath, hversion' ▸ hversion⟩

/-- If the versions of a path are asked for in order, loads that fail included, and the path is
neither evicted nor the store cleared, then at most one entry is made for each version, and the calls
for it, on a cached entry or a dropped one, hand out each of its positions at most once. -/
theorem released_once_per_version (scanner : Scanner) (ops : List Operation) (path : Text)
    (hclear : .clear ∉ ops) (hevict : .evict path ∉ ops)
    (hversions : (ops.filterMap (·.versionOf path)).Pairwise (· ≤ ·)) (version : Int) :
    ((trace scanner {} ops).filterMap Step.made).count (path, version) ≤ 1 ∧
      ((callsFor scanner ops path version).flatMap Call.positions).Nodup ∧
      (∃ diagnostics, ∀ call ∈ callsFor scanner ops path version,
        call.entry.diagnostics = diagnostics ∧
        call.released = call.positions.filterMap (diagnostics[·]?)) ∧
      (trace scanner {} ops).flatMap (·.outcome.released) =
        (calls scanner ops).flatMap Call.released := by
  have hnewest := Newest.after path scanner ops hclear hevict hversions
  refine ⟨made_after scanner ops ▸ hnewest.count_le_one version, ?_⟩
  rcases hcalls : callsFor scanner ops path version with _ | ⟨call, rest⟩
  · exact ⟨by simp, ⟨[], by simp⟩, released_eq_calls scanner ops⟩
  · have hcall : call ∈ callsFor scanner ops path version := by simp [hcalls]
    obtain ⟨entry, -, hledger⟩ := (Kept.after scanner ops).exists_entry (List.mem_of_mem_filter hcall)
    rw [← callsOn, ← callsFor_eq_callsOn hnewest hcall] at hledger
    rw [← hcalls]
    refine ⟨hledger.consumed_eq ▸ hledger.nodup, ⟨entry.diagnostics, ?_⟩, released_eq_calls scanner ops⟩
    intro other hother
    exact ⟨hledger.diagnostics other hother, hledger.released other hother⟩

/-- The first version is dropped by a load that fails, and its entry is used on. -/
theorem released_once_behind_failed_load :
    let scanner : Scanner := ({} : ScanSettings).findings
    let text : Text := "2D = 1;\n2D = 2;\n".toList
    let ops : List Operation := [.consume ⟨['a'], 1, text⟩ ⟨8, 16⟩, .get ['a'] 2 (.loader none),
      .evict ['b'], .consumeForRange 0 ⟨0, 16⟩, .get ['a'] 2 (.given text), .consumeForRange 0 ⟨0, 16⟩]
    .clear ∉ ops ∧ .evict ['a'] ∉ ops ∧ ops.filterMap (·.versionOf ['a']) = [1, 2, 2] ∧
      (callsFor scanner ops ['a'] 1).map Call.positions = [[1, 2], [0], []] ∧
      ((trace scanner {} ops).filterMap Step.made).count (['a'], 1) ≤ 1 ∧
      ((callsFor scanner ops ['a'] 1).flatMap Call.positions).Nodup := by
  intro scanner text ops
  have hclear : .clear ∉ ops := by decide +kernel
  have hevict : .evict ['a'] ∉ ops := by decide +kernel
  have hasked : ops.filterMap (·.versionOf ['a']) = [1, 2, 2] := by decide +kernel
  obtain ⟨hcount, hnodup, -⟩ :=
    released_once_per_version scanner ops ['a'] hclear hevict (by rw [hasked]; decide) 1
  exact ⟨hclear, hevict, hasked, by decide +kernel, hcount, hnodup⟩

end Store

end ScadAdvisor
