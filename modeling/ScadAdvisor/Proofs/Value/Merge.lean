import Mathlib.Data.List.Induction
import Mathlib.Tactic.Common
import ScadAdvisor.Proofs.Table
import ScadAdvisor.Value.Basic

/-! # Layers over each other

A value at the end of a path of keys stays until a later layer has something there, or something other
than a mapping on the way.
-/

namespace ScadAdvisor.Value

/-! ## Paths of keys -/

def field? (key : Text) : Value → Option Value
  | .mapping entries => Table.get? key entries
  | _ => none

def at? : List Text → Value → Option Value
  | [], v => some v
  | key :: rest, v => (v.field? key).bind (at? rest)

/-- Whether a path leads through mappings to a key that is not there. -/
def leavesOpen : List Text → Value → Bool
  | [], _ => false
  | key :: rest, v =>
    match v.field? key with
    | some w => leavesOpen rest w
    | none => v.isMapping

theorem mapping_or (v : Value) : (∃ entries, v = .mapping entries) ∨ v.isMapping = false := by
  cases v <;> simp [isMapping]

theorem field?_of_not_mapping {v : Value} (hv : v.isMapping = false) (key : Text) :
    v.field? key = none := by
  cases v with
  | mapping => cases hv
  | _ => rfl

theorem isMapping_of_field? {v w : Value} {key : Text} (h : v.field? key = some w) :
    v.isMapping = true := by
  by_contra hv
  rw [field?_of_not_mapping (Bool.not_eq_true _ ▸ hv)] at h
  cases h

theorem leavesOpen_iff (path : List Text) (v : Value) :
    v.leavesOpen path = true ↔ v.at? path = none ∧
      ∀ above, above <+: path → above ≠ path → ∀ u, v.at? above = some u → u.isMapping = true := by
  induction path generalizing v with
  | nil => simp [leavesOpen, at?]
  | cons key rest ih =>
    -- A path above is empty, or begins with the same key.
    have habove : (∀ above, above <+: key :: rest → above ≠ key :: rest →
          ∀ u, v.at? above = some u → u.isMapping = true) ↔
        v.isMapping = true ∧ ∀ above, above <+: rest → above ≠ rest →
          ∀ u, (v.field? key).bind (at? above) = some u → u.isMapping = true := by
      constructor
      · intro h
        refine ⟨h [] List.nil_prefix (by simp) v rfl, ?_⟩
        intro above hpre hne u hu
        exact h (key :: above) (List.cons_prefix_cons.mpr ⟨rfl, hpre⟩) (by simpa using hne) u hu
      · rintro ⟨hv, h⟩ above hpre hne u hu
        cases above with
        | nil =>
          cases hu
          exact hv
        | cons k above =>
          obtain ⟨rfl, hrest⟩ := List.cons_prefix_cons.mp hpre
          exact h above hrest (by simpa using hne) u hu
    rw [habove, leavesOpen, at?]
    cases hfield : v.field? key with
    | none => simp
    | some w => simp [ih, isMapping_of_field? hfield]

/-! ## Well-formed values -/

mutual

def isWellFormed : Value → Bool
  | .mapping entries => entriesWellFormed entries
  | _ => true

def entriesWellFormed : List (Text × Value) → Bool
  | [] => true
  | (key, v) :: rest => !(Table.keys rest).contains key && v.isWellFormed && entriesWellFormed rest

end

theorem entriesWellFormed_iff (entries : Table Value) :
    entriesWellFormed entries = true ↔
      entries.keys.Nodup ∧ ∀ item ∈ entries, item.2.isWellFormed = true := by
  induction entries with
  | nil => simp [entriesWellFormed, Table.keys]
  | cons item rest ih =>
    obtain ⟨key, v⟩ := item
    simp only [entriesWellFormed, Bool.and_eq_true, ih]
    simp [Table.keys]
    tauto

theorem isWellFormed_field? {v w : Value} {key : Text} (hv : v.isWellFormed = true)
    (h : v.field? key = some w) : w.isWellFormed = true := by
  rcases v.mapping_or with ⟨entries, rfl⟩ | hnot
  · rw [isWellFormed, entriesWellFormed_iff] at hv
    exact hv.2 (key, w) (Table.mem_of_get? h)
  · rw [field?_of_not_mapping hnot] at h
    cases h

theorem entriesWellFormed_put {entries : Table Value} (h : entriesWellFormed entries = true)
    (key : Text) {v : Value} (hv : v.isWellFormed = true) :
    entriesWellFormed (entries.put key v) = true := by
  rw [entriesWellFormed_iff] at h ⊢
  refine ⟨Table.nodup_keys_put h.1 key v, ?_⟩
  intro item hitem
  rcases Table.mem_put hitem with rfl | hmem
  · exact hv
  · exact h.2 item hmem

/-! ## One layer over another -/

theorem get?_mergeEntries (earlier later : Table Value) (hkeys : later.keys.Nodup) (key : Text) :
    Table.get? key (mergeEntries earlier later) =
      ((later.get? key).map (mergeOver (earlier.get? key))).or (earlier.get? key) := by
  induction later generalizing earlier with
  | nil => simp [mergeEntries, Table.get?]
  | cons item rest ih =>
    obtain ⟨k, v⟩ := item
    obtain ⟨hk, hrest⟩ := List.nodup_cons.mp hkeys
    rw [mergeEntries, ih _ hrest, Table.get?_put, Table.get?]
    by_cases hkey : k = key
    · subst hkey
      rw [(Table.get?_eq_none_iff k rest).mpr hk]
      simp
    · simp [hkey]

theorem mergeOver_of_not_mapping {v : Value} (hv : v.isMapping = false) (before : Option Value) :
    mergeOver before v = v := by
  cases v with
  | mapping => cases hv
  | _ => simp [mergeOver]

theorem mergeOver_mapping_cases (before : Option Value) (later : Table Value) :
    (∃ earlier, before = some (.mapping earlier) ∧
      mergeOver before (.mapping later) = .mapping (mergeEntries earlier later)) ∨
    (∀ key, before.bind (field? key) = none) ∧ mergeOver before (.mapping later) = .mapping later := by
  cases before with
  | none => exact Or.inr ⟨fun _ => rfl, by simp [mergeOver]⟩
  | some b =>
    cases b with
    | mapping earlier => exact Or.inl ⟨earlier, rfl, by rw [mergeOver]⟩
    | _ => exact Or.inr ⟨fun _ => rfl, by simp [mergeOver]⟩

@[simp] theorem mergeOver_none (v : Value) : mergeOver none v = v := by
  cases v <;> simp [mergeOver]

theorem field?_mergeOver (before : Option Value) {later : Table Value} (hkeys : later.keys.Nodup)
    (key : Text) :
    (mergeOver before (.mapping later)).field? key =
      ((later.get? key).map (mergeOver (before.bind (field? key)))).or (before.bind (field? key)) := by
  rcases mergeOver_mapping_cases before later with ⟨earlier, rfl, h⟩ | ⟨hbefore, h⟩
  · rw [h]
    exact get?_mergeEntries earlier later hkeys key
  · rw [h, hbefore key, field?]
    cases later.get? key <;> simp

theorem at?_mergeOver {u : Value} (hu : u.isMapping = false) (path : List Text) (before : Option Value)
    {v : Value} (hv : v.isWellFormed = true) :
    (mergeOver before v).at? path = some u ↔
      v.at? path = some u ∨ v.leavesOpen path = true ∧ before.bind (at? path) = some u := by
  induction path generalizing before v with
  | nil =>
    simp only [at?, leavesOpen, Option.some.injEq, Bool.false_eq_true, false_and, or_false]
    rcases v.mapping_or with ⟨later, rfl⟩ | hnot
    · have hne : ∀ entries, Value.mapping entries ≠ u := by
        rintro entries rfl
        cases hu
      rcases mergeOver_mapping_cases before later with ⟨earlier, -, h⟩ | ⟨-, h⟩ <;> simp [h, hne]
    · rw [mergeOver_of_not_mapping hnot]
  | cons key rest ih =>
    rcases v.mapping_or with ⟨later, rfl⟩ | hnot
    · have hkeys := ((entriesWellFormed_iff later).mp hv).1
      have hbefore : before.bind (at? (key :: rest)) = (before.bind (field? key)).bind (at? rest) :=
        (Option.bind_assoc before _ _).symm
      rw [at?, field?_mergeOver before hkeys, hbefore]
      cases hfield : Table.get? key later with
      | none => simp [at?, leavesOpen, field?, hfield, isMapping]
      | some w =>
        have hw := isWellFormed_field? (v := .mapping later) hv hfield
        simpa [at?, leavesOpen, field?, hfield] using ih (before.bind (field? key)) hw
    · simp [mergeOver_of_not_mapping hnot, at?, leavesOpen, field?_of_not_mapping hnot, hnot]

/-! ## All layers -/

@[simp] theorem mergeAll_concat (layers : List (Table Value)) (layer : Table Value) :
    mergeAll (layers ++ [layer]) = merge (mergeAll layers) layer := by
  simp [mergeAll]

theorem at?_merge {u : Value} (hu : u.isMapping = false) (path : List Text) (earlier : Table Value)
    {later : Table Value} (hlater : entriesWellFormed later = true) :
    at? path (.mapping (merge earlier later)) = some u ↔ at? path (.mapping later) = some u ∨
      leavesOpen path (.mapping later) = true ∧ at? path (.mapping earlier) = some u := by
  have h := at?_mergeOver hu path (some (.mapping earlier)) (v := .mapping later) hlater
  rw [mergeOver] at h
  exact h

theorem exists_split_concat {α : Type} {P Q : α → Prop} (l : List α) (last : α) :
    (∃ earlier a later, l ++ [last] = earlier ++ a :: later ∧ P a ∧ ∀ b ∈ later, Q b) ↔
      P last ∨ Q last ∧ ∃ earlier a later, l = earlier ++ a :: later ∧ P a ∧ ∀ b ∈ later, Q b := by
  constructor
  · rintro ⟨earlier, a, later, hsplit, ha, hlater⟩
    rcases List.eq_nil_or_concat later with rfl | ⟨later, b, rfl⟩
    · obtain ⟨-, hlast⟩ := List.append_inj' hsplit rfl
      cases hlast
      exact Or.inl ha
    · rw [List.concat_eq_append, ← List.cons_append, ← List.append_assoc] at hsplit
      obtain ⟨rfl, hlast⟩ := List.append_inj' hsplit rfl
      cases hlast
      refine Or.inr ⟨hlater last (by simp), earlier, a, later, rfl, ha, ?_⟩
      exact fun b hb => hlater b (by simp [hb])
  · rintro (hlast | ⟨hlast, earlier, a, later, rfl, ha, hlater⟩)
    · exact ⟨l, last, [], rfl, hlast, by simp⟩
    · refine ⟨earlier, a, later ++ [last], by simp, ha, ?_⟩
      intro b hb
      rcases List.mem_append.mp hb with hb | hb
      · exact hlater b hb
      · rw [List.mem_singleton.mp hb]
        exact hlast

theorem at?_mergeAll {u : Value} (hu : u.isMapping = false) (path : List Text)
    {layers : List (Table Value)} (hlayers : ∀ layer ∈ layers, entriesWellFormed layer = true) :
    at? path (.mapping (mergeAll layers)) = some u ↔
      ∃ earlier layer later, layers = earlier ++ layer :: later ∧ at? path (.mapping layer) = some u ∧
        ∀ other ∈ later, leavesOpen path (.mapping other) = true := by
  induction layers using List.reverseRecOn with
  | nil =>
    refine iff_of_false ?_ (by simp)
    cases path with
    | nil =>
      rintro ⟨⟩
      cases hu
    | cons key rest => simp [mergeAll, at?, field?, Table.get?]
  | append_singleton layers last ih =>
    have hlast : entriesWellFormed last = true := hlayers last (by simp)
    rw [mergeAll_concat, at?_merge hu path _ hlast, exists_split_concat,
      ih fun layer hlayer => hlayers layer (List.mem_append_left _ hlayer)]

/-! ## The order of the keys -/

theorem mergeEntries_eq_append (earlier later : Table Value) (hkeys : (earlier ++ later).keys.Nodup) :
    mergeEntries earlier later = earlier ++ later := by
  induction later generalizing earlier with
  | nil => simp [mergeEntries]
  | cons item rest ih =>
    obtain ⟨k, v⟩ := item
    have hk : k ∉ earlier.keys := by
      intro hmem
      simp only [Table.keys, List.map_append, List.map_cons] at hkeys hmem
      exact (List.nodup_append.mp hkeys).2.2 k hmem k List.mem_cons_self rfl
    rw [mergeEntries, (Table.get?_eq_none_iff k earlier).mpr hk, mergeOver_none,
      Table.put_of_not_mem k v earlier hk, ih _ (by simpa using hkeys)]
    simp

theorem eraseDups_concat (l : List Text) (a : Text) :
    (l ++ [a]).eraseDups = if a ∈ l then l.eraseDups else l.eraseDups ++ [a] := by
  rw [List.eraseDups_append]
  by_cases ha : a ∈ l <;> simp [List.removeAll, ha, List.eraseDups_cons]

theorem nodup_eraseDups (l : List Text) : l.eraseDups.Nodup := by
  induction l using List.reverseRecOn with
  | nil => simp
  | append_singleton l a ih =>
    rw [eraseDups_concat]
    split
    · exact ih
    · rename_i ha
      simpa [List.nodup_append, ih] using fun b hb => ne_of_mem_of_not_mem hb ha

theorem keys_mergeEntries {earlier : Table Value} {seen : List Text}
    (hseen : earlier.keys = seen.eraseDups) (later : Table Value) :
    (mergeEntries earlier later).keys = (seen ++ later.keys).eraseDups := by
  induction later generalizing earlier seen with
  | nil => simpa [mergeEntries, Table.keys] using hseen
  | cons item rest ih =>
    obtain ⟨k, v⟩ := item
    have hput : (earlier.put k (mergeOver (earlier.get? k) v)).keys = (seen ++ [k]).eraseDups := by
      rw [Table.keys_put, eraseDups_concat, hseen]
      simp
    rw [mergeEntries, ih hput]
    simp [Table.keys]

@[simp] theorem keys_mergeAll (layers : List (Table Value)) :
    (mergeAll layers).keys = (layers.flatMap Table.keys).eraseDups := by
  induction layers using List.reverseRecOn with
  | nil => rfl
  | append_singleton layers last ih =>
    rw [mergeAll_concat, merge, keys_mergeEntries ih]
    simp

/-! ## What prevails -/

/-- Some layer has the value at the path, and no later one has anything there, nor anything but a mapping
on the way. -/
def Prevails (layers : List (Table Value)) (path : List Text) (v : Value) : Prop :=
  ∃ earlier layer later, layers = earlier ++ layer :: later ∧ at? path (.mapping layer) = some v ∧
    ∀ other ∈ later, at? path (.mapping other) = none ∧
      ∀ above, above <+: path → above ≠ path →
        ∀ u, at? above (.mapping other) = some u → u.isMapping = true

/-- The values other than mappings that are found in the merged layers are those that prevail. -/
theorem at?_mergeAll_iff_prevails (layers : List (Table Value))
    (hlayers : ∀ layer ∈ layers, entriesWellFormed layer = true) (path : List Text) (v : Value)
    (hv : v.isMapping = false) :
    at? path (.mapping (mergeAll layers)) = some v ↔ Prevails layers path v := by
  simp only [at?_mergeAll hv path hlayers, leavesOpen_iff, Prevails]

/-- The second layer cuts off all that the first one has below `a`, and the third one opens it again. -/
theorem prevails_behind_cut :
    let a : Text := ['a']
    let b : Text := ['b']
    let c : Text := ['c']
    let layers : List (Table Value) :=
      [[(a, .mapping [(b, .int 1), (c, .int 2)])], [(a, .bool true)], [(a, .mapping [(c, .int 3)])],
        [(b, .mapping [(a, .null)])]]
    (∀ layer ∈ layers, entriesWellFormed layer = true) ∧
      at? [a, c] (.mapping (mergeAll layers)) = some (.int 3) ∧ Prevails layers [a, c] (.int 3) ∧
      at? [a, b] (.mapping (mergeAll layers)) = none ∧ ¬ Prevails layers [a, b] (.int 1) := by
  intro a b c layers
  have hlayers : ∀ layer ∈ layers, entriesWellFormed layer = true := by decide +kernel
  have hopened : at? [a, c] (.mapping (mergeAll layers)) = some (.int 3) := by rfl
  have hcut : at? [a, b] (.mapping (mergeAll layers)) = none := by rfl
  refine ⟨hlayers, hopened, ?_, hcut, ?_⟩
  · exact (at?_mergeAll_iff_prevails layers hlayers [a, c] (.int 3) rfl).mp hopened
  · intro h
    rw [← at?_mergeAll_iff_prevails layers hlayers [a, b] (.int 1) rfl, hcut] at h
    cases h

end ScadAdvisor.Value
