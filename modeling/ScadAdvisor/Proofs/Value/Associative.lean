import ScadAdvisor.Proofs.Value.Equality
import ScadAdvisor.Proofs.Value.Merge

/-! # Three layers over each other

It makes no difference which two of three layers are merged first, unless the one between cuts off a
mapping that the last one opens again.
-/

namespace ScadAdvisor

theorem Table.ext_get? {α : Type} {a b : Table α} (hnodup : a.keys.Nodup) (hkeys : a.keys = b.keys)
    (hget : ∀ key, a.get? key = b.get? key) : a = b := by
  induction a generalizing b with
  | nil =>
    cases b with
    | nil => rfl
    | cons => simp [keys] at hkeys
  | cons item rest ih =>
    obtain ⟨k, v⟩ := item
    cases b with
    | nil => simp [keys] at hkeys
    | cons other more =>
      obtain ⟨l, w⟩ := other
      simp only [keys, List.map_cons, List.cons.injEq] at hkeys
      obtain ⟨rfl, hkeys⟩ := hkeys
      obtain ⟨hk, hnodup⟩ := List.nodup_cons.mp hnodup
      have hfirst := hget k
      simp only [get?, beq_self_eq_true, if_true, Option.some.injEq] at hfirst
      have hrest : rest = more := by
        apply ih hnodup hkeys
        intro key
        by_cases hkey : k = key
        · subst hkey
          have hmore : k ∉ Table.keys more := by
            rw [keys, ← hkeys]
            exact hk
          rw [(get?_eq_none_iff k rest).mpr hk, (get?_eq_none_iff k more).mpr hmore]
        · have := hget key
          simpa [get?, hkey] using this
      rw [hfirst, hrest]

namespace Value

/-! ## Keys -/

theorem eraseDups_of_nodup {l : List Text} (h : l.Nodup) : l.eraseDups = l := by
  induction l using List.reverseRecOn with
  | nil => rfl
  | append_singleton l a ih =>
    rw [List.nodup_append] at h
    have ha : a ∉ l := fun hmem => h.2.2 a hmem a (by simp) rfl
    rw [eraseDups_concat, if_neg ha, ih h.1]

@[simp] theorem eraseDups_append_eraseDups (l m : List Text) :
    (l ++ m.eraseDups).eraseDups = (l ++ m).eraseDups := by
  induction m using List.reverseRecOn with
  | nil => simp
  | append_singleton m a ih =>
    rw [eraseDups_concat m a, ← List.append_assoc, eraseDups_concat (l ++ m) a]
    by_cases ha : a ∈ m
    · rw [if_pos ha, if_pos (List.mem_append_right l ha), ih]
    · rw [if_neg ha, ← List.append_assoc, eraseDups_concat, ih]
      simp [ha]

@[simp] theorem keys_merge {a : Table Value} (ha : a.keys.Nodup) (b : Table Value) :
    (merge a b).keys = (a.keys ++ b.keys).eraseDups :=
  keys_mergeEntries (eraseDups_of_nodup ha).symm b

theorem nodup_keys_merge {a : Table Value} (ha : a.keys.Nodup) (b : Table Value) :
    (merge a b).keys.Nodup := by
  rw [keys_merge ha]
  exact nodup_eraseDups _

theorem keys_merge_assoc {a b : Table Value} (ha : a.keys.Nodup) (hb : b.keys.Nodup)
    (c : Table Value) : (merge (merge a b) c).keys = (merge a (merge b c)).keys := by
  calc (merge (merge a b) c).keys = (a.keys ++ b.keys ++ c.keys).eraseDups :=
        keys_mergeEntries (keys_merge ha b) c
    _ = (a.keys ++ (b.keys ++ c.keys).eraseDups).eraseDups := by
        rw [eraseDups_append_eraseDups, List.append_assoc]
    _ = (merge a (merge b c)).keys := by rw [keys_merge ha, keys_merge hb]

/-! ## Compatible layers -/

/-- Wherever both outer values have a mapping, the one between has no other value. -/
def Compatible (x y z : Value) : Prop :=
  ∀ path first between last, x.at? path = some first → y.at? path = some between →
    z.at? path = some last → first.isMapping = true → last.isMapping = true →
      between.isMapping = true

theorem compatible_iff {x y z : Value} :
    Compatible x y z ↔ (x.isMapping = true → z.isMapping = true → y.isMapping = true) ∧
      ∀ key first between last, x.field? key = some first → y.field? key = some between →
        z.field? key = some last → Compatible first between last := by
  constructor
  · intro h
    refine ⟨h [] x y z rfl rfl rfl, ?_⟩
    intro key first between last hx hy hz path
    have := h (key :: path)
    simpa [at?, hx, hy, hz] using this
  · rintro ⟨hhere, hbelow⟩ path first between last hx hy hz
    cases path with
    | nil =>
      cases hx
      cases hy
      cases hz
      exact hhere
    | cons key rest =>
      obtain ⟨u, hu, hx⟩ := Option.bind_eq_some_iff.mp hx
      obtain ⟨v, hv, hy⟩ := Option.bind_eq_some_iff.mp hy
      obtain ⟨w, hw, hz⟩ := Option.bind_eq_some_iff.mp hz
      exact hbelow key u v w hu hv hw rest first between last hx hy hz

theorem compatible_of_last_not_mapping (x y : Value) {z : Value} (hz : z.isMapping = false) :
    Compatible x y z := by
  refine compatible_iff.mpr ⟨by simp [hz], ?_⟩
  intro key first between last _ _ hlast
  rw [field?_of_not_mapping hz] at hlast
  cases hlast

/-! ## One key -/

/-- What stands at a key behind the merge. -/
def overlay (before after : Option Value) : Option Value := (after.map (mergeOver before)).or before

@[simp] theorem get?_merge (a : Table Value) {b : Table Value} (hb : b.keys.Nodup) (key : Text) :
    (merge a b).get? key = overlay (a.get? key) (b.get? key) :=
  get?_mergeEntries a b hb key

theorem mergeOver_some_of_not_mapping {u : Value} (hu : u.isMapping = false) (v : Value) :
    mergeOver (some u) v = v := by
  rcases v.mapping_or with ⟨later, rfl⟩ | hv
  · cases u with
    | mapping => cases hu
    | _ => rw [mergeOver]; simp
  · exact mergeOver_of_not_mapping hv _

@[simp] theorem mergeOver_mappings (earlier later : Table Value) :
    mergeOver (some (.mapping earlier)) (.mapping later) = .mapping (merge earlier later) := by
  rw [mergeOver, merge]

theorem mergeOver_assoc {x : Option Value} {v w : Value}
    (hcompatible : ∀ u, x = some u → Compatible u v w)
    (hbelow : ∀ a b c, x = some (.mapping a) → v = .mapping b → w = .mapping c →
      merge (merge a b) c = merge a (merge b c)) :
    mergeOver (some (mergeOver x v)) w = mergeOver x (mergeOver (some v) w) := by
  rcases w.mapping_or with ⟨c, rfl⟩ | hw
  · cases x with
    | none => rw [mergeOver_none, mergeOver_none]
    | some u =>
      rcases u.mapping_or with ⟨a, rfl⟩ | hu
      · -- Both outer values are mappings, so the one between is one as well.
        have hv := (compatible_iff.mp (hcompatible _ rfl)).1 rfl rfl
        obtain ⟨b, rfl⟩ := v.mapping_or.resolve_right (by simp [hv])
        simp only [mergeOver_mappings]
        rw [hbelow a b c rfl rfl rfl]
      · rw [mergeOver_some_of_not_mapping hu, mergeOver_some_of_not_mapping hu]
  · simp [mergeOver_of_not_mapping hw]

theorem overlay_assoc {x y z : Option Value}
    (h : ∀ v w, y = some v → z = some w →
      mergeOver (some (mergeOver x v)) w = mergeOver x (mergeOver (some v) w)) :
    overlay (overlay x y) z = overlay x (overlay y z) := by
  cases z with
  | none => simp [overlay]
  | some w =>
    cases y with
    | none => simp [overlay]
    | some v => simp [overlay, h v w rfl rfl]

/-! ## All keys -/

theorem merge_assoc_of_compatible (a b c : Table Value) (ha : entriesWellFormed a = true)
    (hb : entriesWellFormed b = true) (hc : entriesWellFormed c = true)
    (h : Compatible (.mapping a) (.mapping b) (.mapping c)) :
    merge (merge a b) c = merge a (merge b c) := by
  have hakeys := ((entriesWellFormed_iff a).mp ha).1
  have hbkeys := ((entriesWellFormed_iff b).mp hb).1
  have hckeys := ((entriesWellFormed_iff c).mp hc).1
  apply Table.ext_get? (nodup_keys_merge (nodup_keys_merge hakeys b) c)
    (keys_merge_assoc hakeys hbkeys c)
  intro key
  rw [get?_merge _ hckeys, get?_merge _ hbkeys, get?_merge _ (nodup_keys_merge hbkeys c),
    get?_merge _ hckeys]
  apply overlay_assoc
  intro v w hv hw
  have hcompatible : ∀ u, a.get? key = some u → Compatible u v w :=
    fun u hu => (compatible_iff.mp h).2 key u v w hu hv hw
  apply mergeOver_assoc hcompatible
  rintro a' b' c' ha' rfl rfl
  exact merge_assoc_of_compatible a' b' c'
    (isWellFormed_field? (v := .mapping a) ha ha') (isWellFormed_field? (v := .mapping b) hb hv)
    (isWellFormed_field? (v := .mapping c) hc hw) (hcompatible _ ha')
termination_by sizeOf c
decreasing_by
  have := List.sizeOf_lt_of_mem (Table.mem_of_get? hw)
  simp at this
  omega

/-- Merging is associative on compatible layers, with the order of the keys, and the empty layer changes
nothing on either side. -/
theorem merge_laws :
    (∀ a b c : Table Value, entriesWellFormed a = true → entriesWellFormed b = true →
      entriesWellFormed c = true → Compatible (.mapping a) (.mapping b) (.mapping c) →
        merge (merge a b) c = merge a (merge b c)) ∧
      ∀ a : Table Value, entriesWellFormed a = true → merge [] a = a ∧ merge a [] = a := by
  refine ⟨merge_assoc_of_compatible, ?_⟩
  intro a ha
  exact ⟨mergeEntries_eq_append [] a ((entriesWellFormed_iff a).mp ha).1, by rw [merge, mergeEntries]⟩

/-- The second layer cuts off what the first one has at `t`, and the third one does not open it again. -/
theorem merge_laws_of_cut :
    let m : Text := ['m']
    let s : Text := ['s']
    let t : Text := ['t']
    let a : Table Value := [(m, .mapping [(s, .int 1), (t, .mapping [])]), (t, .mapping [(s, .null)])]
    let b : Table Value := [(s, .int 2), (t, .bool true), (m, .mapping [(m, .int 3), (t, .mapping [])])]
    let c : Table Value := [(t, .int 4), (s, .mapping []), (m, .mapping [(t, .int 5), (s, .mapping [])])]
    let all : Table Value := [(m, .mapping [(s, .mapping []), (t, .int 5), (m, .int 3)]), (t, .int 4),
      (s, .mapping [])]
    merge (merge a b) c = all ∧ merge a (merge b c) = all ∧ merge [] all = all := by
  intro m s t a b c all
  have hbelow : Compatible (.mapping [(s, .int 1), (t, .mapping [])])
      (.mapping [(m, .int 3), (t, .mapping [])]) (.mapping [(t, .int 5), (s, .mapping [])]) := by
    refine compatible_iff.mpr ⟨fun _ _ => rfl, ?_⟩
    intro key first between last hx hy hz
    have hfirst := Table.mem_of_get? hx
    have hbetween := Table.mem_of_get? hy
    have hlast := Table.mem_of_get? hz
    simp [m, s, t] at hfirst hbetween hlast
    -- Only `t` is a key of all three, and its last value is no mapping.
    rcases hfirst with ⟨rfl, rfl⟩ | ⟨rfl, rfl⟩ <;> simp at hbetween hlast
    subst hlast
    exact compatible_of_last_not_mapping _ _ rfl
  have hcompatible : Compatible (.mapping a) (.mapping b) (.mapping c) := by
    refine compatible_iff.mpr ⟨fun _ _ => rfl, ?_⟩
    intro key first between last hx hy hz
    have hfirst := Table.mem_of_get? hx
    have hbetween := Table.mem_of_get? hy
    have hlast := Table.mem_of_get? hz
    simp [a, b, c, m, s, t] at hfirst hbetween hlast
    rcases hfirst with ⟨rfl, rfl⟩ | ⟨rfl, rfl⟩ <;> simp at hbetween hlast
    · subst hbetween hlast
      exact hbelow
    · subst hlast
      exact compatible_of_last_not_mapping _ _ rfl
  have hleft : merge (merge a b) c = all := by decide +kernel
  refine ⟨hleft, ?_, (merge_laws.2 all (by decide +kernel)).1⟩
  rw [← merge_laws.1 a b c (by decide +kernel) (by decide +kernel) (by decide +kernel) hcompatible, hleft]

example :
    let a : Table Value := [(['m'], .mapping [(['s'], .int 1)])]
    let b : Table Value := [(['m'], .null)]
    let c : Table Value := [(['m'], .mapping [(['t'], .int 2)])]
    merge (merge a b) c ≠ merge a (merge b c) := by
  decide +kernel

end Value

end ScadAdvisor
