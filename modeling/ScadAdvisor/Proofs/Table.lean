import ScadAdvisor.Table

/-! # Looking up and putting -/

namespace ScadAdvisor.Table

variable {α : Type}

@[simp] theorem get?_eq_none_iff (key : Text) (table : Table α) : table.get? key = none ↔ key ∉ table.keys := by
  induction table with
  | nil => simp [get?, keys]
  | cons item rest ih =>
    obtain ⟨k, v⟩ := item
    by_cases hk : k = key
    · simp [get?, keys, hk]
    · simpa [get?, keys, hk, Ne.symm hk] using ih

theorem put_of_not_mem (key : Text) (value : α) (table : Table α) (h : key ∉ table.keys) :
    table.put key value = table ++ [(key, value)] := by
  induction table with
  | nil => rfl
  | cons item rest ih =>
    obtain ⟨k, v⟩ := item
    simp only [keys, List.map_cons, List.mem_cons, not_or] at h
    rw [put, if_neg (by simpa using Ne.symm h.1), ih h.2, List.cons_append]

@[simp] theorem get?_put (key other : Text) (value : α) (table : Table α) :
    get? other (table.put key value) = if key = other then some value else table.get? other := by
  induction table with
  | nil => simp [put, get?]
  | cons item rest ih =>
    obtain ⟨k, v⟩ := item
    by_cases hk : k = key
    · subst hk
      by_cases ho : k = other <;> simp [put, get?, ho]
    · by_cases ho : k = other
      · subst ho
        simp [put, get?, hk, Ne.symm hk]
      · simp [put, get?, hk, ho, ih]

@[simp] theorem keys_put (key : Text) (value : α) (table : Table α) :
    (table.put key value).keys = if key ∈ table.keys then table.keys else table.keys ++ [key] := by
  induction table with
  | nil => simp [put, keys]
  | cons item rest ih =>
    obtain ⟨k, v⟩ := item
    by_cases hk : k = key
    · simp [put, keys, hk]
    · simp only [keys] at ih ⊢
      by_cases hmem : key ∈ rest.map (·.1) <;> simp [put, hk, Ne.symm hk, hmem, ih]

theorem nodup_keys_put {table : Table α} (h : table.keys.Nodup) (key : Text) (value : α) :
    (table.put key value).keys.Nodup := by
  rw [keys_put]
  split
  · exact h
  · rename_i hkey
    rw [List.nodup_append]
    refine ⟨h, by simp, ?_⟩
    intro k hk other hother hsame
    rw [List.mem_singleton] at hother
    exact hkey (hother ▸ hsame ▸ hk)

theorem mem_put {key : Text} {value : α} {table : Table α} {item : Text × α}
    (h : item ∈ table.put key value) : item = (key, value) ∨ item ∈ table := by
  induction table with
  | nil => exact Or.inl (List.mem_singleton.mp h)
  | cons first rest ih =>
    obtain ⟨k, v⟩ := first
    by_cases hk : k = key
    · subst hk
      rw [put, if_pos (by simp)] at h
      exact (List.mem_cons.mp h).imp_right (List.mem_cons_of_mem _)
    · rw [put, if_neg (by simpa using hk)] at h
      rcases List.mem_cons.mp h with rfl | h
      · exact Or.inr List.mem_cons_self
      · exact (ih h).imp_right (List.mem_cons_of_mem _)

@[simp] theorem get?_map {β : Type} (f : α → β) (key : Text) (table : Table α) :
    get? key (table.map fun item => (item.1, f item.2)) = (table.get? key).map f := by
  induction table with
  | nil => rfl
  | cons item rest ih =>
    simp only [List.map_cons, get?, ih]
    split <;> rfl

theorem get?_filter (p : Text × α → Bool) (key : Text) (table : Table α)
    (h : ∀ item ∈ table, item.1 = key → p item = true) :
    get? key (table.filter p) = table.get? key := by
  induction table with
  | nil => rfl
  | cons item rest ih =>
    have hrest := ih fun other hother => h other (List.mem_cons_of_mem _ hother)
    rw [List.filter_cons]
    by_cases hkey : item.1 = key
    · simp [get?, hkey, h item List.mem_cons_self hkey]
    · split <;> simp [get?, hkey, hrest]

theorem mem_of_get? {key : Text} {value : α} {table : Table α} (h : table.get? key = some value) :
    (key, value) ∈ table := by
  induction table with
  | nil => cases h
  | cons item rest ih =>
    obtain ⟨k, v⟩ := item
    by_cases hk : k = key
    · simp_all [get?]
    · rw [get?, if_neg (by simpa using hk)] at h
      exact List.mem_cons_of_mem _ (ih h)

theorem get?_of_mem {table : Table α} (hkeys : table.keys.Nodup) {key : Text} {value : α}
    (h : (key, value) ∈ table) : table.get? key = some value := by
  induction table with
  | nil => cases h
  | cons item rest ih =>
    obtain ⟨k, v⟩ := item
    obtain ⟨hk, hrest⟩ := List.nodup_cons.mp hkeys
    rcases List.mem_cons.mp h with heq | hmem
    · cases heq
      simp [get?]
    · have hne : k ≠ key := by
        rintro rfl
        exact hk (List.mem_map.mpr ⟨(k, value), hmem, rfl⟩)
      rw [get?, if_neg (by simpa using hne)]
      exact ih hrest hmem

end ScadAdvisor.Table
