import Mathlib.Data.List.Nodup
import Mathlib.Tactic.Common
import ScadAdvisor.Dedupe
import ScadAdvisor.Proofs.Newlines

/-! # The first of each key

Whether an element is kept is asked of the keys that were kept before it. That comes to the same as
asking all elements before it.
-/

namespace ScadAdvisor

section FirstByKey

variable {α κ : Type} [BEq κ] [LawfulBEq κ]

/-- Of the keys seen already only those count that some element has. -/
theorem firstByKey_congr (key : α → κ) (seen seen' : List κ) (all : List α)
    (h : ∀ a ∈ all, key a ∈ seen ↔ key a ∈ seen') :
    firstByKey key seen all = firstByKey key seen' all := by
  induction all generalizing seen seen' with
  | nil => rfl
  | cons a rest ih =>
    have hrest : ∀ b ∈ rest, key b ∈ seen ↔ key b ∈ seen' := fun b hb => h b (by simp [hb])
    have ha := h a (by simp)
    simp only [firstByKey, List.contains_iff_mem]
    by_cases hseen : key a ∈ seen
    · rw [if_pos hseen, if_pos (ha.mp hseen), ih _ _ hrest]
    · rw [if_neg hseen, if_neg (mt ha.mpr hseen)]
      congr 1
      apply ih
      intro b hb
      simp only [List.mem_cons, hrest b hb]

theorem firstByKey_append (key : α → κ) (seen : List κ) (xs ys : List α) :
    firstByKey key seen (xs ++ ys) =
      firstByKey key seen xs ++ firstByKey key (xs.map key ++ seen) ys := by
  induction xs generalizing seen with
  | nil => rfl
  | cons x xs ih =>
    simp only [List.cons_append, firstByKey, List.contains_iff_mem]
    by_cases hseen : key x ∈ seen
    · rw [if_pos hseen, if_pos hseen, ih]
      congr 1
      apply firstByKey_congr
      intro y _
      simp only [List.map_cons, List.cons_append, List.mem_cons, List.mem_append]
      constructor
      · exact Or.inr
      · rintro (hy | hy)
        · rw [hy]
          exact Or.inr hseen
        · exact hy
    · rw [if_neg hseen, if_neg hseen, ih, List.cons_append]
      congr 2
      apply firstByKey_congr
      intro y _
      simp only [List.map_cons, List.cons_append, List.mem_cons, List.mem_append]
      tauto

theorem nodup_firstByKey (key : α → κ) (seen : List κ) (all : List α) :
    ((firstByKey key seen all).map key).Nodup ∧
      ∀ a ∈ firstByKey key seen all, key a ∉ seen := by
  induction all generalizing seen with
  | nil => simp [firstByKey]
  | cons a rest ih =>
    simp only [firstByKey, List.contains_iff_mem]
    by_cases hseen : key a ∈ seen
    · rw [if_pos hseen]
      exact ih seen
    · obtain ⟨hnodup, hnew⟩ := ih (key a :: seen)
      rw [if_neg hseen, List.map_cons, List.nodup_cons]
      refine ⟨⟨?_, hnodup⟩, ?_⟩
      · intro hmem
        obtain ⟨b, hb, hkey⟩ := List.mem_map.mp hmem
        exact hnew b hb (by simp [hkey])
      · intro b hb
        rcases List.mem_cons.mp hb with rfl | hb
        · exact hseen
        · exact fun hmem => hnew b hb (by simp [hmem])

theorem mem_keys_firstByKey_iff (key : α → κ) (seen : List κ) (all : List α) (k : κ) :
    k ∈ (firstByKey key seen all).map key ↔ k ∈ all.map key ∧ k ∉ seen := by
  induction all generalizing seen with
  | nil => simp [firstByKey]
  | cons a rest ih =>
    simp only [firstByKey, List.contains_iff_mem]
    by_cases hseen : key a ∈ seen
    · rw [if_pos hseen, ih, List.map_cons, List.mem_cons]
      constructor
      · rintro ⟨hk, hnew⟩
        exact ⟨Or.inr hk, hnew⟩
      · rintro ⟨rfl | hk, hnew⟩
        · exact absurd hseen hnew
        · exact ⟨hk, hnew⟩
    · rw [if_neg hseen, List.map_cons, List.mem_cons, ih, List.map_cons, List.mem_cons, List.mem_cons]
      by_cases hk : k = key a
      · simp [hk, hseen]
      · simp [hk]

theorem firstByKey_eq_self (key : α → κ) (seen : List κ) (all : List α) (hnodup : (all.map key).Nodup)
    (hnew : ∀ a ∈ all, key a ∉ seen) : firstByKey key seen all = all := by
  induction all generalizing seen with
  | nil => rfl
  | cons a rest ih =>
    rw [List.map_cons, List.nodup_cons] at hnodup
    have hrest : ∀ b ∈ rest, key b ∉ key a :: seen := by
      intro b hb hmem
      rcases List.mem_cons.mp hmem with hkey | hmem
      · exact hnodup.1 (List.mem_map.mpr ⟨b, hb, hkey⟩)
      · exact hnew b (List.mem_cons_of_mem a hb) hmem
    have ha : seen.contains (key a) = false := by simpa using hnew a List.mem_cons_self
    rw [firstByKey, ha, ih (key a :: seen) hnodup.2 hrest]
    rfl

/-- The elements that have none of their key before them. -/
def firstOnes (key : α → κ) (all : List α) : List α :=
  (all.zipIdx.filter fun (a, i) => (all.take i).all fun b => key b != key a).map Prod.fst

/-- Asking the keys seen is asking the elements before, dropped ones included: the key of an element
that is dropped was seen already. -/
theorem firstByKey_eq_filter (key : α → κ) (before all : List α) :
    firstByKey key (before.map key) all =
      ((all.zipIdx before.length).filter fun (a, i) =>
        ((before ++ all).take i).all fun b => key b != key a).map Prod.fst := by
  induction all generalizing before with
  | nil => rfl
  | cons a rest ih =>
    have hrest := ih (before ++ [a])
    simp only [List.append_assoc, List.singleton_append, List.length_append, List.length_singleton]
      at hrest
    simp only [List.zipIdx_cons, List.filter_cons, List.take_left, firstByKey, List.contains_iff_mem]
    by_cases hseen : key a ∈ before.map key
    · have hdrop : (before.all fun b => key b != key a) = false := by
        obtain ⟨b, hb, hkey⟩ := List.mem_map.mp hseen
        exact List.all_eq_false.mpr ⟨b, hb, by simp [hkey]⟩
      rw [if_pos hseen, hdrop, if_neg Bool.false_ne_true, ← hrest]
      apply firstByKey_congr
      intro b _
      rw [List.map_append, List.mem_append]
      constructor
      · exact Or.inl
      · rintro (hb | hb)
        · exact hb
        · rwa [List.mem_singleton.mp hb]
    · have hkeep : (before.all fun b => key b != key a) = true := by
        rw [List.all_eq_true]
        intro b hb
        rw [bne_iff_ne]
        exact fun hkey => hseen (List.mem_map.mpr ⟨b, hb, hkey⟩)
      rw [if_neg hseen, hkeep, if_pos rfl, List.map_cons, ← hrest]
      congr 1
      apply firstByKey_congr
      intro b _
      rw [List.map_append, List.mem_append, List.mem_cons, List.map_singleton, List.mem_singleton, or_comm]

theorem firstByKey_eq_firstOnes (key : α → κ) (all : List α) :
    firstByKey key [] all = firstOnes key all := firstByKey_eq_filter key [] all

end FirstByKey

theorem dedupe_append (text : Text) (xs ys : List Diagnostic)
    (h : ∀ x ∈ xs, ∀ y ∈ ys, Text.slice text x.start x.stop ≠ Text.slice text y.start y.stop) :
    dedupe text (xs ++ ys) = dedupe text xs ++ dedupe text ys := by
  unfold dedupe
  rw [firstByKey_append]
  congr 1
  apply firstByKey_congr
  intro y hy
  simp only [List.append_nil, List.mem_map, List.not_mem_nil, iff_false, not_exists, not_and]
  intro x hx hkey
  exact h x hx y hy (congrArg Prod.snd hkey)

theorem nodup_dedupe_keys (text : Text) (all : List Diagnostic) :
    ((dedupe text all).map (dedupeKey text (LineIndex.ofText text))).Nodup :=
  (nodup_firstByKey _ _ _).1

theorem nodup_dedupe_spans (text : Text) (all : List Diagnostic) :
    ((dedupe text all).map fun d => (d.start, d.stop)).Nodup := by
  have hkeys := nodup_dedupe_keys text all
  have hmap : (dedupe text all).map (dedupeKey text (LineIndex.ofText text)) =
      ((dedupe text all).map fun d => (d.start, d.stop)).map fun span =>
        ((LineIndex.ofText text).lineOf span.1, Text.slice text span.1 span.2) := by
    rw [List.map_map]
    rfl
  rw [hmap] at hkeys
  exact List.Nodup.of_map _ hkeys

theorem mem_dedupe_keys_iff (text : Text) (all : List Diagnostic) (key : Nat × Text) :
    key ∈ (dedupe text all).map (dedupeKey text (LineIndex.ofText text)) ↔
      key ∈ all.map (dedupeKey text (LineIndex.ofText text)) := by
  rw [dedupe, mem_keys_firstByKey_iff]
  simp

theorem dedupe_of_nodup (text : Text) (all : List Diagnostic)
    (h : (all.map (dedupeKey text (LineIndex.ofText text))).Nodup) : dedupe text all = all :=
  firstByKey_eq_self _ [] all h (by simp)

/-- What is dropped from the first part has no say in the second one. -/
@[simp] theorem dedupe_dedupe_append (text : Text) (xs ys : List Diagnostic) :
    dedupe text (dedupe text xs ++ ys) = dedupe text (xs ++ ys) := by
  have hfirst : dedupe text (dedupe text xs) = dedupe text xs :=
    dedupe_of_nodup text _ (nodup_dedupe_keys text xs)
  unfold dedupe at hfirst ⊢
  rw [firstByKey_append, firstByKey_append, hfirst]
  congr 1
  apply firstByKey_congr
  intro y _
  rw [List.append_nil, List.append_nil]
  exact mem_dedupe_keys_iff text xs _

/-- The key of a diagnostic is the line on which it starts, counted by the newlines before it, and the
characters of its span, as far as the text has them. Kept is what has no diagnostic of its key before
it, dropped ones included. So a second pass drops nothing, the keys that are left are all there were,
each of them once, and one may drop what repeats a key in the first part of a list before the rest of
it is there. -/
theorem dedupe_exact (text : Text) (xs ys : List Diagnostic) :
    let key := dedupeKey text (LineIndex.ofText text)
    (∀ d : Diagnostic, key d =
        ((text.take d.start).count '\n' + 1, (text.drop d.start).take (d.stop - d.start))) ∧
      dedupe text xs = firstOnes key xs ∧
      dedupe text (dedupe text xs) = dedupe text xs ∧
      ((dedupe text xs).map key).Nodup ∧
      (∀ k, k ∈ (dedupe text xs).map key ↔ k ∈ xs.map key) ∧
      dedupe text (xs ++ ys) = dedupe text (dedupe text xs ++ ys) := by
  intro key
  have hnodup : ((dedupe text xs).map key).Nodup := nodup_dedupe_keys text xs
  refine ⟨?_, firstByKey_eq_firstOnes key xs, dedupe_of_nodup text _ hnodup, hnodup,
    mem_dedupe_keys_iff text xs, (dedupe_dedupe_append text xs ys).symm⟩
  intro d
  show ((LineIndex.ofText text).lineOf d.start, Text.slice text d.start d.stop) = _
  rw [LineIndex.lineOf_ofText]
  rfl

-- The same name on another line is kept. The last span ends beyond the text, and what the text has of it
-- is that name again.
example :
    let about (start stop : Nat) (h : start < stop) : Diagnostic :=
      ⟨.deprecation, .deprecatedParameter, start, stop, [], none, h⟩
    (dedupe "ab\nab".toList [about 0 2 (by decide), about 3 5 (by decide), about 3 9 (by decide)]).map
      (fun d => (d.start, d.stop)) = [(0, 2), (3, 5)] := by
  decide +kernel

end ScadAdvisor
