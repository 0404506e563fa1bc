import Mathlib.Tactic.Common

/-! # Results that may be faults -/

namespace ScadAdvisor

namespace Outcome

variable {ε α β : Type}

theorem bind_eq_ok (x : Except ε α) (f : α → Except ε β) (b : β) :
    x >>= f = .ok b ↔ ∃ a, x = .ok a ∧ f a = .ok b := by
  cases x <;> simp [bind, Except.bind]

theorem map_eq_ok (f : α → β) (x : Except ε α) (b : β) :
    Except.map f x = .ok b ↔ ∃ a, x = .ok a ∧ f a = b := by
  cases x <;> simp [Except.map]

theorem eq_ok_of_toOption {x : Except ε α} {a : α} (h : x.toOption = some a) : x = .ok a := by
  cases x with
  | error e => cases h
  | ok b =>
    cases h
    rfl

end Outcome

/-- The result is a list of exactly the values with the property. -/
def Yields {ε α : Type} (result : Except ε (List α)) (property : α → Prop) : Prop :=
  ∃ xs, result = .ok xs ∧ ∀ x, x ∈ xs ↔ property x

namespace Yields

variable {ε α β : Type}

theorem congr {result : Except ε (List α)} {p q : α → Prop} (h : Yields result p)
    (hpq : ∀ x, p x ↔ q x) : Yields result q := by
  obtain ⟨xs, hxs, hmem⟩ := h
  exact ⟨xs, hxs, fun x => (hmem x).trans (hpq x)⟩

theorem nil : Yields (.ok [] : Except ε (List α)) fun _ => False :=
  ⟨[], rfl, by simp⟩

theorem singleton (a : α) : Yields (.ok [a] : Except ε (List α)) (· = a) :=
  ⟨[a], rfl, by simp⟩

theorem flatten_mapM {step : β → Except ε (List α)} {property : β → α → Prop} {items : List β}
    (h : ∀ item ∈ items, Yields (step item) (property item)) :
    Yields (do return (← items.mapM step).flatten) fun x => ∃ item ∈ items, property item x := by
  induction items with
  | nil => exact ⟨[], rfl, by simp⟩
  | cons item rest ih =>
    obtain ⟨xs, hxs, hmem⟩ := h item (by simp)
    obtain ⟨more, hmore, hrest⟩ := ih fun other hother => h other (by simp [hother])
    refine ⟨xs ++ more, ?_, fun x => by simp [hmem, hrest]⟩
    rw [List.mapM_cons, hxs]
    cases hrests : rest.mapM step with
    | error fault => rw [hrests] at hmore; cases hmore
    | ok found =>
      rw [hrests] at hmore
      cases hmore
      rfl

end Yields

end ScadAdvisor
