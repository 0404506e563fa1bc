import Mathlib.Tactic.Common
import ScadAdvisor.Value.Basic

/-! # Equality of values can be decided -/

namespace ScadAdvisor.Value

mutual

def same : Value → Value → Bool
  | .null, .null => true
  | .bool a, .bool b => a == b
  | .int m, .int n => m == n
  | .real x, .real y => x == y
  | .string s, .string t => s == t
  | .moment s, .moment t => s == t
  | .list items, .list others => sameItems items others
  | .mapping entries, .mapping others => sameEntries entries others
  | _, _ => false

def sameItems : List Value → List Value → Bool
  | [], [] => true
  | v :: items, w :: others => same v w && sameItems items others
  | _, _ => false

def sameEntries : List (Text × Value) → List (Text × Value) → Bool
  | [], [] => true
  | (k, v) :: entries, (l, w) :: others => k == l && same v w && sameEntries entries others
  | _, _ => false

end

mutual

@[simp] theorem same_iff (v w : Value) : same v w = true ↔ v = w := by
  cases v with
  | list items => cases w <;> simp [same, sameItems_iff items]
  | mapping entries => cases w <;> simp [same, sameEntries_iff entries]
  | _ => cases w <;> simp [same]

@[simp] theorem sameItems_iff (items others : List Value) : sameItems items others = true ↔ items = others := by
  cases items with
  | nil => cases others <;> simp [sameItems]
  | cons v items =>
    cases others with
    | nil => simp [sameItems]
    | cons w others => simp [sameItems, same_iff v w, sameItems_iff items others]

@[simp] theorem sameEntries_iff (entries others : List (Text × Value)) :
    sameEntries entries others = true ↔ entries = others := by
  cases entries with
  | nil => cases others <;> simp [sameEntries]
  | cons item entries =>
    cases others with
    | nil => simp [sameEntries]
    | cons other others =>
      obtain ⟨k, v⟩ := item
      obtain ⟨l, w⟩ := other
      simp [sameEntries, same_iff v w, sameEntries_iff entries others]

end

instance : DecidableEq Value := fun v w => decidable_of_iff (same v w = true) (same_iff v w)

end ScadAdvisor.Value
