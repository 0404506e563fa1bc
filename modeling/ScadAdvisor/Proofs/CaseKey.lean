import Mathlib.Tactic.Common
import ScadAdvisor.Proofs.Lowercase
import ScadAdvisor.Text.CaseKey

/-! # Comparison without regard to case

Characters that come before the letters, such as the quotes and the point, are alike to nothing but
themselves.
-/

namespace ScadAdvisor.Text

/-! ## Characters -/

theorem caseKey_of_lt (c : Char) (h : (caseKey c).toNat < 0x41) : caseKey c = c := by
  have halike : ∀ pair ∈ alikeTable, 0x41 ≤ (Char.ofNat pair.2).toNat := by decide +kernel
  have hdotted : c ≠ 'İ' := by
    rintro rfl
    revert h
    decide +kernel
  have hlow : caseKey c = lowerChar c := by
    simp only [caseKey, beq_iff_eq, hdotted, if_false] at h ⊢
    split at h
    · rename_i hlt
      rw [if_pos hlt]
    · rename_i hge
      rw [if_neg hge]
      split at h
      · rename_i n hlookup
        obtain ⟨before, after, heq, -⟩ := List.lookup_eq_some_iff.mp hlookup
        have hpair := halike ((lowerChar c).toNat, n) (by rw [heq]; simp)
        exact absurd h (Nat.not_lt.mpr hpair)
      · rfl
  rw [hlow] at h ⊢
  exact lowerChar_of_lt c h

/-! ## Texts -/

def Alike (a b : Text) : Prop := a.map caseKey = b.map caseKey

theorem startsAlike_iff (word text : Text) :
    startsAlike word text = true ↔ Alike word (text.take word.length) := by
  induction word generalizing text with
  | nil => simp [startsAlike, Alike]
  | cons p ps ih =>
    cases text with
    | nil => simp [startsAlike, Alike]
    | cons c cs =>
      rw [startsAlike, Bool.and_eq_true, beq_iff_eq, ih, List.length_cons, List.take_succ_cons]
      simp [Alike]

end ScadAdvisor.Text
