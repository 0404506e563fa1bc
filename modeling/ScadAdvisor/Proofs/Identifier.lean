import Mathlib.Tactic.Common
import ScadAdvisor.Text.Identifier

/-! # What no identifier has -/

namespace ScadAdvisor

theorem Ranges.holds_of_lt (ranges : Ranges) (bound : Nat) (h : ∀ r ∈ ranges, bound ≤ r.1) (c : Char)
    (hc : c.toNat < bound) : ranges.holds c = false := by
  unfold holds
  rw [List.any_eq_false]
  intro r hr
  have hle := h r hr
  simp
  omega

theorem Ranges.holds_take (ranges : Ranges) (n bound : Nat) (h : ∀ r ∈ ranges.drop n, bound ≤ r.1)
    (c : Char) (hc : c.toNat < bound) : ranges.holds c = Ranges.holds (ranges.take n) c := by
  have hrest := Ranges.holds_of_lt (ranges.drop n) bound h c hc
  unfold holds at hrest ⊢
  conv => lhs; rw [← List.take_append_drop n ranges, List.any_append, hrest, Bool.or_false]

/-! ## Characters -/

namespace Identifier

theorem isStart_of_lt (c : Char) (hc : c.toNat < 0x41) : isStart c = false :=
  startRanges.holds_of_lt 0x41 (by decide +kernel) c hc

theorem isContinue_of_lt (c : Char) (hc : c.toNat < 0x30) : isContinue c = false := by
  rw [isContinue, Bool.or_eq_false_iff]
  exact ⟨isStart_of_lt c (by omega), laterRanges.holds_of_lt 0x30 (by decide +kernel) c hc⟩

theorem isStart_of_isDigit (c : Char) (h : Ascii.isDigit c = true) : isStart c = false := by
  simp only [Ascii.isDigit, Bool.and_eq_true, decide_eq_true_eq] at h
  apply isStart_of_lt
  exact Nat.lt_of_le_of_lt (UInt32.le_iff_toNat_le.mp h.2) (by decide)

theorem isContinue_of_isSpace (c : Char) (h : Ascii.isSpace c = true) : isContinue c = false := by
  simp only [Ascii.isSpace, Bool.or_eq_true, Bool.and_eq_true, beq_iff_eq, decide_eq_true_eq] at h
  apply isContinue_of_lt
  rcases h with rfl | ⟨-, h⟩
  · decide
  · exact Nat.lt_of_le_of_lt (UInt32.le_iff_toNat_le.mp h) (by decide)

end Identifier

namespace Ascii

theorem toNat_lt_of_isWord (c : Char) (h : isWord c = true) : c.toNat < 0x80 := by
  have hle : ∀ d : Char, c ≤ d → d.toNat < 0x80 → c.toNat < 0x80 :=
    fun d hd => Nat.lt_of_le_of_lt (UInt32.le_iff_toNat_le.mp hd)
  simp only [isWord, isLetter, isDigit, Bool.or_eq_true, Bool.and_eq_true, decide_eq_true_eq,
    beq_iff_eq] at h
  rcases h with ((⟨-, h⟩ | ⟨-, h⟩) | ⟨-, h⟩) | rfl
  · exact hle 'z' h (by decide)
  · exact hle 'Z' h (by decide)
  · exact hle '9' h (by decide)
  · decide

theorem isWord_eq_isContinue (c : Char) (h : c.toNat < 0x80) : isWord c = Identifier.isContinue c := by
  -- Only the first few ranges matter.
  have hstart := Identifier.startRanges.holds_take 3 0x80 (by decide +kernel) c h
  have hlater := Identifier.laterRanges.holds_take 1 0x80 (by decide +kernel) c h
  have hall : ∀ n < 0x80, isWord (Char.ofNat n) =
      (Ranges.holds (Identifier.startRanges.take 3) (Char.ofNat n) ||
        Ranges.holds (Identifier.laterRanges.take 1) (Char.ofNat n)) := by
    decide +kernel
  rw [Identifier.isContinue, hstart, hlater]
  have hc := hall c.toNat h
  rwa [Char.ofNat_toNat] at hc

theorem isContinue_of_isWord (c : Char) (h : isWord c = true) : Identifier.isContinue c = true := by
  rw [← isWord_eq_isContinue c (toNat_lt_of_isWord c h), h]

theorem isWord_of_isSpace (c : Char) (h : isSpace c = true) : isWord c = false := by
  rw [← Bool.not_eq_true]
  intro hword
  have := Identifier.isContinue_of_isSpace c h
  simp [isContinue_of_isWord c hword] at this

end Ascii

/-! ## Names -/

theorem ne_nil_of_isIdentifier (name : Text) (h : isIdentifier name = true) : name ≠ [] := by
  rintro rfl
  cases h

theorem not_mem_of_isIdentifier (c : Char) (hc : Identifier.isContinue c = false) (name : Text)
    (h : isIdentifier name = true) : c ∉ name := by
  have hstart : Identifier.isStart c = false := by
    rw [Identifier.isContinue, Bool.or_eq_false_iff] at hc
    exact hc.1
  cases name with
  | nil => simp
  | cons d ds =>
    rw [isIdentifier, Bool.and_eq_true, List.all_eq_true] at h
    intro hmem
    rcases List.mem_cons.mp hmem with rfl | hmem
    · simp [hstart] at h
    · have := h.2 c hmem
      simp [hc] at this

theorem no_space_of_isIdentifier (name : Text) (h : isIdentifier name = true) : ' ' ∉ name :=
  not_mem_of_isIdentifier ' ' (Identifier.isContinue_of_lt ' ' (by decide)) name h

theorem isDigit_head_of_isIdentifier (name : Text) (h : isIdentifier name = true) :
    name.head?.any Ascii.isDigit = false := by
  cases name with
  | nil => rfl
  | cons c cs =>
    rw [isIdentifier, Bool.and_eq_true] at h
    rw [List.head?_cons, Option.any_some, ← Bool.not_eq_true]
    intro hdigit
    simp [Identifier.isStart_of_isDigit c hdigit] at h

end ScadAdvisor
