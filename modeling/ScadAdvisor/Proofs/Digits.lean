import Mathlib.Data.List.Basic
import ScadAdvisor.Text.Basic

/-! # Digits

What a number is written with, in a base of at most sixteen.
-/

namespace ScadAdvisor

namespace Text

/-! ## The value of digits -/

@[simp] theorem digitValue_digitChar : ∀ n < 16, digitValue n.digitChar = n := by decide

@[simp] theorem digitsValue_concat (base : Nat) (digits : Text) (c : Char) :
    digitsValue base (digits ++ [c]) = digitsValue base digits * base + digitValue c := by
  simp [digitsValue]

theorem digitsValue_toDigits {base : Nat} (hlow : 1 < base) (hhigh : base ≤ 16) (n : Nat) :
    digitsValue base (Nat.toDigits base n) = n := by
  induction n using Nat.strongRecOn with
  | ind n ih =>
    rw [Nat.toDigits_eq_if hlow]
    split
    case isTrue hn =>
      rw [← List.nil_append [n.digitChar], digitsValue_concat, digitValue_digitChar n (by omega)]
      simp [digitsValue]
    case isFalse hn =>
      have hmod : n % base < 16 := Nat.lt_of_lt_of_le (Nat.mod_lt n (by omega)) hhigh
      rw [digitsValue_concat, ih (n / base) (Nat.div_lt_self (by omega) hlow),
        digitValue_digitChar _ hmod, Nat.div_add_mod']

@[simp] theorem digitsValue_zeros (base k : Nat) (digits : Text) :
    digitsValue base (List.replicate k '0' ++ digits) = digitsValue base digits := by
  induction k with
  | zero => rfl
  | succ k ih =>
    rw [List.replicate_succ, List.cons_append, ← ih]
    simp [digitsValue, show digitValue '0' = 0 by decide]

/-! ## Which characters they are -/

theorem exists_digit_of_mem_toDigits {base n : Nat} {c : Char} (hbase : 1 < base)
    (h : c ∈ Nat.toDigits base n) : ∃ d < base, c = d.digitChar := by
  induction n using Nat.strongRecOn with
  | ind n ih =>
    rw [Nat.toDigits_eq_if hbase] at h
    split at h
    case isTrue hn => exact ⟨n, hn, by simpa using h⟩
    case isFalse hn =>
      rcases List.mem_append.mp h with h | h
      · exact ih (n / base) (Nat.div_lt_self (by omega) hbase) h
      · exact ⟨n % base, Nat.mod_lt n (by omega), by simpa using h⟩

@[simp] theorem isDigit_digitChar : ∀ d < 10, Ascii.isDigit d.digitChar = true := by decide

@[simp] theorem isHexDigit_digitChar : ∀ d < 16, Ascii.isHexDigit d.digitChar = true := by decide

theorem eq_zero_of_head?_toDigits {n : Nat} (h : (Nat.toDigits 10 n).head? = some '0') : n = 0 := by
  induction n using Nat.strongRecOn with
  | ind n ih =>
    rw [Nat.toDigits_eq_if (by omega)] at h
    split at h
    case isTrue hn =>
      have hzero : ∀ d < 10, d.digitChar = '0' → d = 0 := by decide
      exact hzero n hn (by simpa using h)
    case isFalse hn =>
      rw [List.head?_append_of_ne_nil _ Nat.toDigits_ne_nil] at h
      have := ih (n / 10) (by omega) h
      omega

/-! ## Four hexadecimal digits -/

@[simp] theorem length_hex {n : Nat} (h : n < 0x10000) : (hex 4 n).length = 4 := by
  have hlength : (Nat.toDigits 16 n).length ≤ 4 :=
    (Nat.length_toDigits_le_iff (by omega) (by omega)).mpr (by omega)
  simp only [hex, List.length_append, List.length_replicate]
  omega

@[simp] theorem digitsValue_hex (width n : Nat) : digitsValue 16 (hex width n) = n := by
  rw [hex, digitsValue_zeros, digitsValue_toDigits (by omega) (by omega)]

theorem isHexDigit_of_mem_hex {width n : Nat} {c : Char} (h : c ∈ hex width n) :
    Ascii.isHexDigit c = true := by
  rcases List.mem_append.mp h with h | h
  · rw [List.eq_of_mem_replicate h]
    rfl
  · obtain ⟨d, hd, rfl⟩ := exists_digit_of_mem_toDigits (by omega) h
    exact isHexDigit_digitChar d hd

end Text

end ScadAdvisor
