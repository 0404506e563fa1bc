import Mathlib.Tactic.Common
import ScadAdvisor.Proofs.Mask

/-! # Masking a masked text

What masking leaves in place is code, and code has no mark that opens a comment or a string. So there
is nothing to mask a second time.
-/

namespace ScadAdvisor

namespace Mask

/-- A text in which no comment starts, and no string either if strings count. -/
structure Bare (strings : Bool) (text : Text) : Prop where
  line : ¬ ['/', '/'] <:+: text
  block : ¬ ['/', '*'] <:+: text
  string : strings = true → ∀ c ∈ text, isQuote c = false

@[simp] theorem bare_nil (strings : Bool) : Bare strings [] := ⟨by simp, by simp, by simp⟩

theorem bare_cons_iff (strings : Bool) (c : Char) (cs : Text) :
    Bare strings (c :: cs) ↔
      ¬ ['/', '/'] <+: c :: cs ∧ ¬ ['/', '*'] <+: c :: cs ∧ (strings = true → isQuote c = false) ∧
        Bare strings cs := by
  constructor
  · rintro ⟨hline, hblock, hstring⟩
    rw [List.infix_cons_iff, not_or] at hline hblock
    refine ⟨hline.1, hblock.1, fun h => hstring h c (by simp), hline.2, hblock.2, ?_⟩
    intro h d hd
    exact hstring h d (by simp [hd])
  · rintro ⟨hline, hblock, hc, hcs⟩
    refine ⟨?_, ?_, ?_⟩
    · rw [List.infix_cons_iff, not_or]
      exact ⟨hline, hcs.line⟩
    · rw [List.infix_cons_iff, not_or]
      exact ⟨hblock, hcs.block⟩
    · intro h d hd
      rcases List.mem_cons.mp hd with rfl | hd
      · exact hc h
      · exact hcs.string h d hd

theorem Bare.comments {strings : Bool} {text : Text} (h : Bare strings text) : Bare false text :=
  ⟨h.line, h.block, by simp⟩

/-! ## What stays is bare -/

theorem blanked_ne_slash (c : Char) : blanked c ≠ '/' := by
  unfold blanked
  split <;> simp_all

theorem step_slash (strings : Bool) (region : Region) (c : Char) (next : Option Char)
    (h : (step strings region c next).1 = '/') : next ≠ some '/' ∧ next ≠ some '*' := by
  have hblanked := blanked_ne_slash c
  cases region with
  | code => simp only [step] at h; split_ifs at h <;> simp_all
  | lineComment => simp only [step] at h; split_ifs at h <;> simp_all
  | blockOpening => simp [step] at h
  | blockComment => simp only [step] at h; split_ifs at h <;> simp_all
  | blockClosing => simp [step] at h
  | string quote => simp only [step] at h; split_ifs at h <;> simp_all
  | escape quote => simp [step] at h

@[simp] theorem isQuote_blanked (c : Char) : isQuote (blanked c) = false := by
  unfold blanked
  split <;> simp_all [isQuote]

@[simp] theorem isQuote_step (region : Region) (c : Char) (next : Option Char) :
    isQuote (step true region c next).1 = false := by
  have hspace : isQuote ' ' = false := rfl
  have hnewline : isQuote '\n' = false := rfl
  cases region with
  | code => simp only [step]; split_ifs <;> simp_all
  | lineComment => simp only [step]; split_ifs <;> simp_all
  | blockOpening => exact hspace
  | blockComment => simp only [step]; split_ifs <;> simp [hspace]
  | blockClosing => exact hspace
  | string quote => simp only [step]; split_ifs <;> simp [hspace]
  | escape quote => exact hspace

/-- What follows a slash in the image is no mark: it is what followed the slash in the text, or a
space. -/
theorem not_pair_run (strings : Bool) (region : Region) (c : Char) (cs : Text) (second : Char)
    (hsecond : second = '/' ∨ second = '*') :
    ¬ ['/', second] <+: run strings region (c :: cs) := by
  intro hpair
  rw [run, Text.pair_isPrefix_iff, Bool.and_eq_true, beq_iff_eq, beq_iff_eq] at hpair
  obtain ⟨hslash, hhead⟩ := hpair
  have hnext := step_slash strings region c cs.head? hslash
  have himage := (blanking_run strings (step strings region c cs.head?).2 cs).getElem?_eq 0
  rw [← List.head?_eq_getElem?, ← List.head?_eq_getElem?, hhead] at himage
  rcases himage with himage | himage
  · rcases hsecond with rfl | rfl
    · exact hnext.1 himage.symm
    · exact hnext.2 himage.symm
  · rcases hsecond with rfl | rfl <;> simp at himage

theorem bare_run (strings : Bool) (region : Region) (text : Text) :
    Bare strings (run strings region text) := by
  induction text generalizing region with
  | nil => exact bare_nil strings
  | cons c cs ih =>
    have hline := not_pair_run strings region c cs '/' (Or.inl rfl)
    have hblock := not_pair_run strings region c cs '*' (Or.inr rfl)
    rw [run] at hline hblock ⊢
    refine (bare_cons_iff _ _ _).mpr ⟨hline, hblock, ?_, ih _⟩
    rintro rfl
    exact isQuote_step region c cs.head?

/-! ## What is bare stays -/

theorem run_code_of_bare (strings : Bool) (text : Text) (h : Bare strings text) :
    run strings .code text = text := by
  induction text with
  | nil => rfl
  | cons c cs ih =>
    obtain ⟨hline, hblock, hquote, hcs⟩ := (bare_cons_iff _ _ _).mp h
    rw [Text.pair_isPrefix_iff] at hline hblock
    have hstring : ¬ (strings && isQuote c) = true := by
      rw [Bool.and_eq_true]
      rintro ⟨hstrings, hc⟩
      simp [hquote hstrings] at hc
    have hstep : step strings .code c cs.head? = (c, .code) := by
      simp only [step]
      rw [if_neg hblock, if_neg hline, if_neg hstring]
    rw [run, hstep, ih hcs]

end Mask

theorem bare_mask (strings : Bool) (text : Text) : Mask.Bare strings (mask strings text) :=
  Mask.bare_run strings .code text

theorem mask_eq_self_iff (strings : Bool) (text : Text) :
    mask strings text = text ↔ Mask.Bare strings text := by
  constructor
  · intro h
    rw [← h]
    exact bare_mask strings text
  · exact Mask.run_code_of_bare strings text

/-- Masking puts spaces in the place of characters until no comment starts, and no string if strings
are asked for; and it touches no text that is so already. So doing it again changes nothing, and
neither does masking comments behind masking strings. -/
theorem mask_projection (text : Text) :
    (∀ strings, text.Blanking (mask strings text) ∧ Mask.Bare strings (mask strings text) ∧
      (mask strings text = text ↔ Mask.Bare strings text)) ∧
      maskComments (maskComments text) = maskComments text ∧
      maskCommentsAndStrings (maskCommentsAndStrings text) = maskCommentsAndStrings text ∧
      maskComments (maskCommentsAndStrings text) = maskCommentsAndStrings text := by
  refine ⟨?_, ?_, ?_, ?_⟩
  · intro strings
    exact ⟨blanking_mask strings text, bare_mask strings text, mask_eq_self_iff strings text⟩
  · exact (mask_eq_self_iff false _).mpr (bare_mask false text)
  · exact (mask_eq_self_iff true _).mpr (bare_mask true text)
  · exact (mask_eq_self_iff false _).mpr (bare_mask true text).comments

-- What stands between a slash and a star goes, but they do not move together.
example : maskCommentsAndStrings "/'//'*/**//".toList = "/    *    /".toList := by decide

end ScadAdvisor
