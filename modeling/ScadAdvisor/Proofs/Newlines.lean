import Mathlib.Tactic.Common
import ScadAdvisor.LineIndex
import ScadAdvisor.Proofs.Mask

/-! # Newlines and lines under masking

A line number is a number of newlines, so a masked text has the lines of its source as far as its
newlines are kept.
-/

namespace ScadAdvisor

/-! ## Lines and newlines -/

namespace LineIndex

theorem lt_of_mem_startsFrom (pos : Nat) (text : Text) (start : Nat)
    (h : start ∈ startsFrom pos text) : pos < start := by
  induction text generalizing pos with
  | nil => simp [startsFrom] at h
  | cons c cs ih =>
    rw [startsFrom] at h
    split at h
    · rcases List.mem_cons.mp h with rfl | h
      · exact Nat.lt_succ_self pos
      · exact Nat.lt_of_succ_lt (ih (pos + 1) h)
    · exact Nat.lt_of_succ_lt (ih (pos + 1) h)

theorem countP_startsFrom (pos n : Nat) (text : Text) :
    ((startsFrom pos text).countP fun (start : Nat) => (start : Int) ≤ (pos + n : Nat)) =
      (text.take n).count '\n' := by
  induction text generalizing pos n with
  | nil => simp [startsFrom]
  | cons c cs ih =>
    cases n with
    | zero =>
      -- Every start lies behind the offset at which the search began.
      rw [List.take_zero, List.count_nil, List.countP_eq_zero]
      intro start hstart
      have hlt := lt_of_mem_startsFrom pos (c :: cs) start hstart
      rw [decide_eq_true_eq]
      omega
    | succ n =>
      have hrest := ih (pos + 1) n
      rw [Nat.add_assoc, Nat.add_comm 1 n] at hrest
      rw [startsFrom, List.take_succ_cons, List.count_cons, ← hrest]
      split
      · exact List.countP_cons_of_pos (decide_eq_true (by omega))
      · rfl

@[simp] theorem lineOf_ofText (text : Text) (n : Nat) :
    (ofText text).lineOf n = (text.take n).count '\n' + 1 := by
  have h := countP_startsFrom 0 n text
  rw [Nat.zero_add] at h
  rw [lineOf, ofText, List.countP_cons_of_pos (by simp), h]

theorem getElem?_newline_iff (text : Text) (i : Nat) :
    text[i]? = some '\n' ↔ (ofText text).lineOf (i + 1 : Nat) = (ofText text).lineOf i + 1 := by
  rw [lineOf_ofText, lineOf_ofText, List.take_add_one, List.count_append]
  rcases text[i]? with _ | c
  · simp
  · by_cases hc : c = '\n'
    · simp [hc]
    · simp [hc]

theorem startsFrom_congr (pos : Nat) (a b : Text) (hlen : a.length = b.length)
    (h : ∀ i : Nat, a[i]? = some '\n' ↔ b[i]? = some '\n') : startsFrom pos a = startsFrom pos b := by
  induction a generalizing pos b with
  | nil => rw [List.length_eq_zero_iff.mp hlen.symm]
  | cons c cs ih =>
    obtain ⟨d, ds, rfl⟩ := List.exists_cons_of_length_eq_add_one hlen.symm
    have hhead : c = '\n' ↔ d = '\n' := by simpa using h 0
    have hrest := ih (pos + 1) ds (by simpa using hlen) fun i => h (i + 1)
    simp only [startsFrom, beq_iff_eq, hhead, hrest]

/-- Two texts of one length number all their offsets alike if and only if they have their newlines at
the same places. -/
theorem positionOf_eq_iff (a b : Text) (hlen : a.length = b.length) :
    (∀ offset, (ofText a).positionOf offset = (ofText b).positionOf offset) ↔
      ∀ i : Nat, a[i]? = some '\n' ↔ b[i]? = some '\n' := by
  constructor
  · intro h i
    have hline : ∀ offset, (ofText a).lineOf offset = (ofText b).lineOf offset :=
      fun offset => congrArg Position.line (h offset)
    rw [getElem?_newline_iff, getElem?_newline_iff, hline, hline]
  · intro h offset
    rw [ofText, ofText, startsFrom_congr 0 a b hlen h]

end LineIndex

/-! ## Masking and newlines -/

namespace Mask

/-- A region that holds the second character of a pair stands before that character. -/
def Aligned : Region → Text → Prop
  | .blockOpening, text => text.head? = some '*'
  | .blockClosing, text => text.head? = some '/'
  | _, _ => True

theorem aligned_step (strings : Bool) (region : Region) (c : Char) (cs : Text) :
    Aligned (step strings region c cs.head?).2 cs := by
  cases region with
  | code => simp only [step]; split_ifs <;> simp_all [Aligned]
  | lineComment => simp only [step]; split_ifs <;> simp [Aligned]
  | blockOpening => simp [step, Aligned]
  | blockComment => simp only [step]; split_ifs <;> simp_all [Aligned]
  | blockClosing => simp [step, Aligned]
  | string quote => simp only [step]; split_ifs <;> simp [Aligned]
  | escape quote => simp [step, Aligned]

@[simp] theorem blanked_newline_iff (c : Char) : blanked c = '\n' ↔ c = '\n' := by
  unfold blanked
  split <;> simp_all

/-- Only behind a backslash does a newline become a space. -/
theorem step_newline_iff (strings : Bool) (region : Region) (c : Char) (cs : Text)
    (h : Aligned region (c :: cs)) :
    (step strings region c cs.head?).1 = '\n' ↔ c = '\n' ∧ ∀ quote, region ≠ .escape quote := by
  cases region with
  | code =>
    simp only [step]
    split_ifs with hblock hline hquote
    · simp_all
    · simp_all
    · have : c ≠ '\n' := by
        rintro rfl
        simp [isQuote] at hquote
      simp [this]
    · simp
  | lineComment => simp only [step]; split_ifs <;> simp_all
  | blockOpening => simp_all [step, Aligned]
  | blockComment => simp only [step]; split_ifs <;> simp_all
  | blockClosing => simp_all [step, Aligned]
  | string quote => simp only [step]; split_ifs <;> simp_all
  | escape quote => simp [step]

theorem run_newline_iff (strings : Bool) (region : Region) (text : Text) (h : Aligned region text)
    (i : Nat) :
    (run strings region text)[i]? = some '\n' ↔
      text[i]? = some '\n' ∧ ∀ quote, (regions strings region text)[i]? ≠ some (.escape quote) := by
  induction text generalizing region i with
  | nil => simp [run]
  | cons c cs ih =>
    rw [run, regions]
    cases i with
    | zero => simpa using step_newline_iff strings region c cs h
    | succ i => simpa using ih _ (aligned_step strings region c cs) i

theorem step_ne_escape (region : Region) (c : Char) (next : Option Char)
    (h : ∀ quote, region ≠ .string quote ∧ region ≠ .escape quote) (quote : Char) :
    (step false region c next).2 ≠ .string quote ∧ (step false region c next).2 ≠ .escape quote := by
  cases region with
  | code => simp only [step]; split_ifs <;> simp_all
  | lineComment => simp only [step]; split_ifs <;> simp
  | blockOpening => simp [step]
  | blockComment => simp only [step]; split_ifs <;> simp
  | blockClosing => simp [step]
  | string quote => exact absurd rfl (h quote).1
  | escape quote => exact absurd rfl (h quote).2

/-- The character at an offset stands behind a backslash in a string. -/
def Escaped (strings : Bool) (text : Text) (i : Nat) : Prop :=
  ∃ quote, (regions strings .code text)[i]? = some (.escape quote)

/-- Where strings are left alone nothing is escaped. -/
theorem regions_ne_escape (region : Region) (text : Text)
    (h : ∀ quote, region ≠ .string quote ∧ region ≠ .escape quote) (i : Nat) (quote : Char) :
    (regions false region text)[i]? ≠ some (.escape quote) := by
  induction text generalizing region i with
  | nil =>
    cases i with
    | zero => simpa [regions] using (h quote).2
    | succ i => simp [regions]
  | cons c cs ih =>
    rw [regions]
    cases i with
    | zero => simpa using (h quote).2
    | succ i => simpa using ih _ (step_ne_escape region c cs.head? h) i

end Mask

theorem mask_newline_iff (strings : Bool) (text : Text) (i : Nat) :
    (mask strings text)[i]? = some '\n' ↔ text[i]? = some '\n' ∧ ¬ Mask.Escaped strings text i := by
  rw [mask, Mask.run_newline_iff strings .code text trivial i, Mask.Escaped, not_exists]

/-- A masked text is as long as its source and has its newlines, but for those that are escaped in a
string. If and only if there is none of these, both give every offset the same line and column; and
without strings there never is one. -/
theorem mask_newlines (strings : Bool) (text : Text) :
    (mask strings text).length = text.length ∧
      (∀ i, (mask strings text)[i]? = some '\n' ↔
        text[i]? = some '\n' ∧ ¬ Mask.Escaped strings text i) ∧
      ((∀ offset, (LineIndex.ofText (mask strings text)).positionOf offset =
          (LineIndex.ofText text).positionOf offset) ↔
        ∀ i, ¬ (text[i]? = some '\n' ∧ Mask.Escaped strings text i)) ∧
      ∀ i, ¬ Mask.Escaped false text i := by
  have hlen : (mask strings text).length = text.length := (blanking_mask strings text).length_eq
  refine ⟨hlen, mask_newline_iff strings text, ?_, ?_⟩
  · rw [LineIndex.positionOf_eq_iff _ _ hlen]
    simp only [mask_newline_iff, and_iff_left_iff_imp, not_and]
  · rintro i ⟨quote, hquote⟩
    exact Mask.regions_ne_escape .code text (by simp) i quote hquote

/-- A line that is continued inside a string. Its newline goes, and what follows it moves up to the
first line. -/
theorem mask_escaped_newline :
    let text := "\"a\\\nb\"".toList
    text[3]? = some '\n' ∧ mask true text = Text.blank 6 ∧
      (LineIndex.ofText text).positionOf 4 = ⟨2, 1⟩ ∧
      (LineIndex.ofText (mask true text)).positionOf 4 = ⟨1, 5⟩ := by
  decide

end ScadAdvisor
