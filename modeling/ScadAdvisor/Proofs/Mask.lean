import ScadAdvisor.LineStrip
import ScadAdvisor.Mask
import ScadAdvisor.Proofs.Text

/-! # Masking only blanks

Both the masker of whole texts and the stripper of single lines put spaces in the place of
characters and leave everything else where it stands.
-/

namespace ScadAdvisor

/-! ## Whole texts -/

namespace Mask

theorem blanked_eq (c : Char) : blanked c = c ∨ blanked c = ' ' := by
  unfold blanked
  split
  · exact Or.inl rfl
  · exact Or.inr rfl

theorem step_eq (strings : Bool) (region : Region) (c : Char) (next : Option Char) :
    (step strings region c next).1 = c ∨ (step strings region c next).1 = ' ' := by
  cases region with
  | code => simp only [step]; split_ifs <;> simp
  | lineComment => simp only [step]; split_ifs <;> simp
  | blockOpening => exact Or.inr rfl
  | blockComment => simp only [step]; split_ifs <;> simp [blanked_eq]
  | blockClosing => exact Or.inr rfl
  | string quote => simp only [step]; split_ifs <;> simp [blanked_eq]
  | escape quote => exact Or.inr rfl

theorem blanking_run (strings : Bool) (region : Region) (text : Text) :
    text.Blanking (run strings region text) := by
  induction text generalizing region with
  | nil => exact List.Forall₂.nil
  | cons c cs ih => exact List.Forall₂.cons (step_eq strings region c cs.head?) (ih _)

end Mask

theorem blanking_mask (strings : Bool) (text : Text) : text.Blanking (mask strings text) :=
  Mask.blanking_run strings .code text

/-! ## Single lines -/

namespace LineStrip

theorem blanking_closeCarried (line : Text) : line.Blanking (closeCarried line).1 := by
  unfold closeCarried
  split
  · rename_i n h
    have := Text.findPair_lt _ _ _ _ h
    simpa using Text.Blanking.blank_middle line 0 (n + 2) (by omega)
  · exact Text.Blanking.blank line

theorem blanking_tail (line : Text) (start : Nat) (h : start ≤ line.length) :
    line.Blanking (line.take start ++ Text.blank (line.length - start)) := by
  have hblank := Text.Blanking.blank_middle line start (line.length - start) (by omega)
  rwa [List.drop_eq_nil_of_le (by omega), List.append_nil] at hblank

theorem blanking_stripBlock (line : Text) : line.Blanking (stripBlock line).1 := by
  unfold stripBlock
  split
  · exact Text.Blanking.refl line
  · rename_i start h
    have hstart := Text.findPair_lt _ _ _ _ h
    split
    · rename_i n hn
      have hstop := Text.findPair_lt _ _ _ _ hn
      rw [List.length_drop] at hstop
      exact Text.Blanking.blank_middle line start (n + 4) (by omega)
    · exact blanking_tail line start (by omega)

theorem blanking_stripRest (line : Text) : line.Blanking (stripRest line) := by
  unfold stripRest
  split
  · rename_i n h
    have := Text.findPair_lt _ _ _ _ h
    exact blanking_tail line n (by omega)
  · exact Text.Blanking.refl line

end LineStrip

theorem blanking_stripLine (inBlock : Bool) (line : Text) :
    line.Blanking (stripLine inBlock line).text := by
  have hcarried : line.Blanking (if inBlock then LineStrip.closeCarried line else (line, false)).1 := by
    split
    · exact LineStrip.blanking_closeCarried line
    · exact Text.Blanking.refl line
  unfold stripLine
  refine Text.Blanking.trans ?_ (LineStrip.blanking_stripRest _)
  generalize (if inBlock then LineStrip.closeCarried line else (line, false)) = carried at hcarried ⊢
  split
  · exact hcarried
  · exact hcarried.trans (LineStrip.blanking_stripBlock _)

end ScadAdvisor
