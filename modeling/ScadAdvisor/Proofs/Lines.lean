import ScadAdvisor.Proofs.LineMask

/-! # The lines of a text and their numbers

Cutting a text into lines and counting its newlines give every offset the same line.
-/

namespace ScadAdvisor

namespace Text

theorem join_split (pieces : List Text) (i : Nat) (piece : Text) (h : pieces[i]? = some piece) :
    ∃ after, join ['\n'] pieces = ended (pieces.take i) ++ (piece ++ after) := by
  induction pieces generalizing i with
  | nil => simp at h
  | cons first rest ih =>
    cases i with
    | zero =>
      obtain rfl : first = piece := by simpa using h
      cases rest with
      | nil => exact ⟨[], by simp [join, ended]⟩
      | cons _ _ => exact ⟨_, by rw [join_cons_of_ne_nil _ _ _ (by simp), List.append_assoc]; rfl⟩
    | succ i =>
      obtain ⟨after, hafter⟩ := ih i (by simpa using h)
      have hrest : rest ≠ [] := by
        rintro rfl
        simp at h
      refine ⟨after, ?_⟩
      rw [join_cons_of_ne_nil _ _ _ hrest, hafter]
      simp [ended]

theorem count_ended (lines : List Text) (h : ∀ line ∈ lines, '\n' ∉ line) :
    (ended lines).count '\n' = lines.length := by
  induction lines with
  | nil => rfl
  | cons line rest ih =>
    have hline := List.count_eq_zero.mpr (h line (by simp))
    have hrest := ih fun l hl => h l (by simp [hl])
    unfold ended at hrest ⊢
    rw [List.flatMap_cons, List.count_append, List.count_append, hline, hrest, List.length_cons]
    simp only [List.count_singleton_self]
    omega

theorem split_at_line (text : Text) (i : Nat) (line : Text) (h : text.lines[i]? = some line) :
    ∃ after, text = ended (text.lines.take i) ++ (line ++ after) := by
  obtain ⟨after, hafter⟩ := join_split text.lines i line h
  exact ⟨after, by rw [← hafter, join_lines]⟩

theorem newline_not_mem_line (text : Text) (i : Nat) (line : Text) (h : text.lines[i]? = some line) :
    '\n' ∉ line := sep_not_mem_of_mem_splitOn '\n' text line (List.mem_of_getElem? h)

/-- Where the line with this index starts, the first one having index zero. -/
def startOfLine (text : Text) (i : Nat) : Nat := (ended (text.lines.take i)).length

theorem slice_line (text : Text) (i : Nat) (line : Text) (h : text.lines[i]? = some line)
    (start stop : Nat) (hstop : stop ≤ line.length) :
    slice text (text.startOfLine i + start) (text.startOfLine i + stop) = slice line start stop := by
  obtain ⟨after, hafter⟩ := text.split_at_line i line h
  unfold startOfLine
  generalize ended (text.lines.take i) = before at hafter
  rw [hafter, slice_append_right, slice_append_left _ _ _ _ hstop]

end Text

namespace LineIndex

theorem lineOf_line (text : Text) (i : Nat) (line : Text) (h : text.lines[i]? = some line) (k : Nat)
    (hk : k ≤ line.length) : (ofText text).lineOf (text.startOfLine i + k : Nat) = i + 1 := by
  obtain ⟨after, hafter⟩ := text.split_at_line i line h
  have hline := text.newline_not_mem_line i line h
  have hlt : i < text.lines.length := (List.getElem?_eq_some_iff.mp h).1
  have hbefore : (Text.ended (text.lines.take i)).count '\n' = i := by
    rw [Text.count_ended, List.length_take, Nat.min_eq_left (Nat.le_of_lt hlt)]
    intro l hl
    exact Text.sep_not_mem_of_mem_splitOn '\n' text l (List.mem_of_mem_take hl)
  have hfront : (line.take k).count '\n' = 0 :=
    List.count_eq_zero.mpr fun hmem => hline (List.mem_of_mem_take hmem)
  rw [lineOf_ofText]
  unfold Text.startOfLine
  generalize Text.ended (text.lines.take i) = before at hafter hbefore
  rw [hafter, List.take_length_add_append, List.take_append_of_le_length hk, List.count_append,
    hbefore, hfront, Nat.add_zero]

theorem starts_join (lines : List Text) (h : ∀ line ∈ lines, '\n' ∉ line) (i : Nat)
    (hi : i < lines.length) :
    (ofText (Text.join ['\n'] lines)).starts[i]? = some (Text.ended (lines.take i)).length := by
  induction lines generalizing i with
  | nil => simp at hi
  | cons line rest ih =>
    have hline := h line (by simp)
    cases i with
    | zero => rfl
    | succ i =>
      have hrest : rest ≠ [] := by
        rintro rfl
        simp at hi
      have hnext := ih (fun l hl => h l (by simp [hl])) i (by simpa using hi)
      have hjoin : Text.join ['\n'] (line :: rest) = line ++ '\n' :: Text.join ['\n'] rest := by
        rw [Text.join_cons_of_ne_nil _ _ _ hrest, List.append_assoc]
        rfl
      rw [hjoin, starts_line_append _ _ hline, List.getElem?_cons_succ, List.getElem?_map, hnext,
        List.take_succ_cons, Text.length_ended_cons]
      rfl

theorem starts_ofText (text : Text) (i : Nat) (hi : i < text.lines.length) :
    (ofText text).starts[i]? = some (text.startOfLine i) := by
  have hstart := starts_join text.lines (Text.sep_not_mem_of_mem_splitOn '\n' text) i hi
  rwa [Text.join_lines] at hstart

theorem lineStart?_line (text : Text) (i : Nat) (line : Text) (h : text.lines[i]? = some line) :
    (ofText text).lineStart? (i + 1 : Nat) = some (text.startOfLine i) := by
  have hlt : i < text.lines.length := (List.getElem?_eq_some_iff.mp h).1
  unfold lineStart?
  rw [if_neg (by omega)]
  have hplace : ((i + 1 : Nat) - 1 : Int) = i := by omega
  simp only [hplace]
  rw [if_neg (by omega), Int.toNat_natCast, starts_ofText text i hlt]

end LineIndex

end ScadAdvisor
