import ScadAdvisor.Proofs.Mask

/-! # The stripper of lines, part by part

What the stripper makes of a line is put together from what it makes of two parts of it, as long as no
mark of a comment stands across the border.
-/

namespace ScadAdvisor.LineStrip

/-! ## A block comment that is open before the line -/

theorem closeCarried_append_of_some (front back : Text) (n : Nat)
    (h : Text.findPair '*' '/' front = some n) :
    closeCarried (front ++ back) = ((closeCarried front).1 ++ back, false) := by
  have hlen := Text.findPair_lt _ _ _ _ h
  simp only [closeCarried, Text.findPair_append_of_some _ _ _ _ _ h, h,
    List.drop_append_of_le_length hlen, List.append_assoc]

theorem closeCarried_append (front back : Text) (h : Text.findPair '*' '/' front = none)
    (hborder : ¬ (front.getLast? = some '*' ∧ back.head? = some '/')) :
    closeCarried (front ++ back) =
      (Text.blank front.length ++ (closeCarried back).1, (closeCarried back).2) := by
  unfold closeCarried
  rw [Text.findPair_append _ _ _ _ hborder, h, Option.none_or]
  cases Text.findPair '*' '/' back with
  | none => simp only [Option.map_none, List.length_append, Text.blank_add]
  | some n =>
    have hcount : n + front.length + 2 = front.length + (n + 2) := by omega
    simp only [Option.map_some]
    rw [hcount, List.drop_append, List.drop_eq_nil_of_le (by omega), Nat.add_sub_cancel_left,
      List.nil_append, Text.blank_add, List.append_assoc]

/-! ## The block comment that opens on the line -/

theorem stripBlock_append (front back : Text) (h : Text.findPair '/' '*' front = none)
    (hborder : ¬ (front.getLast? = some '/' ∧ back.head? = some '*')) :
    stripBlock (front ++ back) = (front ++ (stripBlock back).1, (stripBlock back).2) := by
  unfold stripBlock
  rw [Text.findPair_append _ _ _ _ hborder, h, Option.none_or]
  cases Text.findPair '/' '*' back with
  | none => rfl
  | some start =>
    have hdrop : ∀ k, (front ++ back).drop (start + front.length + k) = back.drop (start + k) := by
      intro k
      rw [List.drop_append, List.drop_eq_nil_of_le (by omega), List.nil_append]
      congr 1
      omega
    have htake : (front ++ back).take (start + front.length) = front ++ back.take start := by
      rw [List.take_append, List.take_of_length_le (by omega), Nat.add_sub_cancel]
    simp only [Option.map_some]
    rw [hdrop, htake]
    cases Text.findPair '*' '/' (back.drop (start + 2)) with
    | none =>
      simp only [List.length_append, List.append_assoc]
      congr 4
      omega
    | some n =>
      simp only [List.append_assoc]
      rw [Nat.add_assoc (start + front.length) n 4, hdrop, Nat.add_assoc start n 4]

/-- A block comment that was closed is the only one that counts on its line. -/
theorem stripBlock_append_of_closed (front back : Text) (start n : Nat)
    (hstart : Text.findPair '/' '*' front = some start)
    (hn : Text.findPair '*' '/' (front.drop (start + 2)) = some n) :
    stripBlock (front ++ back) = ((stripBlock front).1 ++ back, false) := by
  have hlen := Text.findPair_lt _ _ _ _ hstart
  have hstop := Text.findPair_lt _ _ _ _ hn
  rw [List.length_drop] at hstop
  simp only [stripBlock, Text.findPair_append_of_some _ _ _ _ _ hstart, hstart,
    List.drop_append_of_le_length (show start + 2 ≤ front.length by omega),
    Text.findPair_append_of_some _ _ _ _ _ hn, hn,
    List.drop_append_of_le_length (show start + n + 4 ≤ front.length by omega),
    List.take_append_of_le_length (show start ≤ front.length by omega), List.append_assoc]

theorem stripBlock_append_of_open (front back : Text) (start : Nat)
    (hstart : Text.findPair '/' '*' front = some start)
    (hn : Text.findPair '*' '/' (front.drop (start + 2)) = none)
    (hborder : ¬ (front.getLast? = some '*' ∧ back.head? = some '/')) :
    stripBlock (front ++ back) = ((stripBlock front).1 ++ (closeCarried back).1, (closeCarried back).2) := by
  have hlen := Text.findPair_lt _ _ _ _ hstart
  have hdropBorder : ¬ ((front.drop (start + 2)).getLast? = some '*' ∧ back.head? = some '/') := by
    rw [List.getLast?_drop]
    split
    · simp
    · exact hborder
  have hfront : (stripBlock front).1 = front.take start ++ Text.blank (front.length - start) := by
    simp only [stripBlock, hstart, hn]
  rw [hfront]
  unfold stripBlock closeCarried
  simp only [Text.findPair_append_of_some _ _ _ _ _ hstart, List.drop_append_of_le_length hlen,
    Text.findPair_append _ _ _ _ hdropBorder, hn, Option.none_or, List.length_drop,
    List.take_append_of_le_length (show start ≤ front.length by omega)]
  cases Text.findPair '*' '/' back with
  | none =>
    have hcount : (front ++ back).length - start = (front.length - start) + back.length := by
      rw [List.length_append]
      omega
    simp only [Option.map_none]
    rw [hcount, Text.blank_add, List.append_assoc]
  | some n =>
    have hblank : n + (front.length - (start + 2)) + 4 = (front.length - start) + (n + 2) := by omega
    have hdrop : start + (n + (front.length - (start + 2))) + 4 = front.length + (n + 2) := by omega
    simp only [Option.map_some]
    rw [hblank, hdrop, List.drop_append, List.drop_eq_nil_of_le (by omega), Nat.add_sub_cancel_left,
      List.nil_append, Text.blank_add, List.append_assoc, List.append_assoc, List.append_assoc]

/-! ## The line comment -/

theorem stripRest_append (front back : Text) (h : Text.findPair '/' '/' front = none)
    (hborder : ¬ (front.getLast? = some '/' ∧ back.head? = some '/')) :
    stripRest (front ++ back) = front ++ stripRest back := by
  unfold stripRest
  rw [Text.findPair_append _ _ _ _ hborder, h, Option.none_or]
  cases Text.findPair '/' '/' back with
  | none => rfl
  | some n =>
    simp only [Option.map_some]
    rw [List.take_append, List.take_of_length_le (by omega), List.length_append, List.append_assoc]
    congr 3 <;> omega

theorem stripRest_append_of_some (front back : Text) (n : Nat)
    (h : Text.findPair '/' '/' front = some n) :
    stripRest (front ++ back) = stripRest front ++ Text.blank back.length := by
  have hlen := Text.findPair_lt _ _ _ _ h
  have hcount : (front ++ back).length - n = (front.length - n) + back.length := by
    rw [List.length_append]
    omega
  simp only [stripRest, Text.findPair_append_of_some _ _ _ _ _ h, h]
  rw [hcount, List.take_append_of_le_length (by omega), List.append_assoc, Text.blank_add]

@[simp] theorem stripRest_blank (n : Nat) : stripRest (Text.blank n) = Text.blank n := by
  rw [stripRest, Text.findPair_blank _ _ _ (by decide)]

theorem stripRest_append_blank (front back : Text) (n : Nat) (h : Text.findPair '/' '/' front = none) :
    stripRest (front ++ Text.blank (n + 1) ++ back) = front ++ Text.blank (n + 1) ++ stripRest back := by
  have hblank : stripRest (Text.blank (n + 1) ++ back) = Text.blank (n + 1) ++ stripRest back :=
    stripRest_append _ _ (Text.findPair_blank _ _ _ (by decide))
      fun hborder => Text.getLast?_blank_ne (n + 1) '/' (by decide) hborder.1
  rw [List.append_assoc, stripRest_append _ _ h (by simp [Text.blank, List.replicate_succ]), hblank,
    List.append_assoc]

/-! ## Whole lines -/

theorem stripLine_carried_open (line : Text) (h : Text.findPair '*' '/' line = none) :
    stripLine true line = ⟨Text.blank line.length, true, true⟩ := by
  simp [stripLine, closeCarried, h]

theorem stripLine_carried_closed (line : Text) (n : Nat) (h : Text.findPair '*' '/' line = some n) :
    stripLine true line =
      ⟨Text.blank (n + 2) ++ (stripLine false (line.drop (n + 2))).text, true,
        (stripLine false (line.drop (n + 2))).inBlock⟩ := by
  have hblock : stripBlock (Text.blank (n + 2) ++ line.drop (n + 2)) =
      (Text.blank (n + 2) ++ (stripBlock (line.drop (n + 2))).1, (stripBlock (line.drop (n + 2))).2) :=
    stripBlock_append _ _ (Text.findPair_blank _ _ _ (by decide))
      fun hborder => Text.getLast?_blank_ne (n + 2) '/' (by decide) hborder.1
  have hrest := stripRest_append_blank [] (stripBlock (line.drop (n + 2))).1 (n + 1) rfl
  rw [List.nil_append] at hrest
  simp only [stripLine, closeCarried, h, if_true, Bool.false_eq_true, if_false, hblock, hrest]

theorem stripLine_carried_append (front back : Text) (n : Nat) (h : Text.findPair '*' '/' front = some n) :
    stripLine true (front ++ back) =
      ⟨Text.blank (n + 2) ++ (stripLine false (front.drop (n + 2) ++ back)).text, true,
        (stripLine false (front.drop (n + 2) ++ back)).inBlock⟩ := by
  rw [stripLine_carried_closed _ n (Text.findPair_append_of_some _ _ _ _ _ h),
    List.drop_append_of_le_length (Text.findPair_lt _ _ _ _ h)]

def openBehindLines (inBlock : Bool) (lines : List Text) : Bool :=
  lines.foldl (fun inBlock line => (stripLine inBlock line).inBlock) inBlock

/-- Whether a block comment is open behind a text whose lines are stripped one after the other. -/
def openBehind (text : Text) : Bool := openBehindLines false text.lines

@[simp] theorem openBehindLines_append (inBlock : Bool) (before : List Text) (line : Text) :
    openBehindLines inBlock (before ++ [line]) =
      (stripLine (openBehindLines inBlock before) line).inBlock := by
  rw [openBehindLines, List.foldl_append]
  rfl

end ScadAdvisor.LineStrip
