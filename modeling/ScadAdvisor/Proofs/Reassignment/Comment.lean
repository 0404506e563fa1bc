import ScadAdvisor.Proofs.Lexeme
import ScadAdvisor.Proofs.Reassignment.Reading

/-! # Line comments and the scan for reassignments

What is written in a line comment has no effect on the scan, unless the stripper of lines takes it for
the start or the end of a block comment. It looks for block comments first, also behind two slashes.
-/

namespace ScadAdvisor

namespace LineStrip

/-! ## Two slashes on a line -/

theorem stripRest_slashes (front body : Text) :
    stripRest (front ++ '/' :: '/' :: body) = stripRest (front ++ ['/', '/']) ++ Text.blank body.length := by
  have hsome : Text.findPair '/' '/' (front ++ ['/', '/']) ≠ none := by
    rw [Ne, Text.findPair_eq_none_iff, not_forall]
    exact ⟨front.length, by simp⟩
  obtain ⟨n, hn⟩ := Option.ne_none_iff_exists'.mp hsome
  rw [← stripRest_append_of_some _ body n hn, List.append_assoc]
  rfl

theorem findPair_block_slashes (front : Text) (h : Text.findPair '/' '*' front = none) :
    Text.findPair '/' '*' (front ++ ['/', '/']) = none := by
  rw [Text.findPair_append _ _ _ _ (by simp), h]
  rfl

/-- Outside block comments the slashes stay for the search that comes behind that for block comments,
if no block comment opens with the second one. -/
theorem stripBlock_slashes (front body : Text) (hfront : (stripBlock front).2 = false)
    (hthird : (stripBlock (front ++ '/' :: '/' :: body.take 1)).2 = false)
    (hend : (stripBlock (front ++ '/' :: '/' :: body)).2 = false) :
    ∃ rest, rest.length = body.length ∧
      stripBlock (front ++ '/' :: '/' :: body) = ((stripBlock front).1 ++ '/' :: '/' :: rest, false) := by
  cases hstart : Text.findPair '/' '*' front with
  | some start =>
    cases hn : Text.findPair '*' '/' (front.drop (start + 2)) with
    | some n => exact ⟨body, rfl, stripBlock_append_of_closed _ _ start n hstart hn⟩
    | none => simp [stripBlock, hstart, hn] at hfront
  | none =>
    have happend : ∀ body : Text, body.head? ≠ some '*' →
        stripBlock (front ++ '/' :: '/' :: body) =
          (front ++ '/' :: '/' :: (stripBlock body).1, (stripBlock body).2) := by
      intro body hbody
      have h := stripBlock_append (front ++ ['/', '/']) body (findPair_block_slashes front hstart)
        fun hborder => hbody hborder.2
      simpa using h
    have hbody : body.head? ≠ some '*' := by
      intro hstar
      obtain ⟨rest, rfl⟩ := List.head?_eq_some_iff.mp hstar
      rw [List.take_succ_cons, List.take_zero, stripBlock_append _ _ hstart (by simp)] at hthird
      cases hthird
    rw [happend body hbody] at hend ⊢
    refine ⟨(stripBlock body).1, (blanking_stripBlock body).length_eq, ?_⟩
    have hsame : (stripBlock front).1 = front := by simp [stripBlock, hstart]
    rw [hsame]
    exact congrArg _ hend

theorem stripBlock_slashes_blank (front : Text) (n : Nat) (hfront : (stripBlock front).2 = false) :
    (stripBlock (front ++ '/' :: '/' :: Text.blank n)).2 = false := by
  cases hstart : Text.findPair '/' '*' front with
  | some start =>
    cases hn : Text.findPair '*' '/' (front.drop (start + 2)) with
    | some m => rw [stripBlock_append_of_closed _ _ start m hstart hn]
    | none => simp [stripBlock, hstart, hn] at hfront
  | none =>
    have hnone : Text.findPair '/' '*' (front ++ '/' :: '/' :: Text.blank n) = none := by
      have h := Text.findPair_append '/' '*' (front ++ ['/', '/']) (Text.blank n)
        fun hborder => Text.head?_blank_ne n '*' (by decide) hborder.2
      rw [findPair_block_slashes front hstart, Text.findPair_blank _ _ _ (by decide)] at h
      simpa using h
    rw [stripBlock, hnone]

theorem stripLine_slashes_outside (front body : Text) (hfront : (stripLine false front).inBlock = false)
    (hthird : (stripLine false (front ++ '/' :: '/' :: body.take 1)).inBlock = false)
    (hend : (stripLine false (front ++ '/' :: '/' :: body)).inBlock = false) :
    stripLine false (front ++ '/' :: '/' :: body) =
      ⟨stripRest ((stripBlock front).1 ++ ['/', '/']) ++ Text.blank body.length, false, false⟩ := by
  obtain ⟨rest, hlen, hblock⟩ := stripBlock_slashes front body hfront hthird hend
  rw [← hlen, ← stripRest_slashes]
  simp only [stripLine, Bool.false_eq_true, if_false, hblock]

theorem stripLine_slashes_inside (front body : Text) (hfront : (stripLine false front).inBlock = true)
    (hlast : front.getLast? ≠ some '*') (hbody : Text.findPair '*' '/' body = none) :
    stripLine false (front ++ '/' :: '/' :: body) =
      ⟨stripRest ((stripBlock front).1 ++ Text.blank (body.length + 2)), false, true⟩ := by
  have hopen : (stripBlock front).2 = true := hfront
  have hclose : closeCarried ('/' :: '/' :: body) = (Text.blank (body.length + 2), true) := by
    simp [closeCarried, Text.findPair, hbody]
  cases hstart : Text.findPair '/' '*' front with
  | none => simp [stripBlock, hstart] at hopen
  | some start =>
    cases hn : Text.findPair '*' '/' (front.drop (start + 2)) with
    | some n => simp [stripBlock, hstart, hn] at hopen
    | none =>
      have hblock := stripBlock_append_of_open front ('/' :: '/' :: body) start hstart hn
        fun hborder => hlast hborder.1
      simp only [stripLine, Bool.false_eq_true, if_false, hblock, hclose]

/-- What stands behind two slashes neither opens nor closes a block comment. -/
def PassedOnLine (inBlock : Bool) (front body : Text) : Prop :=
  if (stripLine inBlock front).inBlock then
    front.getLast? ≠ some '*' ∧ Text.findPair '*' '/' body = none
  else
    (stripLine inBlock (front ++ '/' :: '/' :: body.take 1)).inBlock = false ∧
      (stripLine inBlock (front ++ '/' :: '/' :: body)).inBlock = false

theorem findPair_blockEnd_slashes (front body : Text) (hfront : Text.findPair '*' '/' front = none)
    (hlast : front.getLast? ≠ some '*') (hbody : Text.findPair '*' '/' body = none) :
    Text.findPair '*' '/' (front ++ '/' :: '/' :: body) = none := by
  rw [Text.findPair_append _ _ _ _ (fun hborder => hlast hborder.1), hfront]
  simp [Text.findPair, hbody]

theorem stripLine_blank_outside (front body : Text) (h : PassedOnLine false front body) :
    stripLine false (front ++ '/' :: '/' :: Text.blank body.length) =
      stripLine false (front ++ '/' :: '/' :: body) := by
  unfold PassedOnLine at h
  split at h
  · rename_i hopen
    obtain ⟨hlast, hbody⟩ := h
    rw [stripLine_slashes_inside front body hopen hlast hbody,
      stripLine_slashes_inside front (Text.blank body.length) hopen hlast
        (Text.findPair_blank _ _ _ (by decide)), Text.length_blank]
  · rename_i hopen
    rw [Bool.not_eq_true] at hopen
    obtain ⟨hthird, hend⟩ := h
    have hblankThird : (Text.blank body.length).take 1 = Text.blank (min 1 body.length) :=
      List.take_replicate ..
    rw [stripLine_slashes_outside front body hopen hthird hend,
      stripLine_slashes_outside front (Text.blank body.length) hopen, Text.length_blank]
    · rw [hblankThird]
      exact stripBlock_slashes_blank front _ hopen
    · exact stripBlock_slashes_blank front _ hopen

theorem PassedOnLine.behind {front body : Text} {n : Nat} (h : PassedOnLine true front body)
    (hclose : Text.findPair '*' '/' front = some n) : PassedOnLine false (front.drop (n + 2)) body := by
  simp only [PassedOnLine, stripLine_carried_append _ _ n hclose, stripLine_carried_closed _ n hclose] at h ⊢
  split
  · rename_i hopen
    rw [if_pos hopen] at h
    refine ⟨?_, h.2⟩
    rw [List.getLast?_drop]
    split
    · simp
    · exact h.1
  · rename_i hopen
    rwa [if_neg hopen] at h

theorem stripLine_blank_comment (inBlock : Bool) (front body : Text)
    (h : PassedOnLine inBlock front body) :
    stripLine inBlock (front ++ '/' :: '/' :: Text.blank body.length) =
      stripLine inBlock (front ++ '/' :: '/' :: body) := by
  cases inBlock with
  | false => exact stripLine_blank_outside front body h
  | true =>
    cases hclose : Text.findPair '*' '/' front with
    | none =>
      have hopen := congrArg LineStrip.inBlock (stripLine_carried_open front hclose)
      rw [PassedOnLine, if_pos hopen] at h
      obtain ⟨hlast, hbody⟩ := h
      rw [stripLine_carried_open _ (findPair_blockEnd_slashes front body hclose hlast hbody),
        stripLine_carried_open _ (findPair_blockEnd_slashes front _ hclose hlast
          (Text.findPair_blank _ _ _ (by decide)))]
      simp
    | some n =>
      rw [stripLine_carried_append _ _ n hclose, stripLine_carried_append _ _ n hclose,
        stripLine_blank_outside _ _ (h.behind hclose)]

/-- The stripper passes over the line comment that comes behind `front`. If it is outside block
comments there, it is so again behind the slashes and one more character, and at the end of the
comment. If it is inside one, it finds no end mark. -/
def PassedOver (front body : Text) : Prop :=
  if openBehind front then front.getLast? ≠ some '*' ∧ Text.findPair '*' '/' body = none
  else
    openBehind (front ++ '/' :: '/' :: body.take 1) = false ∧
      openBehind (front ++ '/' :: '/' :: body) = false

instance (front body : Text) : Decidable (PassedOver front body) :=
  inferInstanceAs (Decidable (if openBehind front then _ ∧ _ else _ ∧ _))

theorem PassedOver.onLine {front body pre : Text} {inBlock : Bool} (h : PassedOver front body)
    (hbody : '\n' ∉ body) (hpre : pre <:+ front)
    (hopen : ∀ text, '\n' ∉ text → openBehind (front ++ text) = (stripLine inBlock (pre ++ text)).inBlock) :
    PassedOnLine inBlock pre body := by
  have hfront := hopen [] (by simp)
  rw [List.append_nil, List.append_nil] at hfront
  have hthird : '\n' ∉ '/' :: '/' :: body.take 1 := by
    simpa using fun hmem => hbody (List.mem_of_mem_take hmem)
  unfold PassedOver at h
  rw [hfront, hopen _ hthird, hopen _ (by simpa using hbody)] at h
  unfold PassedOnLine
  split
  · rename_i hinside
    rw [if_pos hinside] at h
    refine ⟨?_, h.2⟩
    intro hlast
    obtain ⟨rest, rfl⟩ := hpre
    exact h.1 (by rw [List.getLast?_append, hlast, Option.some_or])
  · rename_i houtside
    rwa [if_neg houtside] at h

end LineStrip

/-! ## Texts -/

namespace Reassignment

theorem findReassignments_slashes (front body back : Text) (hbody : '\n' ∉ body)
    (hback : ∀ c ∈ back.head?, c = '\n') (h : LineStrip.PassedOver front body) :
    findReassignments (front ++ ('/' :: '/' :: Text.blank body.length ++ back)) =
      findReassignments (front ++ ('/' :: '/' :: body ++ back)) := by
  obtain ⟨before, pre, post, after, hpre, hpost, hshort, hlong⟩ := Text.exists_line_around front back
  have hslashes : ∀ text : Text, '\n' ∉ text → '\n' ∉ '/' :: '/' :: text := by simp
  have hblank : '\n' ∉ Text.blank body.length := by simp [Text.blank]
  -- The line ends with the comment.
  obtain ⟨rest, hrest⟩ := Text.lines_of_newline back hback
  obtain ⟨rfl, rfl⟩ := List.cons.inj (hpost.symm.trans hrest)
  have hpassed : LineStrip.PassedOnLine (LineStrip.openBehindLines false before) pre body := by
    apply h.onLine hbody hpre
    intro text htext
    rw [LineStrip.openBehind, hshort text htext, LineStrip.openBehindLines_append]
  rw [findReassignments, hlong _ (hslashes _ hblank), findReassignments, hlong _ (hslashes _ hbody),
    List.append_nil, List.append_nil]
  apply congrArg Prod.snd
  apply State.advanceAll_replace
  have hstrip := LineStrip.stripLine_blank_comment _ pre body hpassed
  rw [← State.advanceAll_inBlock {} before] at hstrip
  apply State.advance_congr
  · simp
  · rw [hstrip]
  · rw [hstrip]
    exact SameReading.refl _

end Reassignment

/-- A line comment that the stripper passes over may as well be empty. Nothing in it changes what the
scan finds, on its own line or on any other. -/
theorem findReassignments_blank_lineComment (text body : Text) (before after : List Lexeme)
    (h : Lexes false text (before ++ .line body :: after))
    (hpassed : LineStrip.PassedOver (before.flatMap Lexeme.source) body) :
    findReassignments ((before ++ .line (Text.blank body.length) :: after).flatMap Lexeme.source) =
      findReassignments text := by
  obtain ⟨rfl, hbody, hafter⟩ := h.middle
  rw [List.flatMap_append, List.flatMap_cons]
  exact Reassignment.findReassignments_slashes _ body _ hbody hafter hpassed

/-- Braces, quotes, an assignment and a whole block comment in a line comment. -/
theorem blank_lineComment_with_marks :
    let before := "a = 1;\n".toList.map Lexeme.other
    let body := " \x7b \"( /* a = 2; */ \x7d".toList
    let after := "\na = 3;".toList.map Lexeme.other
    let text := (before ++ .line body :: after).flatMap Lexeme.source
    Lexes false text (before ++ .line body :: after) ∧
      LineStrip.PassedOver (before.flatMap Lexeme.source) body ∧
      (findReassignments text).map (·.start) = [30] ∧
      findReassignments ((before ++ .line (Text.blank body.length) :: after).flatMap Lexeme.source) =
        findReassignments text := by
  intro before body after text
  have hlexes : Lexes false text (before ++ .line body :: after) := by decide +kernel
  have hpassed : LineStrip.PassedOver (before.flatMap Lexeme.source) body := by decide +kernel
  exact ⟨hlexes, hpassed, by decide +kernel,
    findReassignments_blank_lineComment text body before after hlexes hpassed⟩

/-- The line comment is one of its text, and the scan finds something else when it is blanked. -/
def LineCommentCounts (before : List Lexeme) (body : Text) (after : List Lexeme) : Prop :=
  let text := (before ++ .line body :: after).flatMap Lexeme.source
  Lexes false text (before ++ .line body :: after) ∧
    findReassignments ((before ++ .line (Text.blank body.length) :: after).flatMap Lexeme.source) ≠
      findReassignments text

instance (before : List Lexeme) (body : Text) (after : List Lexeme) :
    Decidable (LineCommentCounts before body after) := inferInstanceAs (Decidable (_ ∧ _))

/-- Where the stripper does not pass over a line comment, it can change the scan: a block comment
opens in it and stays open; one opens with its second slash; and where a block comment is open for the
stripper alone, one ends in it, or with its first slash. -/
theorem lineComment_counts :
    LineCommentCounts [] " /*".toList ("\na=1\na=2".toList.map .other) ∧
      LineCommentCounts ("a=1\n".toList.map .other) "* */(".toList ("\na=2".toList.map .other) ∧
      LineCommentCounts [.line " /*".toList, .other '\n'] " */".toList
        ("\na=1\na=2".toList.map .other) ∧
      LineCommentCounts [.line " /*".toList, .other '\n', .other '*'] "(".toList
        ("\na=1\na=2".toList.map .other) := by
  decide +kernel

end ScadAdvisor
