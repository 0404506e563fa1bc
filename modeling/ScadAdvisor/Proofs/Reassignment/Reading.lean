import ScadAdvisor.Proofs.LineStrip
import ScadAdvisor.Proofs.Reassignment.Events

/-! # What the scan reads off a line

A line has an effect on the scan only through a few things that are read off it when its comments are
gone. Lines that are alike in these can take each other's place.
-/

namespace ScadAdvisor.Reassignment

/-- The two texts look the same to the scan. -/
structure SameReading (a b : Text) : Prop where
  signature : isSignature a = isSignature b
  assignment : assignment? a = assignment? b
  opening : a.count '{' = b.count '{'
  closing : a.count '}' = b.count '}'
  parens : ∀ depth, State.parenDepth depth a = State.parenDepth depth b

namespace SameReading

theorem refl (text : Text) : SameReading text text := ⟨rfl, rfl, rfl, rfl, fun _ => rfl⟩

end SameReading

/-! ## One line in the place of another -/

namespace State

@[simp] theorem parenDepth_append (depth : Nat) (front back : Text) :
    parenDepth depth (front ++ back) = parenDepth (parenDepth depth front) back := by
  induction front generalizing depth with
  | nil => rfl
  | cons c cs ih => rw [List.cons_append, parenDepth, parenDepth, ih]

theorem parenDepth_of_not_mem (depth : Nat) (text : Text) (hopen : '(' ∉ text) (hclose : ')' ∉ text) :
    parenDepth depth text = depth := by
  induction text with
  | nil => rfl
  | cons c cs ih =>
    rw [List.mem_cons, not_or] at hopen hclose
    rw [parenDepth, if_neg (by simpa using Ne.symm hopen.1), if_neg (by simpa using Ne.symm hclose.1),
      ih hopen.2 hclose.2]

theorem advance_congr (s : State) (a b : Text) (hlen : a.length = b.length)
    (hblock : (stripLine s.inBlock a).inBlock = (stripLine s.inBlock b).inBlock)
    (h : SameReading (stripLine s.inBlock a).text (stripLine s.inBlock b).text) :
    s.advance a = s.advance b := by
  have hstarted : (stripLine s.inBlock a).startedInBlock = (stripLine s.inBlock b).startedInBlock := rfl
  simp only [advance, countParens, hlen, hblock, hstarted, h.signature, h.assignment, h.opening,
    h.closing, h.parens]

theorem advanceAll_append (s : State) (before after : List Text) :
    s.advanceAll (before ++ after) =
      (((s.advanceAll before).1.advanceAll after).1,
        (s.advanceAll before).2 ++ ((s.advanceAll before).1.advanceAll after).2) := by
  induction before generalizing s with
  | nil => rfl
  | cons line before ih =>
    rw [List.cons_append, advanceAll, ih, advanceAll]
    simp only [List.append_assoc]

theorem events_append (s : State) (before after : List Text) :
    s.events (before ++ after) = s.events before ++ (s.advanceAll before).1.events after := by
  induction before generalizing s with
  | nil => rfl
  | cons line before ih => rw [List.cons_append, events, ih, events, List.append_assoc, advanceAll]

theorem advanceAll_replace (s : State) (before after : List Text) (a b : Text)
    (h : (s.advanceAll before).1.advance a = (s.advanceAll before).1.advance b) :
    s.advanceAll (before ++ a :: after) = s.advanceAll (before ++ b :: after) := by
  rw [advanceAll_append, advanceAll_append, advanceAll, advanceAll, h]

@[simp] theorem advance_inBlock (s : State) (line : Text) :
    (s.advance line).1.inBlock = (stripLine s.inBlock line).inBlock := by
  obtain ⟨_, _, _, _, _, h⟩ := s.advance_frame line
  rw [h]

@[simp] theorem advanceAll_inBlock (s : State) (lines : List Text) :
    (s.advanceAll lines).1.inBlock = LineStrip.openBehindLines s.inBlock lines := by
  induction lines generalizing s with
  | nil => rfl
  | cons line rest ih =>
    rw [advanceAll, LineStrip.openBehindLines, List.foldl_cons, ← advance_inBlock]
    exact ih _

end State

/-! ## Behind a stop -/

/-- A character that ends whatever the scan is reading at the start of a line. -/
structure Stops (c : Char) : Prop where
  space : Ascii.isSpace c = false
  word : Ascii.isWord c = false
  equals : c ≠ '='

theorem dropWhile_append_stop (p : Char → Bool) (front rest : Text) (stop : Char) (h : p stop = false) :
    (front ++ stop :: rest).dropWhile p = front.dropWhile p ++ stop :: rest := by
  induction front with
  | nil => simp [h]
  | cons c cs ih =>
    rw [List.cons_append, List.dropWhile_cons, List.dropWhile_cons, ih]
    split <;> rfl

theorem takeWhile_append_stop (p : Char → Bool) (front rest : Text) (stop : Char) (h : p stop = false) :
    (front ++ stop :: rest).takeWhile p = front.takeWhile p := by
  induction front with
  | nil => simp [h]
  | cons c cs ih => rw [List.cons_append, List.takeWhile_cons, List.takeWhile_cons, ih]

theorem assignment?_append_stop (front rest rest' : Text) (stop : Char) (h : Stops stop) :
    assignment? (front ++ stop :: rest) = assignment? (front ++ stop :: rest') := by
  unfold assignment?
  simp only [dropWhile_append_stop _ _ _ _ h.space, takeWhile_append_stop _ _ _ _ h.space,
    dropWhile_append_stop _ _ _ _ h.word, takeWhile_append_stop _ _ _ _ h.word]
  rcases ((front.dropWhile Ascii.isSpace).dropWhile Ascii.isWord).dropWhile Ascii.isSpace with
    _ | ⟨c, cs⟩
  · simp [h.equals]
  · by_cases hc : c = '='
    · cases hc
      cases cs <;> rfl
    · simp [hc]

theorem isPrefixOf_append_stop (word front rest : Text) (stop : Char) (h : stop ∉ word) :
    word.isPrefixOf (front ++ stop :: rest) = word.isPrefixOf front := by
  induction word generalizing front with
  | nil => rfl
  | cons c cs ih =>
    rw [List.mem_cons, not_or] at h
    cases front with
    | nil => simp [List.isPrefixOf, Ne.symm h.1]
    | cons d ds => rw [List.cons_append, List.isPrefixOf, List.isPrefixOf, ih ds h.2]

theorem head?_append_stop (front rest rest' : Text) (stop : Char) :
    (front ++ stop :: rest).head? = (front ++ stop :: rest').head? := by
  cases front <;> rfl

theorem isWord_of_mem_signatureWords :
    ∀ word ∈ signatureWords, word.all Ascii.isWord = true := by decide

theorem isSignature_append_stop (front rest rest' : Text) (stop : Char) (h : Stops stop) :
    isSignature (front ++ stop :: rest) = isSignature (front ++ stop :: rest') := by
  unfold isSignature
  simp only [dropWhile_append_stop _ _ _ _ h.space]
  generalize front.dropWhile Ascii.isSpace = front
  rw [Bool.eq_iff_iff, List.any_eq_true, List.any_eq_true]
  apply exists_congr
  intro word
  apply and_congr_right
  intro hword
  have hstop : stop ∉ word := by
    intro hmem
    have := List.all_eq_true.mp (isWord_of_mem_signatureWords word hword) stop hmem
    simp [h.word] at this
  rw [isPrefixOf_append_stop word front rest stop hstop, isPrefixOf_append_stop word front rest' stop hstop]
  cases hpre : word.isPrefixOf front with
  | false => simp
  | true =>
    -- The word ends before the stop, and so does whatever is read behind it.
    have hlen := (List.isPrefixOf_iff_prefix.mp hpre).length_le
    simp only [List.drop_append_of_le_length hlen, dropWhile_append_stop _ _ _ _ h.space,
      dropWhile_append_stop _ _ _ _ h.word, head?_append_stop _ rest rest']

theorem SameReading.append_stop (front rest rest' : Text) (stop : Char) (h : Stops stop)
    (hopening : rest.count '{' = rest'.count '{') (hclosing : rest.count '}' = rest'.count '}')
    (hparens : ∀ depth, State.parenDepth depth rest = State.parenDepth depth rest') :
    SameReading (front ++ stop :: rest) (front ++ stop :: rest') where
  signature := isSignature_append_stop front rest rest' stop h
  assignment := assignment?_append_stop front rest rest' stop h
  opening := by rw [List.count_append, List.count_append, List.count_cons, List.count_cons, hopening]
  closing := by rw [List.count_append, List.count_append, List.count_cons, List.count_cons, hclosing]
  parens := by
    intro depth
    rw [State.parenDepth_append, State.parenDepth_append, State.parenDepth, State.parenDepth, hparens]

end ScadAdvisor.Reassignment
