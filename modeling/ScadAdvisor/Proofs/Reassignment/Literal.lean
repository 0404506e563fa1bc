import ScadAdvisor.Proofs.Lexeme
import ScadAdvisor.Proofs.Reassignment.Reading

/-! # String literals and the scan for reassignments

The scan does not know of strings: parentheses, braces and the marks of comments count in a literal as
they do elsewhere. All other contents of a literal have no effect.
-/

namespace ScadAdvisor

/-! ## Exchanging a stretch of a line -/

/-- The two texts are the same, or one has `a` where the other has `b`. -/
inductive Exchanged (a b : Text) : Text → Text → Prop where
  | same (text : Text) : Exchanged a b text text
  | apart (front back : Text) : Exchanged a b (front ++ (a ++ back)) (front ++ (b ++ back))

/-- No mark of a comment stands in the stretch or across one of its ends. -/
structure Unmarked (stretch : Text) : Prop where
  block : Text.findPair '/' '*' stretch = none
  blockEnd : Text.findPair '*' '/' stretch = none
  line : Text.findPair '/' '/' stretch = none
  head : ∃ c, stretch.head? = some c ∧ c ≠ '/' ∧ c ≠ '*'
  last : ∃ c, stretch.getLast? = some c ∧ c ≠ '/' ∧ c ≠ '*'

namespace Unmarked

variable {stretch : Text}

theorem border_left (h : Unmarked stretch) (front back : Text) (x y : Char) (hy : y = '/' ∨ y = '*') :
    ¬ (front.getLast? = some x ∧ (stretch ++ back).head? = some y) := by
  rintro ⟨-, hhead⟩
  obtain ⟨c, hc, hslash, hstar⟩ := h.head
  rw [List.head?_append, hc, Option.some_or, Option.some.injEq] at hhead
  rcases hy with rfl | rfl
  · exact hslash hhead
  · exact hstar hhead

theorem border_right (h : Unmarked stretch) (back : Text) (x y : Char) (hx : x = '/' ∨ x = '*') :
    ¬ (stretch.getLast? = some x ∧ back.head? = some y) := by
  rintro ⟨hlast, -⟩
  obtain ⟨c, hc, hslash, hstar⟩ := h.last
  rw [hc, Option.some.injEq] at hlast
  rcases hx with rfl | rfl
  · exact hslash hlast
  · exact hstar hlast

theorem closeCarried_append (h : Unmarked stretch) (back : Text) :
    LineStrip.closeCarried (stretch ++ back) =
      (Text.blank stretch.length ++ (LineStrip.closeCarried back).1, (LineStrip.closeCarried back).2) :=
  LineStrip.closeCarried_append _ _ h.blockEnd (h.border_right back _ _ (by simp))

theorem stripBlock_append (h : Unmarked stretch) (back : Text) :
    LineStrip.stripBlock (stretch ++ back) =
      (stretch ++ (LineStrip.stripBlock back).1, (LineStrip.stripBlock back).2) :=
  LineStrip.stripBlock_append _ _ h.block (h.border_right back _ _ (by simp))

theorem stripRest_append (h : Unmarked stretch) (back : Text) :
    LineStrip.stripRest (stretch ++ back) = stretch ++ LineStrip.stripRest back :=
  LineStrip.stripRest_append _ _ h.line (h.border_right back _ _ (by simp))

end Unmarked

namespace Exchanged

variable {a b line line' : Text}

theorem closeCarried (ha : Unmarked a) (hb : Unmarked b) (hlen : a.length = b.length)
    (h : Exchanged a b line line') :
    Exchanged a b (LineStrip.closeCarried line).1 (LineStrip.closeCarried line').1 ∧
      (LineStrip.closeCarried line).2 = (LineStrip.closeCarried line').2 := by
  cases h with
  | same => exact ⟨.same _, rfl⟩
  | apart front back =>
    cases hfront : Text.findPair '*' '/' front with
    | some n =>
      rw [LineStrip.closeCarried_append_of_some _ _ n hfront,
        LineStrip.closeCarried_append_of_some _ _ n hfront]
      exact ⟨.apart _ _, rfl⟩
    | none =>
      rw [LineStrip.closeCarried_append _ _ hfront (ha.border_left _ _ _ _ (by simp)),
        LineStrip.closeCarried_append _ _ hfront (hb.border_left _ _ _ _ (by simp)),
        ha.closeCarried_append, hb.closeCarried_append, hlen]
      exact ⟨.same _, rfl⟩

theorem stripBlock (ha : Unmarked a) (hb : Unmarked b) (hlen : a.length = b.length)
    (h : Exchanged a b line line') :
    Exchanged a b (LineStrip.stripBlock line).1 (LineStrip.stripBlock line').1 ∧
      (LineStrip.stripBlock line).2 = (LineStrip.stripBlock line').2 := by
  cases h with
  | same => exact ⟨.same _, rfl⟩
  | apart front back =>
    cases hstart : Text.findPair '/' '*' front with
    | none =>
      rw [LineStrip.stripBlock_append _ _ hstart (ha.border_left _ _ _ _ (by simp)),
        LineStrip.stripBlock_append _ _ hstart (hb.border_left _ _ _ _ (by simp)),
        ha.stripBlock_append, hb.stripBlock_append]
      exact ⟨.apart _ _, rfl⟩
    | some start =>
      cases hend : Text.findPair '*' '/' (front.drop (start + 2)) with
      | some n =>
        rw [LineStrip.stripBlock_append_of_closed _ _ start n hstart hend,
          LineStrip.stripBlock_append_of_closed _ _ start n hstart hend]
        exact ⟨.apart _ _, rfl⟩
      | none =>
        -- The stretch lies in a comment that opens before it.
        rw [LineStrip.stripBlock_append_of_open _ _ start hstart hend
            (ha.border_left _ _ _ _ (by simp)),
          LineStrip.stripBlock_append_of_open _ _ start hstart hend
            (hb.border_left _ _ _ _ (by simp)), ha.closeCarried_append, hb.closeCarried_append, hlen]
        exact ⟨.same _, rfl⟩

theorem stripRest (ha : Unmarked a) (hb : Unmarked b) (hlen : a.length = b.length)
    (h : Exchanged a b line line') :
    Exchanged a b (LineStrip.stripRest line) (LineStrip.stripRest line') := by
  cases h with
  | same => exact .same _
  | apart front back =>
    cases hfront : Text.findPair '/' '/' front with
    | none =>
      rw [LineStrip.stripRest_append _ _ hfront (ha.border_left _ _ _ _ (by simp)),
        LineStrip.stripRest_append _ _ hfront (hb.border_left _ _ _ _ (by simp)),
        ha.stripRest_append, hb.stripRest_append]
      exact .apart _ _
    | some n =>
      rw [LineStrip.stripRest_append_of_some _ _ n hfront, LineStrip.stripRest_append_of_some _ _ n hfront,
        List.length_append, List.length_append, hlen]
      exact .same _

theorem stripLine (ha : Unmarked a) (hb : Unmarked b) (hlen : a.length = b.length) (inBlock : Bool)
    (h : Exchanged a b line line') :
    Exchanged a b (stripLine inBlock line).text (stripLine inBlock line').text ∧
      (stripLine inBlock line).inBlock = (stripLine inBlock line').inBlock := by
  have hcarried : Exchanged a b (if inBlock then LineStrip.closeCarried line else (line, false)).1
        (if inBlock then LineStrip.closeCarried line' else (line', false)).1 ∧
      (if inBlock then LineStrip.closeCarried line else (line, false)).2 =
        (if inBlock then LineStrip.closeCarried line' else (line', false)).2 := by
    cases inBlock with
    | true => exact h.closeCarried ha hb hlen
    | false => exact ⟨h, rfl⟩
  unfold ScadAdvisor.stripLine
  generalize (if inBlock then LineStrip.closeCarried line else (line, false)) = carried at hcarried ⊢
  generalize (if inBlock then LineStrip.closeCarried line' else (line', false)) = carried' at hcarried ⊢
  obtain ⟨hexchanged, hflag⟩ := hcarried
  simp only [← hflag]
  split
  · exact ⟨hexchanged.stripRest ha hb hlen, hflag⟩
  · have hblock := hexchanged.stripBlock ha hb hlen
    exact ⟨hblock.1.stripRest ha hb hlen, hblock.2⟩

end Exchanged

/-! ## The contents of a literal -/

namespace Reassignment

/-- Contents of a literal that have no effect on the scan, wherever the literal stands. -/
structure Inert (contents : Text) : Prop where
  opening : '{' ∉ contents
  closing : '}' ∉ contents
  parens : ∀ depth, State.parenDepth depth contents = depth
  block : Text.findPair '/' '*' contents = none
  blockEnd : Text.findPair '*' '/' contents = none
  line : Text.findPair '/' '/' contents = none

def literal (quote : Char) (contents : Text) : Text := quote :: (contents ++ [quote])

theorem findPair_literal (x y quote : Char) (contents : Text) (hx : quote ≠ x) (hy : quote ≠ y)
    (h : Text.findPair x y contents = none) : Text.findPair x y (literal quote contents) = none := by
  have hcontents := Text.findPair_append_stop x y quote contents [] hx hy h rfl
  exact Text.findPair_append_stop x y quote [] _ hx hy rfl hcontents

theorem stops_of_isQuote (quote : Char) (h : Mask.isQuote quote = true) : Stops quote := by
  rcases (Mask.isQuote_iff quote).mp h with rfl | rfl <;> constructor <;> decide

namespace Inert

variable {contents contents' : Text}

theorem unmarked (h : Inert contents) (quote : Char) (hquote : Mask.isQuote quote = true) :
    Unmarked (literal quote contents) := by
  have hmarks : quote ≠ '/' ∧ quote ≠ '*' := by
    rcases (Mask.isQuote_iff quote).mp hquote with rfl | rfl <;> decide
  exact {
    block := findPair_literal _ _ _ _ hmarks.1 hmarks.2 h.block
    blockEnd := findPair_literal _ _ _ _ hmarks.2 hmarks.1 h.blockEnd
    line := findPair_literal _ _ _ _ hmarks.1 hmarks.1 h.line
    head := ⟨quote, rfl, hmarks⟩
    last := ⟨quote, by rw [literal, ← List.cons_append, List.getLast?_concat], hmarks⟩ }

/-- The scan cannot tell apart two literals whose contents are inert. -/
theorem sameReading (h : Inert contents) (h' : Inert contents') (quote : Char)
    (hquote : Mask.isQuote quote = true) {a b : Text}
    (hab : Exchanged (literal quote contents) (literal quote contents') a b) : SameReading a b := by
  cases hab with
  | same => exact SameReading.refl _
  | apart front back =>
    apply SameReading.append_stop front (contents ++ [quote] ++ back) (contents' ++ [quote] ++ back) quote
      (stops_of_isQuote quote hquote)
    · simp only [List.count_append, List.count_eq_zero.mpr h.opening, List.count_eq_zero.mpr h'.opening]
    · simp only [List.count_append, List.count_eq_zero.mpr h.closing, List.count_eq_zero.mpr h'.closing]
    · intro depth
      simp only [State.parenDepth_append, h.parens, h'.parens]

theorem replicate (n : Nat) : Inert (List.replicate n 'a') := by
  have hmark : ∀ x y, x ≠ 'a' → Text.findPair x y (List.replicate n 'a') = none := by
    intro x y hx
    apply Text.findPair_of_not_mem
    exact fun hmem => hx (List.eq_of_mem_replicate hmem)
  refine ⟨by simp, by simp, ?_, hmark _ _ (by decide), hmark _ _ (by decide), hmark _ _ (by decide)⟩
  exact fun depth => State.parenDepth_of_not_mem depth _ (by simp) (by simp)

end Inert

theorem findReassignments_literal (front back contents contents' : Text) (quote : Char)
    (hquote : Mask.isQuote quote = true) (h : Inert contents) (h' : Inert contents')
    (hlen : contents.length = contents'.length) (hline : '\n' ∉ contents) (hline' : '\n' ∉ contents') :
    findReassignments (front ++ (literal quote contents ++ back)) =
      findReassignments (front ++ (literal quote contents' ++ back)) := by
  obtain ⟨before, pre, post, after, -, -, -, hlines⟩ := Text.exists_line_around front back
  have hnewline : ∀ text : Text, '\n' ∉ text → '\n' ∉ literal quote text := by
    intro text htext
    rcases (Mask.isQuote_iff quote).mp hquote with rfl | rfl <;> simpa [literal] using htext
  have hlength : (literal quote contents).length = (literal quote contents').length := by
    simp [literal, hlen]
  have hexchanged : Exchanged (literal quote contents) (literal quote contents')
      (pre ++ (literal quote contents ++ post)) (pre ++ (literal quote contents' ++ post)) := .apart _ _
  rw [findReassignments, hlines _ (hnewline _ hline), findReassignments, hlines _ (hnewline _ hline')]
  apply congrArg Prod.snd
  apply State.advanceAll_replace
  obtain ⟨htext, hblock⟩ := hexchanged.stripLine (h.unmarked quote hquote) (h'.unmarked quote hquote)
    hlength (State.advanceAll {} before).1.inBlock
  apply State.advance_congr
  · simp [hlength]
  · exact hblock
  · exact h.sameReading h' quote hquote htext

end Reassignment

/-- A literal on one line may hold anything that the scan does not count: if its contents have no
brace and no mark of a comment, and each parenthesis has its partner among them, they can be replaced
by letters without any change in what the scan finds. -/
theorem findReassignments_fill_literal (text : Text) (quote : Char) (units : List StringUnit)
    (before after : List Lexeme) (h : Lexes true text (before ++ .string quote units true :: after))
    (hline : '\n' ∉ units.flatMap StringUnit.source)
    (hinert : Reassignment.Inert (units.flatMap StringUnit.source)) :
    let letters := List.replicate (units.flatMap StringUnit.source).length (StringUnit.plain 'a')
    findReassignments ((before ++ .string quote letters true :: after).flatMap Lexeme.source) =
      findReassignments text := by
  intro letters
  obtain ⟨rfl, -, hquote, -⟩ := h.middle
  have hletters : letters.flatMap StringUnit.source =
      List.replicate (units.flatMap StringUnit.source).length 'a' := by
    simp [letters, List.flatMap_replicate, StringUnit.source]
  have hsource : ∀ units, (Lexeme.string quote units true).source =
      Reassignment.literal quote (units.flatMap StringUnit.source) := fun _ => rfl
  rw [List.flatMap_append, List.flatMap_cons, hsource, hsource, hletters]
  exact Reassignment.findReassignments_literal _ _ _ _ quote hquote (.replicate _) hinert (by simp)
    (by simp) hline

/-- An escaped quote, a slash, a star, an equals sign and two parentheses in a literal. -/
theorem fill_literal_with_parentheses :
    let units := "x=/".toList.map StringUnit.plain ++ .escaped '"' :: "(a*b)".toList.map .plain
    let before := "a = f(".toList.map Lexeme.other
    let after := ");\na = 3;".toList.map Lexeme.other
    let text := (before ++ .string '"' units true :: after).flatMap Lexeme.source
    let letters := List.replicate (units.flatMap StringUnit.source).length (StringUnit.plain 'a')
    Lexes true text (before ++ .string '"' units true :: after) ∧
      '\n' ∉ units.flatMap StringUnit.source ∧
      Reassignment.Inert (units.flatMap StringUnit.source) ∧
      (findReassignments text).map (·.start) = [21] ∧
      findReassignments ((before ++ .string '"' letters true :: after).flatMap Lexeme.source) =
        findReassignments text := by
  intro units before after text letters
  have hlexes : Lexes true text (before ++ .string '"' units true :: after) := by decide +kernel
  have hline : '\n' ∉ units.flatMap StringUnit.source := by decide +kernel
  have hinert : Reassignment.Inert (units.flatMap StringUnit.source) :=
    ⟨by decide, by decide, fun _ => rfl, by decide, by decide, by decide⟩
  exact ⟨hlexes, hline, hinert, by decide +kernel,
    findReassignments_fill_literal text '"' units before after hlexes hline hinert⟩

/-- The literal is one of its text, on one line, and the scan finds something else when its contents
are replaced by letters. -/
def LiteralCounts (before : List Lexeme) (contents : Text) (after : List Lexeme) : Prop :=
  let units := contents.map StringUnit.plain
  let letters := List.replicate contents.length (StringUnit.plain 'a')
  let text := (before ++ .string '"' units true :: after).flatMap Lexeme.source
  Lexes true text (before ++ .string '"' units true :: after) ∧ '\n' ∉ contents ∧
    findReassignments ((before ++ .string '"' letters true :: after).flatMap Lexeme.source) ≠
      findReassignments text

instance (before : List Lexeme) (contents : Text) (after : List Lexeme) :
    Decidable (LiteralCounts before contents after) := inferInstanceAs (Decidable (_ ∧ _ ∧ _))

/-- Whatever inert contents must not have can change the scan: parentheses that lack their partner or
stand in the wrong order, braces, and each mark of a comment. -/
theorem literal_counts :
    LiteralCounts ("a=".toList.map .other) "(".toList ("\na=1".toList.map .other) ∧
      LiteralCounts ("(".toList.map .other) ")".toList ("\na=1\na=1".toList.map .other) ∧
      LiteralCounts ("a=".toList.map .other) ")(".toList ("\na=1".toList.map .other) ∧
      LiteralCounts ("module m()\n".toList.map .other) "\x7b".toList
        ("\na=1\n\x7d\na=1".toList.map .other) ∧
      LiteralCounts ("module m()\x7b\na=1\n".toList.map .other) "\x7d".toList
        ("\na=1".toList.map .other) ∧
      LiteralCounts ("a=1\n".toList.map .other) "//".toList ("(\na=1".toList.map .other) ∧
      LiteralCounts ("a=1\n".toList.map .other) "/*".toList ("\na=1".toList.map .other) ∧
      LiteralCounts [.line " /*".toList, .other '\n'] "*/".toList ("\na=1\na=1".toList.map .other) := by
  decide +kernel

end ScadAdvisor
