import ScadAdvisor.Proofs.Identifier
import ScadAdvisor.Proofs.Reassignment.Reachable
import ScadAdvisor.Proofs.Reassignment.Reading

/-! # Blanks at the end of a line

Spaces and tabs behind a line change nothing that the scan reads off it, with one exception: an
assignment needs some character behind its equals sign, and a blank is good enough for that.
-/

namespace ScadAdvisor

def IsPad (pad : Text) : Prop := ∀ c ∈ pad, c = ' ' ∨ c = '\t'

instance (pad : Text) : Decidable (IsPad pad) :=
  decidable_of_iff (pad.all (fun c => c == ' ' || c == '\t') = true) (by simp [IsPad])

namespace IsPad

variable {pad : Text}

theorem not_mem (h : IsPad pad) (c : Char) (hspace : c ≠ ' ') (htab : c ≠ '\t') : c ∉ pad := by
  intro hmem
  rcases h c hmem with rfl | rfl
  · exact hspace rfl
  · exact htab rfl

theorem blank (n : Nat) : IsPad (Text.blank n) := fun _ hc => Or.inl (List.eq_of_mem_replicate hc)

theorem of_suffix {pad' : Text} (h : IsPad pad) (hsuffix : pad' <:+ pad) : IsPad pad' :=
  fun c hc => h c (hsuffix.subset hc)

theorem findPair (h : IsPad pad) (a b : Char) (hspace : a ≠ ' ') (htab : a ≠ '\t') :
    Text.findPair a b pad = none := Text.findPair_of_not_mem a b pad (h.not_mem a hspace htab)

theorem border (h : IsPad pad) (front : Text) (a b : Char) (hspace : b ≠ ' ') (htab : b ≠ '\t') :
    ¬ (front.getLast? = some a ∧ pad.head? = some b) :=
  fun hborder => h.not_mem b hspace htab (List.mem_of_mem_head? hborder.2)

end IsPad

def Padded (text padded : Text) : Prop := ∃ pad, padded = text ++ pad ∧ IsPad pad

theorem isWord_of_isPad (c : Char) (h : c = ' ' ∨ c = '\t') : Ascii.isWord c = false := by
  rcases h with rfl | rfl <;> decide

/-! ## Stripping -/

namespace LineStrip

variable {pad : Text}

theorem closeCarried_pad (line : Text) (h : IsPad pad) :
    Padded (closeCarried line).1 (closeCarried (line ++ pad)).1 ∧
      (closeCarried (line ++ pad)).2 = (closeCarried line).2 := by
  cases hend : Text.findPair '*' '/' line with
  | some n =>
    rw [closeCarried_append_of_some _ _ n hend]
    refine ⟨⟨pad, rfl, h⟩, ?_⟩
    simp only [closeCarried, hend]
  | none =>
    have hpad : closeCarried pad = (Text.blank pad.length, true) := by
      simp only [closeCarried, h.findPair '*' '/' (by decide) (by decide)]
    have hline : closeCarried line = (Text.blank line.length, true) := by
      simp only [closeCarried, hend]
    rw [closeCarried_append _ _ hend (h.border _ _ _ (by decide) (by decide)), hpad, hline]
    exact ⟨⟨_, rfl, .blank _⟩, rfl⟩

theorem stripBlock_pad (line : Text) (h : IsPad pad) :
    Padded (stripBlock line).1 (stripBlock (line ++ pad)).1 ∧
      (stripBlock (line ++ pad)).2 = (stripBlock line).2 := by
  cases hstart : Text.findPair '/' '*' line with
  | none =>
    have hpad : stripBlock pad = (pad, false) := by
      simp only [stripBlock, h.findPair '/' '*' (by decide) (by decide)]
    have hline : stripBlock line = (line, false) := by
      simp only [stripBlock, hstart]
    rw [stripBlock_append _ _ hstart (h.border _ _ _ (by decide) (by decide)), hpad, hline]
    exact ⟨⟨pad, rfl, h⟩, rfl⟩
  | some start =>
    cases hend : Text.findPair '*' '/' (line.drop (start + 2)) with
    | some n =>
      rw [stripBlock_append_of_closed _ _ start n hstart hend]
      refine ⟨⟨pad, rfl, h⟩, ?_⟩
      simp only [stripBlock, hstart, hend]
    | none =>
      have hpad : closeCarried pad = (Text.blank pad.length, true) := by
        simp only [closeCarried, h.findPair '*' '/' (by decide) (by decide)]
      rw [stripBlock_append_of_open _ _ start hstart hend (h.border _ _ _ (by decide) (by decide)), hpad]
      refine ⟨⟨_, rfl, .blank _⟩, ?_⟩
      simp only [stripBlock, hstart, hend]

theorem stripRest_pad (line : Text) (h : IsPad pad) :
    Padded (stripRest line) (stripRest (line ++ pad)) := by
  cases hline : Text.findPair '/' '/' line with
  | none =>
    have hpad : stripRest pad = pad := by
      simp only [stripRest, h.findPair '/' '/' (by decide) (by decide)]
    have hsame : stripRest line = line := by
      simp only [stripRest, hline]
    rw [stripRest_append _ _ hline (h.border _ _ _ (by decide) (by decide)), hpad, hsame]
    exact ⟨pad, rfl, h⟩
  | some n =>
    rw [stripRest_append_of_some _ _ n hline]
    exact ⟨_, rfl, .blank _⟩

end LineStrip

theorem stripLine_pad (inBlock : Bool) (line : Text) {pad : Text} (h : IsPad pad) :
    Padded (stripLine inBlock line).text (stripLine inBlock (line ++ pad)).text ∧
      (stripLine inBlock (line ++ pad)).inBlock = (stripLine inBlock line).inBlock := by
  have hcarried : Padded (if inBlock then LineStrip.closeCarried line else (line, false)).1
        (if inBlock then LineStrip.closeCarried (line ++ pad) else (line ++ pad, false)).1 ∧
      (if inBlock then LineStrip.closeCarried (line ++ pad) else (line ++ pad, false)).2 =
        (if inBlock then LineStrip.closeCarried line else (line, false)).2 := by
    cases inBlock with
    | true => exact LineStrip.closeCarried_pad line h
    | false => exact ⟨⟨pad, rfl, h⟩, rfl⟩
  unfold stripLine
  generalize (if inBlock then LineStrip.closeCarried line else (line, false)) = carried at hcarried ⊢
  generalize (if inBlock then LineStrip.closeCarried (line ++ pad) else (line ++ pad, false)) = padded
    at hcarried ⊢
  obtain ⟨⟨pad', htext, hpad'⟩, hflag⟩ := hcarried
  simp only [hflag]
  split
  · rw [htext]
    exact ⟨LineStrip.stripRest_pad _ hpad', hflag⟩
  · obtain ⟨⟨pad'', htext', hpad''⟩, hflag'⟩ := LineStrip.stripBlock_pad carried.1 hpad'
    rw [htext, htext', hflag']
    exact ⟨LineStrip.stripRest_pad _ hpad'', rfl⟩

/-! ## Reading a line with blanks behind it -/

namespace Padded

open Reassignment

variable {text padded : Text}

theorem dropWhile (h : Padded text padded) (p : Char → Bool) :
    Padded (text.dropWhile p) (padded.dropWhile p) := by
  obtain ⟨pad, rfl, hpad⟩ := h
  rw [List.dropWhile_append]
  split
  · rename_i hempty
    rw [List.isEmpty_iff.mp hempty]
    exact ⟨_, rfl, hpad.of_suffix (List.dropWhile_suffix p)⟩
  · exact ⟨pad, rfl, hpad⟩

theorem drop (h : Padded text padded) (n : Nat) (hn : n ≤ text.length) :
    Padded (text.drop n) (padded.drop n) := by
  obtain ⟨pad, rfl, hpad⟩ := h
  exact ⟨pad, List.drop_append_of_le_length hn, hpad⟩

theorem any_head? (h : Padded text padded) (p : Char → Bool) (hp : ∀ c, c = ' ' ∨ c = '\t' → p c = false) :
    padded.head?.any p = text.head?.any p := by
  obtain ⟨pad, rfl, hpad⟩ := h
  cases text with
  | cons c cs => rfl
  | nil =>
    cases pad with
    | nil => rfl
    | cons c cs => simpa using hp c (hpad c (by simp))

theorem takeWhile (h : Padded text padded) (p : Char → Bool) (hp : ∀ c, c = ' ' ∨ c = '\t' → p c = false) :
    padded.takeWhile p = text.takeWhile p := by
  obtain ⟨pad, rfl, hpad⟩ := h
  cases pad with
  | nil => rw [List.append_nil]
  | cons c cs => exact takeWhile_append_stop p text cs c (hp c (hpad c (by simp)))

theorem count (h : Padded text padded) (c : Char) (hspace : c ≠ ' ') (htab : c ≠ '\t') :
    padded.count c = text.count c := by
  obtain ⟨pad, rfl, hpad⟩ := h
  rw [List.count_append, List.count_eq_zero.mpr (hpad.not_mem c hspace htab), Nat.add_zero]

theorem parenDepth (h : Padded text padded) (depth : Nat) :
    State.parenDepth depth padded = State.parenDepth depth text := by
  obtain ⟨pad, rfl, hpad⟩ := h
  rw [State.parenDepth_append, State.parenDepth_of_not_mem]
  · exact hpad.not_mem '(' (by decide) (by decide)
  · exact hpad.not_mem ')' (by decide) (by decide)

theorem isPrefixOf (h : Padded text padded) (word : Text) (hword : word.all Ascii.isWord = true) :
    word.isPrefixOf padded = word.isPrefixOf text := by
  obtain ⟨pad, rfl, hpad⟩ := h
  cases pad with
  | nil => rw [List.append_nil]
  | cons c cs =>
    apply isPrefixOf_append_stop
    intro hmem
    have := List.all_eq_true.mp hword c hmem
    simp [isWord_of_isPad c (hpad c (by simp))] at this

theorem isSignature (h : Padded text padded) : isSignature padded = isSignature text := by
  unfold Reassignment.isSignature
  have hrest := h.dropWhile Ascii.isSpace
  generalize text.dropWhile Ascii.isSpace = rest at hrest ⊢
  generalize padded.dropWhile Ascii.isSpace = rest' at hrest ⊢
  rw [Bool.eq_iff_iff, List.any_eq_true, List.any_eq_true]
  apply exists_congr
  intro word
  apply and_congr_right
  intro hword
  rw [hrest.isPrefixOf word (isWord_of_mem_signatureWords word hword)]
  cases hpre : word.isPrefixOf rest with
  | false => simp
  | true =>
    have hgap := hrest.drop word.length (List.isPrefixOf_iff_prefix.mp hpre).length_le
    have hname := hgap.dropWhile Ascii.isSpace
    have hparen := (hname.dropWhile Ascii.isWord).dropWhile Ascii.isSpace
    have hword' := hname.any_head? Ascii.isWord isWord_of_isPad
    have hparen' := hparen.any_head? (· == '(') (by rintro c (rfl | rfl) <;> decide)
    have hequals : ∀ o : Option Char, (o == some '(') = o.any (· == '(') := by
      intro o
      cases o <;> rfl
    dsimp only
    rw [hequals, hequals, hword', hparen']
    cases hgapText : rest.drop word.length with
    | nil => simp
    | cons c cs =>
      obtain ⟨pad, heq, -⟩ := hgap
      rw [heq, hgapText]
      rfl

end Padded

namespace Reassignment

/-! ## An equals sign at the end of a line -/

/-- The name of an assignment and its equals sign, with `rest` behind them. -/
structure OpensAssignment (text before name gap rest : Text) : Prop where
  text_eq : text = before ++ (name ++ (gap ++ '=' :: rest))
  name_ne_nil : name ≠ []
  space_before : ∀ c ∈ before, Ascii.isSpace c = true
  word_name : ∀ c ∈ name, Ascii.isWord c = true
  space_gap : ∀ c ∈ gap, Ascii.isSpace c = true

theorem isSpace_of_isWord (c : Char) (h : Ascii.isWord c = true) : Ascii.isSpace c = false := by
  rw [← Bool.not_eq_true]
  intro hspace
  simp [Ascii.isWord_of_isSpace c hspace] at h

namespace OpensAssignment

variable {text before name gap rest : Text}

theorem takeWhile_isSpace (h : OpensAssignment text before name gap rest) :
    text.takeWhile Ascii.isSpace = before := by
  obtain ⟨c, cs, hname⟩ := List.exists_cons_of_ne_nil h.name_ne_nil
  have hc := isSpace_of_isWord c (h.word_name c (by simp [hname]))
  rw [h.text_eq, List.takeWhile_append_of_pos h.space_before, hname, List.cons_append,
    List.takeWhile_cons_of_neg (by simp [hc]), List.append_nil]

theorem dropWhile_isSpace (h : OpensAssignment text before name gap rest) :
    text.dropWhile Ascii.isSpace = name ++ (gap ++ '=' :: rest) := by
  obtain ⟨c, cs, hname⟩ := List.exists_cons_of_ne_nil h.name_ne_nil
  have hc := isSpace_of_isWord c (h.word_name c (by simp [hname]))
  rw [h.text_eq, List.dropWhile_append_of_pos h.space_before, hname, List.cons_append,
    List.dropWhile_cons_of_neg (by simp [hc])]

theorem name_ends (h : OpensAssignment text before name gap rest) :
    (gap ++ '=' :: rest).takeWhile Ascii.isWord = [] ∧
      (gap ++ '=' :: rest).dropWhile Ascii.isWord = gap ++ '=' :: rest := by
  have hequals : ¬ Ascii.isWord '=' = true := by decide
  cases gap with
  | nil => exact ⟨List.takeWhile_cons_of_neg hequals, List.dropWhile_cons_of_neg hequals⟩
  | cons c cs =>
    have hc := Ascii.isWord_of_isSpace c (h.space_gap c (by simp))
    exact ⟨List.takeWhile_cons_of_neg (by simp [hc]), List.dropWhile_cons_of_neg (by simp [hc])⟩

theorem assignment?_eq (h : OpensAssignment text before name gap rest) :
    assignment? text = match rest with
      | [] => none
      | c :: _ => if c == '=' then none else some ⟨before.length, name, h.name_ne_nil⟩ := by
  obtain ⟨htake, hdrop⟩ := h.name_ends
  have hname : (text.dropWhile Ascii.isSpace).takeWhile Ascii.isWord = name := by
    rw [h.dropWhile_isSpace, List.takeWhile_append_of_pos h.word_name, htake, List.append_nil]
  have hrest : ((text.dropWhile Ascii.isSpace).dropWhile Ascii.isWord).dropWhile Ascii.isSpace =
      '=' :: rest := by
    rw [h.dropWhile_isSpace, List.dropWhile_append_of_pos h.word_name, hdrop,
      List.dropWhile_append_of_pos h.space_gap, List.dropWhile_cons_of_neg (by decide)]
  unfold assignment?
  simp only [hname, hrest, h.takeWhile_isSpace, dif_neg h.name_ne_nil]
  cases rest <;> rfl

theorem append (h : OpensAssignment text before name gap rest) (back : Text) :
    OpensAssignment (text ++ back) before name gap (rest ++ back) :=
  ⟨by simp [h.text_eq], h.name_ne_nil, h.space_before, h.word_name, h.space_gap⟩

end OpensAssignment

/-- An assignment that lacks nothing but a character behind its equals sign. -/
def EndsInEquals (text name : Text) : Prop := ∃ before gap, OpensAssignment text before name gap []

theorem opensAssignment_of_dropWhile (text rest : Text)
    (hname : (text.dropWhile Ascii.isSpace).takeWhile Ascii.isWord ≠ [])
    (hrest : ((text.dropWhile Ascii.isSpace).dropWhile Ascii.isWord).dropWhile Ascii.isSpace =
      '=' :: rest) :
    OpensAssignment text (text.takeWhile Ascii.isSpace)
      ((text.dropWhile Ascii.isSpace).takeWhile Ascii.isWord)
      (((text.dropWhile Ascii.isSpace).dropWhile Ascii.isWord).takeWhile Ascii.isSpace) rest := by
  constructor
  · rw [← hrest, List.takeWhile_append_dropWhile, List.takeWhile_append_dropWhile,
      List.takeWhile_append_dropWhile]
  · exact hname
  · exact List.all_eq_true.mp List.all_takeWhile
  · exact List.all_eq_true.mp List.all_takeWhile
  · exact List.all_eq_true.mp List.all_takeWhile

theorem endsInEquals_of_dropWhile (text : Text)
    (hname : (text.dropWhile Ascii.isSpace).takeWhile Ascii.isWord ≠ [])
    (hrest : ((text.dropWhile Ascii.isSpace).dropWhile Ascii.isWord).dropWhile Ascii.isSpace = ['=']) :
    EndsInEquals text ((text.dropWhile Ascii.isSpace).takeWhile Ascii.isWord) :=
  ⟨_, _, opensAssignment_of_dropWhile text [] hname hrest⟩

theorem takeWhile_isSpace_padded {text padded : Text} (h : Padded text padded)
    (hname : (text.dropWhile Ascii.isSpace).takeWhile Ascii.isWord ≠ []) :
    padded.takeWhile Ascii.isSpace = text.takeWhile Ascii.isSpace := by
  obtain ⟨pad, rfl, -⟩ := h
  cases hrest : text.dropWhile Ascii.isSpace with
  | nil => simp [hrest] at hname
  | cons c cs =>
    have hc : Ascii.isSpace c = false := by
      have := List.head?_dropWhile_not Ascii.isSpace text
      rw [hrest] at this
      simpa using this
    have hsplit : text = text.takeWhile Ascii.isSpace ++ c :: cs := by
      rw [← hrest, List.takeWhile_append_dropWhile]
    rw [hsplit, List.append_assoc, List.cons_append, takeWhile_append_stop _ _ _ _ hc,
      takeWhile_append_stop _ _ _ _ hc]

theorem EndsInEquals.assignment?_append {text name pad : Text} (h : EndsInEquals text name)
    (hpad : IsPad pad) (hne : pad ≠ []) :
    assignment? text = none ∧ ∃ a, assignment? (text ++ pad) = some a ∧ a.name = name := by
  obtain ⟨before, gap, hopens⟩ := h
  obtain ⟨c, cs, rfl⟩ := List.exists_cons_of_ne_nil hne
  have hc : c ≠ '=' := by
    rcases hpad c (by simp) with rfl | rfl <;> decide
  refine ⟨hopens.assignment?_eq, ⟨before.length, name, hopens.name_ne_nil⟩, ?_, rfl⟩
  rw [(hopens.append (c :: cs)).assignment?_eq]
  simp [hc]

theorem EndsInEquals.closing {text name : Text} (h : EndsInEquals text name) : '}' ∉ text := by
  obtain ⟨before, gap, hopens⟩ := h
  have hspace : ∀ part : Text, (∀ c ∈ part, Ascii.isSpace c = true) → '}' ∉ part := by
    intro part hpart hmem
    have := hpart _ hmem
    simp [Ascii.isSpace] at this
  have hname : '}' ∉ name := by
    intro hmem
    have := hopens.word_name _ hmem
    simp [Ascii.isWord, Ascii.isLetter, Ascii.isDigit] at this
  simp [hopens.text_eq, hspace _ hopens.space_before, hspace _ hopens.space_gap, hname]

/-- Blanks add an assignment to a text that ends in an equals sign, and change nothing elsewhere. -/
theorem assignment?_padded {text padded : Text} (h : Padded text padded)
    (hends : ∀ name, ¬ EndsInEquals text name) : assignment? padded = assignment? text := by
  have hrest := h.dropWhile Ascii.isSpace
  have hname := hrest.takeWhile Ascii.isWord isWord_of_isPad
  by_cases hnil : (text.dropWhile Ascii.isSpace).takeWhile Ascii.isWord = []
  · unfold assignment?
    simp only [hname, hnil, dif_pos]
  · have hspace := takeWhile_isSpace_padded h hnil
    obtain ⟨pad, hpadded, hpad⟩ := (hrest.dropWhile Ascii.isWord).dropWhile Ascii.isSpace
    have hopen := mt (endsInEquals_of_dropWhile text hnil) (hends _)
    unfold assignment?
    simp only [hname, hspace, hpadded, dif_neg hnil]
    generalize ((text.dropWhile Ascii.isSpace).dropWhile Ascii.isWord).dropWhile Ascii.isSpace = behind
      at hopen
    rcases behind with _ | ⟨c, _ | ⟨d, ds⟩⟩
    · cases pad with
      | nil => rfl
      | cons c cs => rcases hpad c (by simp) with rfl | rfl <;> rfl
    · have hc : c ≠ '=' := by
        rintro rfl
        exact hopen rfl
      cases pad <;> simp [hc]
    · by_cases hc : c = '='
      · cases hc
        rfl
      · simp [hc]

/-! ## One line -/

namespace State

/-- The line ends in an equals sign where an assignment would count. -/
def OpenEnded (s : State) (line : Text) : Prop :=
  s.parens = 0 ∧ s.inBlock = false ∧ ∃ name, keywords.contains name = false ∧
    EndsInEquals (stripLine s.inBlock line).text name

def further (s : State) (n : Nat) : State := { s with offset := s.offset + n }

variable {pad : Text}

theorem opened_pad (s : State) (line : Text) (h : IsPad pad) :
    s.opened (line ++ pad) = s.opened line := by
  obtain ⟨htext, hblock⟩ := stripLine_pad s.inBlock line h
  unfold opened
  simp only [htext.count '{' (by decide) (by decide), hblock, htext.isSignature]

theorem finish_pad (s t : State) (line : Text) (h : IsPad pad) :
    t.finish (stripLine s.inBlock (line ++ pad)).text (line ++ pad) =
      (t.finish (stripLine s.inBlock line).text line).further pad.length := by
  obtain ⟨htext, -⟩ := stripLine_pad s.inBlock line h
  unfold finish countParens further
  simp only [htext.count '}' (by decide) (by decide), htext.parenDepth, List.length_append]
  congr 1
  omega

theorem event?_pad (s : State) (line : Text) (h : IsPad pad) (hopen : ¬ s.OpenEnded line) :
    s.event? (line ++ pad) = s.event? line := by
  obtain ⟨hpadded, -⟩ := stripLine_pad s.inBlock line h
  unfold event?
  split
  · rename_i hcounts
    by_cases hends : ∃ name, EndsInEquals (stripLine s.inBlock line).text name
    · -- The name is a word of the language, so there is no event either way.
      obtain ⟨name, hname⟩ := hends
      have hkey : keywords.contains name = true := by
        by_contra hkey
        exact hopen ⟨hcounts.1, hcounts.2, name, by simpa using hkey, hname⟩
      obtain ⟨pad', htext, hpad'⟩ := hpadded
      rw [htext]
      by_cases hnil : pad' = []
      · rw [hnil, List.append_nil, s.opened_pad line h]
      · obtain ⟨hnone, a, ha, rfl⟩ := hname.assignment?_append hpad' hnil
        simp only [hnone, ha, hkey, if_true]
    · rw [assignment?_padded hpadded (not_exists.mp hends), s.opened_pad line h]
  · rfl

theorem event?_of_openEnded (s : State) (line : Text) (h : IsPad pad) (hne : pad ≠ [])
    (hopen : s.OpenEnded line) : s.event? line = none ∧ ∃ e, s.event? (line ++ pad) = some e := by
  obtain ⟨hparens, hblock, name, hkey, hends⟩ := hopen
  obtain ⟨⟨pad', htext, hpad'⟩, -⟩ := stripLine_pad s.inBlock line h
  have hne' : pad' ≠ [] := by
    rintro rfl
    have hlen := (blanking_stripLine s.inBlock (line ++ pad)).length_eq
    have hpos := List.length_pos_iff.mpr hne
    rw [htext, List.append_nil, (blanking_stripLine s.inBlock line).length_eq, List.length_append] at hlen
    omega
  obtain ⟨hnone, a, ha, rfl⟩ := hends.assignment?_append hpad' hne'
  constructor
  · simp only [event?, hnone, ite_self]
  · refine ⟨⟨(s.opened (line ++ pad)).current.id, s.line + 1, s.offset + a.offset, a⟩, ?_⟩
    rw [event?, if_pos ⟨hparens, hblock⟩, htext, ha]
    exact if_neg (by rw [hkey]; exact Bool.false_ne_true)

theorem finish_assigned (s : State) (working line : Text) (h : '}' ∉ working) :
    (s.finish working line).assigned = s.assigned := by
  unfold finish
  rw [List.count_eq_zero.mpr h]
  rfl

/-- Where blanks add an event, its name is recorded or there is a warning about it. -/
theorem advance_ne_of_openEnded (s : State) (line : Text) (h : IsPad pad) (hne : pad ≠ [])
    (hopen : s.OpenEnded line) :
    (s.advance (line ++ pad)).2 ≠ (s.advance line).2 ∨
      (s.advance (line ++ pad)).1.assigned ≠ (s.advance line).1.assigned := by
  obtain ⟨hnone, e, he⟩ := s.event?_of_openEnded line h hne hopen
  obtain ⟨-, -, name, -, hends⟩ := hopen
  obtain ⟨hpadded, -⟩ := stripLine_pad s.inBlock line h
  have hclosing : '}' ∉ (stripLine s.inBlock line).text := hends.closing
  have hclosing' : '}' ∉ (stripLine s.inBlock (line ++ pad)).text := by
    rw [← List.count_eq_zero, hpadded.count '}' (by decide) (by decide), List.count_eq_zero]
    exact hclosing
  rw [advance_eq, advance_eq, hnone, he, s.opened_pad line h]
  dsimp only
  rw [finish_assigned _ _ _ hclosing, finish_assigned _ _ _ hclosing']
  unfold enter
  split
  · exact Or.inl (by simp)
  · exact Or.inr (by simp)

theorem advance_pad (s : State) (line : Text) (h : IsPad pad) (hopen : ¬ s.OpenEnded line) :
    s.advance (line ++ pad) = ((s.advance line).1.further pad.length, (s.advance line).2) := by
  rw [advance_eq, advance_eq, s.event?_pad line h hopen, s.opened_pad line h]
  dsimp only
  rw [s.finish_pad _ line h]

end State

/-- Spaces and tabs behind a line only move what comes after it, in whatever state it is read, unless
the line ends in an equals sign where an assignment would count. There they do make a difference. -/
theorem advance_trailing_blanks_iff (s : State) (line pad : Text) (h : IsPad pad) :
    s.advance (line ++ pad) = ((s.advance line).1.further pad.length, (s.advance line).2) ↔
      pad = [] ∨ ¬ s.OpenEnded line := by
  constructor
  · intro hsame
    by_contra hnot
    rw [not_or, not_not] at hnot
    rcases s.advance_ne_of_openEnded line h hnot.1 hnot.2 with hne | hne
    · exact hne (by rw [hsame])
    · rw [hsame] at hne
      exact hne rfl
  · rintro (rfl | hopen)
    · rw [List.append_nil]
      rfl
    · exact s.advance_pad line h hopen

/-- A space and a tab behind a comment, in a body in which the name is assigned already. -/
theorem trailing_blanks_behind_comment :
    let s := (State.advanceAll {} ["module m() \x7b".toList, "  x = 1;".toList]).1
    let line := "  x = 2; // again".toList
    let pad := [' ', '\t']
    s.Reachable ∧ IsPad pad ∧ ¬ s.OpenEnded line ∧ (s.advance line).2.map (·.start) = some 24 ∧
      s.advance (line ++ pad) = ((s.advance line).1.further 2, (s.advance line).2) := by
  intro s line pad
  have hpad : IsPad pad := by decide
  have hopen : ¬ s.OpenEnded line := by
    rintro ⟨-, -, name, -, hends⟩
    have hnone := (hends.assignment?_append hpad (by decide)).1
    have hsome : (assignment? (stripLine s.inBlock line).text).isSome = true := by decide +kernel
    simp [hnone] at hsome
  exact ⟨State.reachable_advanceAll _ _ .initial, hpad, hopen, by decide +kernel,
    (advance_trailing_blanks_iff s line pad hpad).mpr (Or.inr hopen)⟩

/-- A line that ends in an equals sign assigns nothing, and with a space behind that it does. So the
space decides whether there is a warning two lines below. -/
theorem blank_behind_equals_counts :
    let s : State := {}
    let line := "x =".toList
    let pad := [' ']
    s.Reachable ∧ IsPad pad ∧ s.OpenEnded line ∧
      (s.advance line).1.assigned = [] ∧ (s.advance (line ++ pad)).1.assigned = [((0, ['x']), ⟨1, 0⟩)] ∧
      s.advance (line ++ pad) ≠ ((s.advance line).1.further 1, (s.advance line).2) ∧
      findReassignments "x =\n1;\nx = 2;".toList = [] ∧
      (findReassignments "x = \n1;\nx = 2;".toList).map (·.start) = [8] := by
  refine ⟨.initial, by decide, ⟨rfl, rfl, ['x'], by decide, [], [' '], ?_⟩, by decide +kernel,
    by decide +kernel, by decide +kernel, by decide +kernel, by decide +kernel⟩
  exact ⟨by decide +kernel, by simp, by simp, by simp; decide, by simp; decide⟩

end Reassignment

end ScadAdvisor
