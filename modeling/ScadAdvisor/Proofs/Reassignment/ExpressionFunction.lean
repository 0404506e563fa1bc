import Mathlib.Data.List.TakeWhile
import ScadAdvisor.Proofs.Identifier
import ScadAdvisor.Proofs.Reassignment.Literal
import ScadAdvisor.Proofs.Reassignment.Shift

/-! # Functions that are an expression

Such a function has no braces, but the scan waits for its body as for any other.
-/

namespace ScadAdvisor.Reassignment

/-! ## The line -/

/-- `function name(params) = expr;` on one line. -/
structure ExpressionFunction where
  name : Text
  params : Text
  expr : Text
  name_ne_nil : name ≠ []
  isContinue_name : ∀ c ∈ name, Identifier.isContinue c = true
  inert_params : Inert params
  inert_expr : Inert expr
  newline_params : '\n' ∉ params
  newline_expr : '\n' ∉ expr

namespace ExpressionFunction

def source (f : ExpressionFunction) : Text :=
  "function ".toList ++ f.name ++ '(' :: (f.params ++ ')' :: (" =".toList ++ ' ' :: (f.expr ++ [';'])))

/-- The scan reads a signature only if the name is ASCII. -/
def isAscii (f : ExpressionFunction) : Bool := f.name.all Ascii.isWord

theorem not_mem_name (f : ExpressionFunction) (c : Char) (hc : Identifier.isContinue c = false) :
    c ∉ f.name := by
  intro hmem
  simp [f.isContinue_name c hmem] at hc

theorem findPair_source (f : ExpressionFunction) (c : Char) (hc : ')' ≠ c ∧ '(' ≠ c ∧ ' ' ≠ c ∧ ';' ≠ c)
    (hparams : Text.findPair '/' c f.params = none) (hexpr : Text.findPair '/' c f.expr = none) :
    Text.findPair '/' c f.source = none := by
  obtain ⟨hclose, hopen, hspace, hend⟩ := hc
  have hname := f.not_mem_name '/' (Identifier.isContinue_of_lt _ (by decide))
  apply Text.findPair_append_stop _ _ _ _ _ (by decide) hopen
  · apply Text.findPair_of_not_mem
    simp [hname]
  · apply Text.findPair_append_stop _ _ _ _ _ (by decide) hclose hparams
    apply Text.findPair_append_stop _ _ _ _ _ (by decide) hspace
    · apply Text.findPair_of_not_mem
      simp
    · exact Text.findPair_append_stop _ _ _ _ _ (by decide) hend hexpr rfl

@[simp] theorem stripLine_source (f : ExpressionFunction) : stripLine false f.source = ⟨f.source, false, false⟩ := by
  have hblock := f.findPair_source '*' (by decide) f.inert_params.block f.inert_expr.block
  have hline := f.findPair_source '/' (by decide) f.inert_params.line f.inert_expr.line
  simp [stripLine, LineStrip.stripBlock, LineStrip.stripRest, hblock, hline]

@[simp] theorem parenDepth_source (f : ExpressionFunction) (depth : Nat) :
    State.parenDepth depth f.source = depth := by
  have hname : ∀ depth, State.parenDepth depth f.name = depth := fun depth =>
    State.parenDepth_of_not_mem depth _ (f.not_mem_name '(' (Identifier.isContinue_of_lt _ (by decide)))
      (f.not_mem_name ')' (Identifier.isContinue_of_lt _ (by decide)))
  unfold source
  simp [State.parenDepth, hname, f.inert_params.parens, f.inert_expr.parens]

@[simp] theorem opening_source (f : ExpressionFunction) : '{' ∉ f.source := by
  have hname := f.not_mem_name '{' (by decide +kernel)
  unfold source
  simp [hname, f.inert_params.opening, f.inert_expr.opening]

@[simp] theorem closing_source (f : ExpressionFunction) : '}' ∉ f.source := by
  have hname := f.not_mem_name '}' (by decide +kernel)
  unfold source
  simp [hname, f.inert_params.closing, f.inert_expr.closing]

@[simp] theorem newline_source (f : ExpressionFunction) : '\n' ∉ f.source := by
  have hname := f.not_mem_name '\n' (Identifier.isContinue_of_lt _ (by decide))
  unfold source
  simp [hname, f.newline_params, f.newline_expr]

theorem isSpace_name (f : ExpressionFunction) (c : Char) (h : c ∈ f.name) : Ascii.isSpace c = false := by
  cases hspace : Ascii.isSpace c with
  | false => rfl
  | true => exact absurd h (f.not_mem_name c (Identifier.isContinue_of_isSpace c hspace))

theorem functionWord : "function ".toList = ['f', 'u', 'n', 'c', 't', 'i', 'o', 'n', ' '] := by
  decide +kernel

theorem head?_behind_name (f : ExpressionFunction) (rest : Text) :
    ((((f.name ++ '(' :: rest).dropWhile Ascii.isWord).dropWhile Ascii.isSpace).head? == some '(') =
      f.isAscii := by
  rw [dropWhile_append_stop _ _ _ _ (by decide), isAscii]
  cases hdrop : f.name.dropWhile Ascii.isWord with
  | nil =>
    have hall := List.dropWhile_eq_nil_iff.mp hdrop
    rw [List.all_eq_true.mpr hall, List.nil_append, List.dropWhile_cons_of_neg (by decide)]
    rfl
  | cons c cs =>
    have hmem : c ∈ f.name := List.dropWhile_suffix _ |>.subset (by rw [hdrop]; exact List.mem_cons_self)
    have hparen : c ≠ '(' := by
      rintro rfl
      exact f.not_mem_name '(' (Identifier.isContinue_of_lt _ (by decide)) hmem
    have hword : Ascii.isWord c = false := by
      have := List.head?_dropWhile_not Ascii.isWord f.name
      rw [hdrop] at this
      simpa using this
    have hall : f.name.all Ascii.isWord = false := List.all_eq_false.mpr ⟨c, hmem, by simp [hword]⟩
    rw [hall, List.cons_append, List.dropWhile_cons_of_neg (by simp [f.isSpace_name c hmem])]
    simp [hparen]

theorem dropWhile_isSpace_name (f : ExpressionFunction) (rest : Text) :
    (f.name ++ '(' :: rest).dropWhile Ascii.isSpace = f.name ++ '(' :: rest := by
  rw [dropWhile_append_stop _ _ _ _ (by decide), List.dropWhile_eq_self_iff.mpr]
  intro hpos
  simp [f.isSpace_name _ (List.getElem_mem hpos)]

@[simp] theorem isSignature_source (f : ExpressionFunction) : isSignature f.source = f.isAscii := by
  have hhead : ∀ rest, f.isAscii = true → ((f.name ++ '(' :: rest).head?).any Ascii.isWord = true := by
    intro rest hascii
    obtain ⟨c, cs, hname⟩ := List.exists_cons_of_ne_nil f.name_ne_nil
    have hword := List.all_eq_true.mp hascii c (by rw [hname]; exact List.mem_cons_self)
    simp [hname, hword]
  unfold isSignature source
  rw [functionWord]
  simp [signatureWords, Ascii.isSpace]
  rw [f.dropWhile_isSpace_name, f.head?_behind_name]
  cases hascii : f.isAscii with
  | false => exact Bool.and_false _
  | true => rw [hhead _ hascii, Bool.and_self]

@[simp] theorem assignment?_source (f : ExpressionFunction) : assignment? f.source = none := by
  obtain ⟨c, cs, hname⟩ := List.exists_cons_of_ne_nil f.name_ne_nil
  have hequals : c ≠ '=' := by
    rintro rfl
    exact f.not_mem_name '=' (by decide +kernel) (by rw [hname]; exact List.mem_cons_self)
  -- The first word is followed by the name, not by an equals sign.
  have hbehind : ((f.source.dropWhile Ascii.isSpace).dropWhile Ascii.isWord).dropWhile Ascii.isSpace =
      c :: (cs ++ '(' :: (f.params ++ ')' :: (" =".toList ++ ' ' :: (f.expr ++ [';'])))) := by
    rw [← List.cons_append, ← hname, ← f.dropWhile_isSpace_name]
    unfold source
    rw [functionWord]
    simp [Ascii.isSpace, Ascii.isWord, Ascii.isLetter, Ascii.isDigit]
  unfold assignment?
  dsimp only
  rw [hbehind]
  simp [hequals]

theorem advance_source (f : ExpressionFunction) (s : State) (h : s.inBlock = false) :
    s.event? f.source = none ∧
      (s.advance f.source).1 =
        (if f.isAscii then s.waiting else s).moved 1 (f.source.length + 1) s.assigned := by
  have hevent : s.event? f.source = none := by
    unfold State.event?
    rw [h, f.stripLine_source, f.assignment?_source]
    simp
  refine ⟨hevent, ?_⟩
  rw [State.advance_eq, hevent, State.opened, h, f.stripLine_source, f.isSignature_source,
    List.count_eq_zero.mpr f.opening_source]
  unfold State.finish
  rw [List.count_eq_zero.mpr f.closing_source]
  cases f.isAscii <;>
    simp [State.openBraces, State.closeBraces, State.countParens, State.moved, State.waiting, h, Nat.add_assoc]

end ExpressionFunction

/-! ## Warnings behind a new line -/

/-- Where a place is found when `size` places have been put in at `bound`. -/
def shifted (bound size n : Nat) : Nat := if n < bound then n else n + size

/-- The same warning when a line of `size` characters has been put in as line number `line`, at
`offset`. -/
def Shifted (line offset size : Nat) (d d' : Diagnostic) : Prop :=
  ∃ a start first, d = warning a start first ∧
    d' = warning a (shifted offset size start) (shifted line 1 first)

def Event.shifted (e : Event) (line offset size : Nat) : Event :=
  { e with line := Reassignment.shifted line 1 e.line, start := Reassignment.shifted offset size e.start }

theorem Event.shifted_of_lt (e : Event) (line offset size : Nat) (hline : e.line < line)
    (hoffset : e.start < offset) : e.shifted line offset size = e := by
  simp [Event.shifted, Reassignment.shifted, hline, hoffset]

theorem Event.shifted_of_le (e : Event) (line offset size : Nat) (hline : line ≤ e.line)
    (hoffset : offset ≤ e.start) : e.shifted line offset size = e.moved 1 size := by
  simp [Event.shifted, Reassignment.shifted, Event.moved, Nat.not_lt_of_le hline,
    Nat.not_lt_of_le hoffset]

theorem shifted_repeatsAfter (line offset size : Nat) (history events : List Event) :
    List.Forall₂ (Shifted line offset size) (repeatsAfter history events)
      (repeatsAfter (history.map (·.shifted line offset size))
        (events.map (·.shifted line offset size))) := by
  induction events generalizing history with
  | nil => exact .nil
  | cons e rest ih =>
    have hrest := ih (history ++ [e])
    rw [List.map_append] at hrest
    have hfirst : (e.shifted line offset size).firstIn (history.map (·.shifted line offset size)) =
        (e.firstIn history).map (·.shifted line offset size) := by
      unfold Event.firstIn
      rw [List.find?_map]
      rfl
    rw [repeatsAfter, List.map_cons, repeatsAfter, Event.warning?, Event.warning?, hfirst]
    cases e.firstIn history with
    | none => exact hrest
    | some first => exact .cons ⟨e.assignment, e.start, first.line, rfl, rfl⟩ hrest

theorem ExpressionFunction.events_insert (f : ExpressionFunction) (before after : List Text)
    (hblock : (State.advanceAll {} before).1.inBlock = false)
    (hneutral : f.isAscii = true → SignatureFirst false after) :
    State.events {} (before ++ f.source :: after) =
      (State.events {} (before ++ after)).map
        (·.shifted (before.length + 1) (Text.ended before).length (f.source.length + 1)) := by
  obtain ⟨hevent, hadvance⟩ := f.advance_source _ hblock
  have hline := State.advanceAll_line {} before
  have hoffset := State.advanceAll_offset {} before
  have hafter : (if f.isAscii then (State.advanceAll {} before).1.waiting
      else (State.advanceAll {} before).1).events after = (State.advanceAll {} before).1.events after := by
    cases hascii : f.isAscii with
    | false => rfl
    | true => exact State.events_waiting _ after (by rw [hblock]; exact hneutral hascii)
  rw [State.events_append, State.events, hevent, hadvance, State.events_moved, hafter,
    State.events_append, List.map_append]
  congr 1
  · -- What stands before the line stays where it is.
    have hsame : ∀ e ∈ State.events {} before, e.shifted (before.length + 1)
        (Text.ended before).length (f.source.length + 1) = e := by
      intro e he
      have hwithin := State.events_within {} before e he
      simp only [Nat.zero_add] at hwithin
      exact e.shifted_of_lt _ _ _ (by omega) (by omega)
    rw [List.map_congr_left hsame, List.map_id']
  · apply List.map_congr_left
    intro e he
    have hwithin := State.events_within _ after e he
    simp only [hline, hoffset, Nat.zero_add] at hwithin
    rw [e.shifted_of_le _ _ _ (by omega) (by omega)]

/-- A function that is an expression makes no difference to the scopes behind it exactly if the next
line with a brace or a signature is a signature, or if its own name hides it from the scan. Then its
line moves the warnings behind it and the lines that they cite, and does nothing else. -/
theorem expressionFunction_neutral (f : ExpressionFunction) (text : Text) (before after : List Text)
    (htext : text.lines = before ++ after)
    (hblock : (State.advanceAll {} before).1.inBlock = false)
    (hpending : (State.advanceAll {} before).1.pending = false) :
    let s := (State.advanceAll {} before).1
    let t := (State.advanceAll {} (before ++ [f.source])).1
    let inserted := Text.join ['\n'] (before ++ f.source :: after)
    (t.scopesAt after = s.scopesAt after ↔ (f.isAscii = true → SignatureFirst false after)) ∧
      ((f.isAscii = true → SignatureFirst false after) →
        List.Forall₂ (Shifted (before.length + 1) (Text.ended before).length (f.source.length + 1))
          (findReassignments text) (findReassignments inserted)) := by
  intro s t inserted
  constructor
  · obtain ⟨-, hadvance⟩ := f.advance_source s hblock
    have ht : t = (s.advance f.source).1 := by
      show (State.advanceAll {} (before ++ [f.source])).1 = _
      rw [State.advanceAll_append]
      rfl
    rw [ht, hadvance, State.scopesAt_moved]
    cases f.isAscii with
    | false => simp
    | true =>
      have hiff := s.scopesAt_waiting_iff after hpending
      rw [hblock] at hiff
      simpa using hiff
  · intro hneutral
    have hnewline : ∀ line ∈ before ++ f.source :: after, '\n' ∉ line := by
      intro line hline
      have hlines := Text.sep_not_mem_of_mem_splitOn '\n' text line
      rw [← Text.lines, htext] at hlines
      simp only [List.mem_append, List.mem_cons] at hline hlines
      rcases hline with hline | rfl | hline
      · exact hlines (Or.inl hline)
      · exact f.newline_source
      · exact hlines (Or.inr hline)
    rw [findReassignments_eq, findReassignments_eq, Text.lines_join _ (by simp) hnewline, htext,
      f.events_insert before after hblock hneutral, ← repeatsAfter_nil, ← repeatsAfter_nil]
    exact shifted_repeatsAfter _ _ _ [] _

def ExpressionFunction.double : ExpressionFunction where
  name := ['f']
  params := ['a', '=', '(', '1', ')']
  expr := ['2', '*', '(', 'a', ')']
  name_ne_nil := by decide
  isContinue_name := by
    intro c hc
    rw [List.mem_singleton.mp hc]
    decide +kernel
  inert_params := ⟨by decide, by decide, fun _ => rfl, by decide, by decide, by decide⟩
  inert_expr := ⟨by decide, by decide, fun _ => rfl, by decide, by decide, by decide⟩
  newline_params := by decide
  newline_expr := by decide

/-- A body opens before any bare block does, so the function moves the one warning and nothing else. -/
theorem neutral_before_body :
    let f := ExpressionFunction.double
    let text : Text := "x = 1;\nmodule m()\n\x7b x = 2;\n\x7d\n\x7b\nx = 3;\n\x7d".toList
    let before := text.lines.take 1
    let after := text.lines.drop 1
    let s := (State.advanceAll {} before).1
    let inserted := Text.join ['\n'] (before ++ f.source :: after)
    s.inBlock = false ∧ s.pending = false ∧ SignatureFirst false after ∧
      (findReassignments text).map (·.start) = [31] ∧
      (findReassignments inserted).map (·.start) = [58] ∧
      List.Forall₂ (Shifted 2 7 27) (findReassignments text) (findReassignments inserted) := by
  intro f text before after s inserted
  have hblock : s.inBlock = false := by decide +kernel
  have hpending : s.pending = false := by decide +kernel
  have hfirst : SignatureFirst false after := by decide +kernel
  have hmoved := (expressionFunction_neutral f text before after
    (List.take_append_drop 1 text.lines).symm hblock hpending).2 fun _ => hfirst
  have hbounds : before.length + 1 = 2 ∧ (Text.ended before).length = 7 ∧
      f.source.length + 1 = 27 := by decide +kernel
  rw [hbounds.1, hbounds.2.1, hbounds.2.2] at hmoved
  exact ⟨hblock, hpending, hfirst, by decide +kernel, by decide +kernel, hmoved⟩

/-- A bare block behind the function gets a scope of its own, and the warning about what it assigns
is lost. -/
theorem bare_block_behind_expressionFunction :
    let f := ExpressionFunction.double
    let text : Text := "x = 1;\n\x7b\nx = 2;\n\x7d".toList
    let before := text.lines.take 1
    let after := text.lines.drop 1
    let s := (State.advanceAll {} before).1
    let inserted := Text.join ['\n'] (before ++ f.source :: after)
    s.inBlock = false ∧ s.parens = 0 ∧ s.pending = false ∧
      (findReassignments text).map (·.start) = [9] ∧ findReassignments inserted = [] ∧
      ¬ List.Forall₂ (Shifted 2 7 27) (findReassignments text) (findReassignments inserted) := by
  intro f text before after s inserted
  have hwarning : (findReassignments text).map (·.start) = [9] := by decide +kernel
  have hnone : findReassignments inserted = [] := by decide +kernel
  refine ⟨by decide +kernel, by decide +kernel, by decide +kernel, hwarning, hnone, ?_⟩
  intro hmoved
  rw [hnone, List.forall₂_nil_right_iff] at hmoved
  simp [hmoved] at hwarning

end ScadAdvisor.Reassignment
