import ScadAdvisor.Proofs.LineStrip
import ScadAdvisor.Proofs.Newlines

/-! # Comments line by line

The stripper of lines looks for the marks of a comment on one line at a time, and the masker goes
through a text character by character. On lines that open at most one block comment, before any line
comment, both blank the same characters.
-/

namespace ScadAdvisor

/-! ## Stretches of a text -/

namespace Mask

/-- The image of a stretch of text that `next` follows, and the region behind it. -/
def through (strings : Bool) (next : Option Char) : Region → Text → Text × Region
  | region, [] => ([], region)
  | region, c :: cs =>
    let out := step strings region c (cs.head?.or next)
    let rest := through strings next out.2 cs
    (out.1 :: rest.1, rest.2)

theorem through_append {strings : Bool} {next : Option Char} {region middle : Region}
    {front image : Text} (back : Text)
    (h : through strings (back.head?.or next) region front = (image, middle)) :
    through strings next region (front ++ back) =
      (image ++ (through strings next middle back).1, (through strings next middle back).2) := by
  induction front generalizing region image with
  | nil =>
    cases h
    rfl
  | cons c cs ih =>
    rw [through] at h
    cases h
    rw [List.cons_append, through, List.head?_append, Option.or_assoc, ih rfl]
    rfl

theorem run_append (strings : Bool) (region : Region) (front back : Text) :
    run strings region (front ++ back) =
      (through strings back.head? region front).1 ++
        run strings (through strings back.head? region front).2 back := by
  induction front generalizing region with
  | nil => rfl
  | cons c cs ih =>
    rw [List.cons_append, run, List.head?_append, ih]
    rfl

theorem regions_append (strings : Bool) (region : Region) (front back : Text) (i : Nat) :
    (regions strings region (front ++ back))[front.length + i]? =
      (regions strings (through strings back.head? region front).2 back)[i]? := by
  induction front generalizing region with
  | nil => rw [List.length_nil, Nat.zero_add]; rfl
  | cons c cs ih =>
    rw [List.cons_append, regions, List.length_cons, Nat.add_right_comm, List.getElem?_cons_succ,
      List.head?_append, ih]
    rfl

@[simp] theorem through_block_opening (next : Option Char) (text : Text) :
    through false next .code ('/' :: '*' :: text) =
      (' ' :: ' ' :: (through false next .blockComment text).1, (through false next .blockComment text).2) :=
  rfl

@[simp] theorem through_block_closing (next : Option Char) (text : Text) :
    through false next .blockComment ('*' :: '/' :: text) =
      (' ' :: ' ' :: (through false next .code text).1, (through false next .code text).2) := rfl

theorem through_line_opening (next : Option Char) (text : Text) :
    through false next .code ('/' :: '/' :: text) =
      (' ' :: (through false next .lineComment ('/' :: text)).1,
        (through false next .lineComment ('/' :: text)).2) := rfl

theorem through_lineComment (strings : Bool) (next : Option Char) (body : Text) (h : '\n' ∉ body) :
    through strings next .lineComment body = (Text.blank body.length, .lineComment) := by
  induction body with
  | nil => rfl
  | cons c cs ih =>
    rw [List.mem_cons, not_or] at h
    have hstep : step strings .lineComment c (cs.head?.or next) = (' ', .lineComment) := by
      simp [step, Ne.symm h.1]
    rw [through, hstep, ih h.2]
    rfl

theorem through_blockComment (strings : Bool) (next : Option Char) (body : Text) (h : '\n' ∉ body)
    (hend : Text.findPair '*' '/' (body ++ next.toList) = none) :
    through strings next .blockComment body = (Text.blank body.length, .blockComment) := by
  induction body with
  | nil => rfl
  | cons c cs ih =>
    rw [List.mem_cons, not_or] at h
    rw [List.cons_append, Text.findPair, List.head?_append, Option.head?_toList] at hend
    split at hend
    · cases hend
    · rename_i hpair
      have hstep : step strings .blockComment c (cs.head?.or next) = (' ', .blockComment) := by
        rw [step, if_neg hpair, blanked, if_neg (by simpa using Ne.symm h.1)]
      rw [through, hstep, ih h.2 (Option.map_eq_none_iff.mp hend)]
      rfl

theorem through_code (next : Option Char) (body : Text)
    (hblock : Text.findPair '/' '*' (body ++ next.toList) = none)
    (hline : Text.findPair '/' '/' (body ++ next.toList) = none) :
    through false next .code body = (body, .code) := by
  induction body with
  | nil => rfl
  | cons c cs ih =>
    rw [List.cons_append, Text.findPair, List.head?_append, Option.head?_toList] at hblock hline
    split at hblock
    · cases hblock
    · rename_i hopen
      split at hline
      · cases hline
      · rename_i hslashes
        have hstep : step false .code c (cs.head?.or next) = (c, .code) := by
          rw [step, if_neg hopen, if_neg hslashes]
          rfl
        rw [through, hstep, ih (Option.map_eq_none_iff.mp hblock) (Option.map_eq_none_iff.mp hline)]

/-- A mark that opens a comment is code up to its slash if no other one stands before it. -/
theorem through_code_take (line : Text) (n : Nat) (second : Char)
    (hn : Text.findPair '/' second line = some n)
    (hblock : Text.findPair '/' '*' (line.take (n + 1)) = none)
    (hline : Text.findPair '/' '/' (line.take (n + 1)) = none) :
    through false (some '/') .code (line.take n) = (line.take n, .code) := by
  rw [← Text.take_succ_of_findPair _ _ _ _ hn] at hblock hline
  exact through_code (some '/') (line.take n) hblock hline

theorem through_code_block (next : Option Char) (line : Text) (start : Nat)
    (hstart : Text.findPair '/' '*' line = some start)
    (hline : Text.findPair '/' '/' (line.take (start + 1)) = none) :
    through false next .code line =
      (line.take start ++ ' ' :: ' ' :: (through false next .blockComment (line.drop (start + 2))).1,
        (through false next .blockComment (line.drop (start + 2))).2) := by
  have hfront := through_code_take line start '*' hstart (Text.findPair_take_of_some _ _ _ _ hstart) hline
  conv => lhs; rw [Text.findPair_split _ _ _ _ hstart]
  rw [through_append _ hfront, through_block_opening]

theorem through_blockComment_line (next : Option Char) (line : Text) (hnext : ∀ c ∈ next, c = '\n')
    (h : '\n' ∉ line) :
    through false next .blockComment line =
      match Text.findPair '*' '/' line with
      | some n =>
        (Text.blank (n + 2) ++ (through false next .code (line.drop (n + 2))).1,
          (through false next .code (line.drop (n + 2))).2)
      | none => (Text.blank line.length, .blockComment) := by
  split
  · rename_i n hn
    have hlen := Text.findPair_lt _ _ _ _ hn
    have hbody : through false (some '*') .blockComment (line.take n) = (Text.blank n, .blockComment) := by
      have hend : Text.findPair '*' '/' (line.take n ++ (some '*').toList) = none := by
        rw [Option.toList_some, Text.take_succ_of_findPair _ _ _ _ hn]
        exact Text.findPair_take_of_some _ _ _ _ hn
      rw [through_blockComment _ _ _ (fun hmem => h (List.mem_of_mem_take hmem)) hend,
        List.length_take, Nat.min_eq_left (by omega)]
    conv => lhs; rw [Text.findPair_split _ _ _ _ hn]
    rw [through_append _ hbody, through_block_closing, Text.blank_add, List.append_assoc]
    rfl
  · rename_i hnone
    apply through_blockComment _ _ _ h
    rw [Text.findPair_append_end _ _ _ _ hnext (by decide), hnone]

theorem through_code_line (next : Option Char) (line : Text) (hnext : ∀ c ∈ next, c = '\n')
    (h : '\n' ∉ line) (hblock : Text.findPair '/' '*' line = none) :
    (through false next .code line).1 = LineStrip.stripRest line ∧
      ((through false next .code line).2 = .code ∨ (through false next .code line).2 = .lineComment) := by
  unfold LineStrip.stripRest
  split
  · rename_i n hn
    have hlen := Text.findPair_lt _ _ _ _ hn
    have hcode := through_code_take line n '/' hn (Text.findPair_take_of_none _ _ _ _ hblock)
      (Text.findPair_take_of_some _ _ _ _ hn)
    have hrest : '\n' ∉ '/' :: line.drop (n + 2) := by
      simpa using fun hmem => h (List.mem_of_mem_drop hmem)
    have hthrough : through false next .code line =
        (line.take n ++ Text.blank (line.length - n), .lineComment) := by
      conv => lhs; rw [Text.findPair_split _ _ _ _ hn]
      rw [through_append _ hcode, through_line_opening, through_lineComment _ _ _ hrest]
      have hcount : line.length - n = (line.length - (n + 2)) + 1 + 1 := by omega
      rw [hcount, List.length_cons, List.length_drop]
      rfl
    rw [hthrough]
    exact ⟨rfl, Or.inr rfl⟩
  · rename_i hnone
    rw [through_code]
    · exact ⟨rfl, Or.inl rfl⟩
    · rw [Text.findPair_append_end _ _ _ _ hnext (by decide), hblock]
    · rw [Text.findPair_append_end _ _ _ _ hnext (by decide), hnone]

end Mask

/-! ## The marks of a line -/

namespace LineStrip

/-- The line has at most one mark that opens a block comment, and no line comment before that. -/
structure Plain (line : Text) : Prop where
  one : ∀ i < line.length, ∀ j < line.length,
    ['/', '*'] <+: line.drop i → ['/', '*'] <+: line.drop j → i = j
  first : ∀ i < line.length, ∀ j < line.length,
    ['/', '/'] <+: line.drop i → ['/', '*'] <+: line.drop j → ¬ i < j

instance (line : Text) : Decidable (Plain line) :=
  have : Decidable (∀ i < line.length, ∀ j < line.length,
    ['/', '*'] <+: line.drop i → ['/', '*'] <+: line.drop j → i = j) := inferInstance
  have : Decidable (∀ i < line.length, ∀ j < line.length,
    ['/', '/'] <+: line.drop i → ['/', '*'] <+: line.drop j → ¬ i < j) := inferInstance
  decidable_of_iff _ ⟨fun h => ⟨h.1, h.2⟩, fun h => And.intro h.one h.first⟩

namespace Plain

theorem lt_length (a b : Char) (line : Text) (i : Nat) (h : [a, b] <+: line.drop i) : i < line.length := by
  have hlen := h.length_le
  simp only [List.length_cons, List.length_nil, List.length_drop] at hlen
  omega

theorem drop {line : Text} (h : Plain line) (n : Nat) : Plain (line.drop n) := by
  refine ⟨fun i _ j _ hi hj => ?_, fun i _ j _ hi hj => ?_⟩
  · rw [List.drop_drop] at hi hj
    have := h.one _ (lt_length _ _ _ _ hi) _ (lt_length _ _ _ _ hj) hi hj
    omega
  · rw [List.drop_drop] at hi hj
    have := h.first _ (lt_length _ _ _ _ hi) _ (lt_length _ _ _ _ hj) hi hj
    omega

theorem findPair_block {line : Text} (h : Plain line) {start n : Nat}
    (hstart : Text.findPair '/' '*' line = some start) (hn : start < n) :
    Text.findPair '/' '*' (line.drop n) = none := by
  have hpair := ((Text.findPair_eq_some_iff _ _ _ _).mp hstart).1
  rw [Text.findPair_eq_none_iff]
  intro i hi
  rw [List.drop_drop] at hi
  have := h.one _ (lt_length _ _ _ _ hi) _ (lt_length _ _ _ _ hpair) hi hpair
  omega

theorem findPair_line {line : Text} (h : Plain line) {start : Nat}
    (hstart : Text.findPair '/' '*' line = some start) :
    Text.findPair '/' '/' (line.take (start + 1)) = none := by
  have hpair := ((Text.findPair_eq_some_iff _ _ _ _).mp hstart).1
  rw [Text.findPair_eq_none_iff]
  intro i hi
  have hlen := hi.length_le
  simp only [List.length_cons, List.length_nil, List.length_drop, List.length_take] at hlen
  have hslashes := Text.isPrefix_drop_of_take _ _ _ _ hi
  have := h.first _ (lt_length _ _ _ _ hslashes) _ (lt_length _ _ _ _ hpair) hslashes hpair
  omega

end Plain

/-! ## A line in both -/

/-- The region of the masker that the flag stands for, at the start of a line. -/
def lineStart (inBlock : Bool) : Region := if inBlock then .blockComment else .code

/-- A region in which a line can end, if the flag is `inBlock` behind it. -/
def AtEnd (inBlock : Bool) (region : Region) : Prop :=
  if inBlock then region = .blockComment else region = .code ∨ region = .lineComment

theorem step_newline {inBlock : Bool} {region : Region} (next : Option Char) (h : AtEnd inBlock region) :
    Mask.step false region '\n' next = ('\n', lineStart inBlock) := by
  cases inBlock with
  | true =>
    obtain rfl : region = .blockComment := h
    simp [Mask.step, Mask.blanked, lineStart]
  | false =>
    rcases (h : region = .code ∨ region = .lineComment) with rfl | rfl
    · simp [Mask.step, lineStart]
    · simp [Mask.step, lineStart]

/-- The masker makes of the line what the stripper makes of it, and behind it both are inside or both
outside block comments. -/
def Agrees (inBlock : Bool) (line : Text) (next : Option Char) : Prop :=
  (Mask.through false next (lineStart inBlock) line).1 = (stripLine inBlock line).text ∧
    AtEnd (stripLine inBlock line).inBlock (Mask.through false next (lineStart inBlock) line).2

theorem agrees_outside (line : Text) (next : Option Char) (hplain : Plain line) (h : '\n' ∉ line)
    (hnext : ∀ c ∈ next, c = '\n') : Agrees false line next := by
  show (Mask.through false next .code line).1 = stripRest (stripBlock line).1 ∧
    AtEnd (stripBlock line).2 (Mask.through false next .code line).2
  unfold stripBlock
  split
  · rename_i hnone
    exact Mask.through_code_line next line hnext h hnone
  · rename_i start hstart
    have hlen := Text.findPair_lt _ _ _ _ hstart
    have hslashes := hplain.findPair_line hstart
    have hfrontSlashes : Text.findPair '/' '/' (line.take start) = none := by
      have := Text.findPair_take_of_none _ _ _ start hslashes
      rwa [List.take_take, Nat.min_eq_left (Nat.le_succ start)] at this
    have hbody := Mask.through_blockComment_line next (line.drop (start + 2)) hnext
      fun hmem => h (List.mem_of_mem_drop hmem)
    rw [Mask.through_code_block next line start hstart hslashes]
    cases hclose : Text.findPair '*' '/' (line.drop (start + 2)) with
    | none =>
      simp only [hclose] at hbody ⊢
      have hcount : line.length - start = (line.drop (start + 2)).length + 1 + 1 := by
        rw [List.length_drop]
        omega
      have hrest := stripRest_append_blank (line.take start) [] ((line.drop (start + 2)).length + 1)
        hfrontSlashes
      rw [List.append_nil] at hrest
      rw [hbody, hcount, hrest]
      exact ⟨by simp [stripRest, Text.findPair, Text.blank, List.replicate_succ], rfl⟩
    | some n =>
      simp only [hclose] at hbody ⊢
      have hcode := Mask.through_code_line next (line.drop (start + n + 4)) hnext
        (fun hmem => h (List.mem_of_mem_drop hmem)) (hplain.findPair_block hstart (by omega))
      have hdrop : (line.drop (start + 2)).drop (n + 2) = line.drop (start + n + 4) := by
        rw [List.drop_drop]
        congr 1
        omega
      rw [hbody, hdrop, stripRest_append_blank _ _ _ hfrontSlashes, hcode.1]
      exact ⟨by simp [Text.blank, List.replicate_succ], hcode.2⟩

theorem agrees_carried (line : Text) (next : Option Char) (hplain : Plain line) (h : '\n' ∉ line)
    (hnext : ∀ c ∈ next, c = '\n') : Agrees true line next := by
  have hthrough := Mask.through_blockComment_line next line hnext h
  show (Mask.through false next .blockComment line).1 = (stripLine true line).text ∧
    AtEnd (stripLine true line).inBlock (Mask.through false next .blockComment line).2
  cases hclose : Text.findPair '*' '/' line with
  | none =>
    rw [hclose] at hthrough
    rw [stripLine_carried_open line hclose, hthrough]
    exact ⟨rfl, rfl⟩
  | some n =>
    rw [hclose] at hthrough
    rw [stripLine_carried_closed line n hclose, hthrough]
    obtain ⟨himage, hend⟩ := agrees_outside (line.drop (n + 2)) next (hplain.drop (n + 2))
      (fun hmem => h (List.mem_of_mem_drop hmem)) hnext
    exact ⟨congrArg (Text.blank (n + 2) ++ ·) himage, hend⟩

theorem agrees (inBlock : Bool) (line : Text) (next : Option Char) (hplain : Plain line)
    (h : '\n' ∉ line) (hnext : ∀ c ∈ next, c = '\n') : Agrees inBlock line next := by
  cases inBlock with
  | false => exact agrees_outside line next hplain h hnext
  | true => exact agrees_carried line next hplain h hnext

end LineStrip

/-! ## All lines of a text -/

namespace LineIndex

theorem startsFrom_add (pos n : Nat) (text : Text) :
    startsFrom (pos + n) text = (startsFrom pos text).map (· + n) := by
  induction text generalizing pos with
  | nil => rfl
  | cons c cs ih =>
    have hrest := ih (pos + 1)
    rw [Nat.add_right_comm] at hrest
    rw [startsFrom, startsFrom, hrest]
    split
    · rw [List.map_cons, Nat.add_right_comm]
    · rfl

theorem startsFrom_append (pos : Nat) (line rest : Text) (h : '\n' ∉ line) :
    startsFrom pos (line ++ rest) = startsFrom (pos + line.length) rest := by
  induction line generalizing pos with
  | nil => rfl
  | cons c cs ih =>
    rw [List.mem_cons, not_or] at h
    rw [List.cons_append, startsFrom, if_neg (by simpa using Ne.symm h.1), ih (pos + 1) h.2,
      List.length_cons, Nat.add_right_comm, Nat.add_assoc]

theorem starts_line (line : Text) (h : '\n' ∉ line) : (ofText line).starts = [0] := by
  have hstarts := startsFrom_append 0 line [] h
  rw [List.append_nil] at hstarts
  rw [ofText, hstarts]
  rfl

theorem starts_line_append (line rest : Text) (h : '\n' ∉ line) :
    (ofText (line ++ '\n' :: rest)).starts = 0 :: (ofText rest).starts.map (line.length + 1 + ·) := by
  have hstarts : startsFrom 0 (line ++ '\n' :: rest) =
      (line.length + 1) :: startsFrom (line.length + 1) rest := by
    rw [startsFrom_append 0 line _ h, Nat.zero_add, startsFrom]
    rfl
  have hrest := startsFrom_add 0 (line.length + 1) rest
  rw [Nat.zero_add] at hrest
  simp only [ofText, hstarts, hrest, List.map_cons, Nat.add_comm (line.length + 1),
    Nat.zero_add]

end LineIndex

namespace LineStrip

/-- Whether the masker is inside a block comment at the start of each line of a text that starts in
`region`. -/
def blockStarts (region : Region) (text : Text) : List Bool :=
  (LineIndex.ofText text).starts.map fun start =>
    (Mask.regions false region text)[start]? == some .blockComment

@[simp] theorem head_blockStarts (inBlock : Bool) (text : Text) :
    ((Mask.regions false (lineStart inBlock) text)[0]? == some .blockComment) = inBlock := by
  have hregion : (Mask.regions false (lineStart inBlock) text)[0]? = some (lineStart inBlock) := by
    cases text <;> rfl
  rw [hregion]
  cases inBlock <;> rfl

theorem blockStarts_append (inBlock : Bool) (line rest : Text) (hplain : Plain line)
    (h : '\n' ∉ line) :
    blockStarts (lineStart inBlock) (line ++ '\n' :: rest) =
      inBlock :: blockStarts (lineStart (stripLine inBlock line).inBlock) rest := by
  obtain ⟨-, hend⟩ := agrees inBlock line (some '\n') hplain h (by simp)
  have hregions : ∀ i, (Mask.regions false (lineStart inBlock) (line ++ '\n' :: rest))[line.length + 1 + i]? =
      (Mask.regions false (lineStart (stripLine inBlock line).inBlock) rest)[i]? := by
    intro i
    rw [Nat.add_assoc, Mask.regions_append, List.head?_cons, Mask.regions, step_newline _ hend,
      Nat.add_comm 1 i, List.getElem?_cons_succ]
  unfold blockStarts
  rw [LineIndex.starts_line_append line rest h, List.map_cons, List.map_map, head_blockStarts]
  congr 1
  apply List.map_congr_left
  intro start _
  simp only [Function.comp_apply, hregions]

theorem run_append_line (inBlock : Bool) (line rest : Text) (hplain : Plain line) (h : '\n' ∉ line) :
    Mask.run false (lineStart inBlock) (line ++ '\n' :: rest) =
      (stripLine inBlock line).text ++
        '\n' :: Mask.run false (lineStart (stripLine inBlock line).inBlock) rest := by
  obtain ⟨himage, hend⟩ := agrees inBlock line (some '\n') hplain h (by simp)
  rw [Mask.run_append, List.head?_cons, himage, Mask.run, step_newline _ hend]

theorem run_last_line (inBlock : Bool) (line : Text) (hplain : Plain line) (h : '\n' ∉ line) :
    Mask.run false (lineStart inBlock) line = (stripLine inBlock line).text := by
  obtain ⟨himage, -⟩ := agrees inBlock line none hplain h (by simp)
  have happend := Mask.run_append false (lineStart inBlock) line []
  rwa [List.append_nil, List.head?_nil, himage, Mask.run, List.append_nil] at happend

theorem stripLines_eq_run (inBlock : Bool) (line : Text) (rest : List Text)
    (hplain : ∀ l ∈ line :: rest, Plain l) (h : ∀ l ∈ line :: rest, '\n' ∉ l) :
    Text.join ['\n'] ((stripLines inBlock (line :: rest)).map LineStrip.text) =
        Mask.run false (lineStart inBlock) (Text.join ['\n'] (line :: rest)) ∧
      (stripLines inBlock (line :: rest)).map LineStrip.startedInBlock =
        blockStarts (lineStart inBlock) (Text.join ['\n'] (line :: rest)) := by
  have hline := hplain line (by simp)
  have hnewline := h line (by simp)
  induction rest generalizing inBlock line with
  | nil =>
    refine ⟨(run_last_line inBlock line hline hnewline).symm, ?_⟩
    simp only [blockStarts, Text.join, LineIndex.starts_line line hnewline, List.map_cons, List.map_nil,
      head_blockStarts]
    rfl
  | cons second rest ih =>
    obtain ⟨htexts, hflags⟩ := ih (stripLine inBlock line).inBlock second
      (fun l hl => hplain l (by simp [hl])) (fun l hl => h l (by simp [hl]))
      (hplain second (by simp)) (h second (by simp))
    have hjoin : Text.join ['\n'] (line :: second :: rest) =
        line ++ '\n' :: Text.join ['\n'] (second :: rest) := by
      rw [Text.join_cons_of_ne_nil _ _ _ (by simp), List.append_assoc]
      rfl
    rw [hjoin, run_append_line inBlock line _ hline hnewline,
      blockStarts_append inBlock line _ hline hnewline, ← htexts, ← hflags]
    refine ⟨?_, rfl⟩
    rw [stripLines, List.map_cons, Text.join_cons_of_ne_nil _ _ _ (by simp [stripLines]),
      List.append_assoc]
    rfl

end LineStrip

/-- Where each line has at most one mark that opens a block comment, and no line comment before it,
the lines that are stripped one after the other make up the text without its comments. The flag
before a line is whether the masker is inside a block comment where the line starts. -/
theorem stripLines_eq_maskComments (text : Text) (h : ∀ line ∈ text.lines, LineStrip.Plain line) :
    Text.join ['\n'] ((stripLines false text.lines).map LineStrip.text) = maskComments text ∧
      (stripLines false text.lines).map LineStrip.startedInBlock =
        (LineIndex.ofText text).starts.map fun start =>
          (Mask.regions false .code text)[start]? == some .blockComment := by
  have hnewline : ∀ line ∈ text.lines, '\n' ∉ line := Text.sep_not_mem_of_mem_splitOn '\n' text
  obtain ⟨line, rest, hlines⟩ := List.exists_cons_of_ne_nil (Text.splitOn_ne_nil '\n' text)
  rw [← Text.lines] at hlines
  have hjoin := Text.join_lines text
  rw [hlines] at h hnewline hjoin ⊢
  obtain ⟨htexts, hflags⟩ := LineStrip.stripLines_eq_run false line rest h hnewline
  rw [hjoin] at htexts hflags
  exact ⟨htexts, hflags⟩

/-- A comment that is closed and another that opens on the same line, marks that overlap, and a line
comment behind a block comment. -/
theorem stripLines_overlapping_marks :
    let text : Text := "a /* b // c\n*/*d // e\n/*/ f */// g\n*/ h /* i".toList
    (∀ line ∈ text.lines, LineStrip.Plain line) ∧
      Text.join ['\n'] ((stripLines false text.lines).map LineStrip.text) = maskComments text ∧
      (stripLines false text.lines).map LineStrip.startedInBlock = [false, true, false, false] ∧
      (stripLines false text.lines).map LineStrip.startedInBlock =
        (LineIndex.ofText text).starts.map fun start =>
          (Mask.regions false .code text)[start]? == some .blockComment := by
  intro text
  have hplain : ∀ line ∈ text.lines, LineStrip.Plain line := by decide +kernel
  obtain ⟨htexts, hflags⟩ := stripLines_eq_maskComments text hplain
  exact ⟨hplain, htexts, by decide +kernel, hflags⟩

end ScadAdvisor
