import ScadAdvisor.Proofs.Mask

/-!
# The lexemes of a source

A text falls apart, from left to right, into comments, strings and single characters. Masking is
what it does to each of these by itself.
-/

namespace ScadAdvisor

/-! ## The grammar -/

inductive StringUnit where
  | escaped (c : Char)
  | plain (c : Char)
deriving DecidableEq, Repr

namespace StringUnit

def source : StringUnit → Text
  | .escaped c => ['\\', c]
  | .plain c => [c]

def image : StringUnit → Text
  | .escaped _ => [' ', ' ']
  | .plain c => [Mask.blanked c]

/-- Whether units can stand in a string before `after`. A quote would end the string, and a backslash
stands by itself only as the last character of the text. -/
def Fit (quote : Char) (after : Text) : List StringUnit → Prop
  | [] => True
  | .escaped _ :: units => Fit quote after units
  | .plain c :: units => c ≠ quote ∧ (c = '\\' → units = [] ∧ after = []) ∧ Fit quote after units

end StringUnit

inductive Lexeme where
  | block (body : Text) (closed : Bool)
  | line (body : Text)
  | string (quote : Char) (units : List StringUnit) (closed : Bool)
  | other (c : Char)
deriving DecidableEq, Repr

namespace Lexeme

def source : Lexeme → Text
  | .block body closed => '/' :: '*' :: (body ++ if closed then ['*', '/'] else [])
  | .line body => '/' :: '/' :: body
  | .string quote units closed =>
    quote :: (units.flatMap StringUnit.source ++ if closed then [quote] else [])
  | .other c => [c]

/-- What masking makes of a lexeme: newlines stay, except those that are escaped in a string. -/
def image : Lexeme → Text
  | .block body closed => (source (.block body closed)).map Mask.blanked
  | .line body => (source (.line body)).map Mask.blanked
  | .string _ units closed => ' ' :: (units.flatMap StringUnit.image ++ if closed then [' '] else [])
  | .other c => [c]

def Fits (strings : Bool) (rest : Text) : Lexeme → Prop
  -- It ends with the first end mark behind its opening, or there is none.
  | .block body true => Text.findPair '*' '/' (body ++ '*' :: '/' :: rest) = some body.length
  | .block body false => Text.findPair '*' '/' body = none ∧ rest = []
  | .line body => '\n' ∉ body ∧ ∀ c ∈ rest.head?, c = '\n'
  | .string quote units true =>
    strings = true ∧ Mask.isQuote quote = true ∧ StringUnit.Fit quote (quote :: rest) units
  | .string quote units false =>
    strings = true ∧ Mask.isQuote quote = true ∧ StringUnit.Fit quote [] units ∧ rest = []
  | .other c =>
    ¬ ['/', '*'] <+: c :: rest ∧ ¬ ['/', '/'] <+: c :: rest ∧ ¬ (strings = true ∧ Mask.isQuote c = true)

end Lexeme

/-- The decomposition of a text into lexemes. -/
inductive Lexes (strings : Bool) : Text → List Lexeme → Prop where
  | nil : Lexes strings [] []
  | cons (lexeme : Lexeme) (rest : Text) (lexemes : List Lexeme) (h : lexeme.Fits strings rest)
      (hrest : Lexes strings rest lexemes) : Lexes strings (lexeme.source ++ rest) (lexeme :: lexemes)

/-! ## Masking lexeme by lexeme -/

namespace Mask

theorem run_blockComment (strings : Bool) (body after : Text)
    (h : ∀ n ∈ Text.findPair '*' '/' (body ++ after), body.length ≤ n) :
    run strings .blockComment (body ++ after) =
      body.map blanked ++ run strings .blockComment after := by
  induction body with
  | nil => rfl
  | cons c cs ih =>
    rw [List.cons_append, Text.findPair] at h
    split at h
    · exact absurd (h 0 rfl) (by simp)
    · rename_i hpair
      have hstep : step strings .blockComment c (cs ++ after).head? = (blanked c, .blockComment) := by
        simp only [step]
        rw [if_neg hpair]
      have hcs : ∀ n ∈ Text.findPair '*' '/' (cs ++ after), cs.length ≤ n := by
        intro n hn
        have := h (n + 1) (Option.mem_map_of_mem (· + 1) hn)
        simpa using this
      rw [List.cons_append, run, hstep, ih hcs]
      rfl

theorem run_lineComment (strings : Bool) (body after : Text) (h : '\n' ∉ body) :
    run strings .lineComment (body ++ after) =
      body.map blanked ++ run strings .lineComment after := by
  induction body with
  | nil => rfl
  | cons c cs ih =>
    rw [List.mem_cons, not_or] at h
    have hc : ¬ (c == '\n') = true := by simpa using Ne.symm h.1
    have hstep : step strings .lineComment c (cs ++ after).head? = (blanked c, .lineComment) := by
      simp only [step, blanked]
      rw [if_neg hc, if_neg hc]
    rw [List.cons_append, run, hstep, ih h.2]
    rfl

theorem run_lineComment_end (strings : Bool) (rest : Text) (h : ∀ c ∈ rest.head?, c = '\n') :
    run strings .lineComment rest = run strings .code rest := by
  cases rest with
  | nil => rfl
  | cons c cs =>
    obtain rfl : c = '\n' := h c rfl
    have hcode : step strings .code '\n' cs.head? = ('\n', .code) := by simp [step, isQuote]
    rw [run, run, hcode]
    rfl

theorem run_string (strings : Bool) (quote : Char) (units : List StringUnit) (after : Text)
    (h : StringUnit.Fit quote after units) :
    run strings (.string quote) (units.flatMap StringUnit.source ++ after) =
      units.flatMap StringUnit.image ++ run strings (.string quote) after := by
  induction units with
  | nil => rfl
  | cons unit units ih =>
    cases unit with
    | escaped c =>
      have hrest := ih h
      rw [List.flatMap_cons, List.append_assoc, StringUnit.source]
      show run strings (.string quote) ('\\' :: c :: (units.flatMap StringUnit.source ++ after)) = _
      -- The machine takes two steps here, and leaves the escape whatever the character is.
      have hslash : step strings (.string quote) '\\' (some c) = (' ', .escape quote) := by simp [step]
      rw [run, List.head?_cons, hslash, run, step, hrest]
      rfl
    | plain c =>
      obtain ⟨hquote, hlast, hunits⟩ := h
      have hrest := ih hunits
      rw [List.flatMap_cons, List.append_assoc, StringUnit.source]
      show run strings (.string quote) (c :: (units.flatMap StringUnit.source ++ after)) = _
      have hstep : step strings (.string quote) c (units.flatMap StringUnit.source ++ after).head? =
          (blanked c, .string quote) := by
        simp only [step]
        rw [if_neg, if_neg (by simpa using hquote)]
        -- A plain backslash is the last character, so it has nothing to escape.
        intro hslash
        rw [Bool.and_eq_true, beq_iff_eq] at hslash
        obtain ⟨rfl, rfl⟩ := hlast hslash.1
        simp at hslash
      rw [run, hstep, hrest]
      rfl

@[simp] theorem run_block_opening (strings : Bool) (text : Text) :
    run strings .code ('/' :: '*' :: text) = ' ' :: ' ' :: run strings .blockComment text := by
  have hopen : step strings .code '/' (some '*') = (' ', .blockOpening) := by simp [step]
  rw [run, List.head?_cons, hopen, run, step]

@[simp] theorem run_block_closing (strings : Bool) (rest : Text) :
    run strings .blockComment ('*' :: '/' :: rest) = ' ' :: ' ' :: run strings .code rest := by
  have hclose : step strings .blockComment '*' (some '/') = (' ', .blockClosing) := by simp [step]
  rw [run, List.head?_cons, hclose, run, step]

theorem run_block (strings : Bool) (body rest : Text) (closed : Bool)
    (h : (Lexeme.block body closed).Fits strings rest) :
    run strings .code ((Lexeme.block body closed).source ++ rest) =
      (Lexeme.block body closed).image ++ run strings .code rest := by
  have hslash : blanked '/' = ' ' := rfl
  have hstar : blanked '*' = ' ' := rfl
  cases closed with
  | true =>
    have hbody : ∀ n ∈ Text.findPair '*' '/' (body ++ '*' :: '/' :: rest), body.length ≤ n := by
      intro n hn
      rw [Lexeme.Fits] at h
      rw [h, Option.mem_some_iff] at hn
      exact Nat.le_of_eq hn
    simp only [Lexeme.source, Lexeme.image, if_true, List.cons_append, List.append_assoc,
      List.nil_append, List.map_cons, List.map_append, List.map_nil, hslash, hstar]
    rw [run_block_opening, run_blockComment strings body _ hbody, run_block_closing]
  | false =>
    obtain ⟨hnone, rfl⟩ := h
    have hbody : ∀ n ∈ Text.findPair '*' '/' (body ++ []), body.length ≤ n := by
      simp [hnone]
    have hrun := run_blockComment strings body [] hbody
    simp only [Lexeme.source, Lexeme.image, Bool.false_eq_true, if_false, List.cons_append,
      List.map_cons, hslash, hstar, List.append_nil] at hrun ⊢
    rw [run_block_opening, hrun]
    simp [run]

theorem run_line (strings : Bool) (body rest : Text) (h : (Lexeme.line body).Fits strings rest) :
    run strings .code ((Lexeme.line body).source ++ rest) =
      (Lexeme.line body).image ++ run strings .code rest := by
  obtain ⟨hbody, hrest⟩ := h
  have hopen : step strings .code '/' (some '/') = (' ', .lineComment) := by simp [step]
  have hslash : blanked '/' = ' ' := rfl
  have hnewline : '\n' ∉ '/' :: body := by simpa using hbody
  simp only [Lexeme.source, Lexeme.image, List.cons_append, List.map_cons, hslash]
  rw [run, List.head?_cons, hopen]
  -- The second slash is already inside the comment.
  have hrun := run_lineComment strings ('/' :: body) rest hnewline
  rw [List.cons_append, run_lineComment_end strings rest hrest] at hrun
  rw [hrun]
  rfl

theorem isQuote_iff (c : Char) : isQuote c = true ↔ c = '"' ∨ c = '\'' := by simp [isQuote]

theorem run_string_opening (quote : Char) (text : Text) (h : isQuote quote = true) :
    run true .code (quote :: text) = ' ' :: run true (.string quote) text := by
  have hslash : quote ≠ '/' := by
    rcases (isQuote_iff quote).mp h with rfl | rfl <;> decide
  have hopen : step true .code quote text.head? = (' ', .string quote) := by simp [step, hslash, h]
  rw [run, hopen]

theorem run_string_closing (quote : Char) (rest : Text) (h : isQuote quote = true) :
    run true (.string quote) (quote :: rest) = ' ' :: run true .code rest := by
  have hclose : step true (.string quote) quote rest.head? = (' ', .code) := by
    rcases (isQuote_iff quote).mp h with rfl | rfl <;> simp [step, blanked]
  rw [run, hclose]

theorem run_string_lexeme (strings : Bool) (quote : Char) (units : List StringUnit) (rest : Text)
    (closed : Bool) (h : (Lexeme.string quote units closed).Fits strings rest) :
    run strings .code ((Lexeme.string quote units closed).source ++ rest) =
      (Lexeme.string quote units closed).image ++ run strings .code rest := by
  cases closed with
  | true =>
    obtain ⟨rfl, hquote, hunits⟩ := h
    have hrun := run_string true quote units (quote :: rest) hunits
    simp only [Lexeme.source, Lexeme.image, if_true, List.cons_append, List.append_assoc,
      List.nil_append]
    rw [run_string_opening quote _ hquote, hrun, run_string_closing quote rest hquote]
  | false =>
    obtain ⟨rfl, hquote, hunits, rfl⟩ := h
    have hrun := run_string true quote units [] hunits
    simp only [Lexeme.source, Lexeme.image, Bool.false_eq_true, if_false, List.cons_append,
      List.append_nil] at hrun ⊢
    rw [run_string_opening quote _ hquote, hrun]
    simp [run]

theorem run_other (strings : Bool) (c : Char) (rest : Text) (h : (Lexeme.other c).Fits strings rest) :
    run strings .code ((Lexeme.other c).source ++ rest) =
      (Lexeme.other c).image ++ run strings .code rest := by
  obtain ⟨hblock, hline, hstring⟩ := h
  have hstep : step strings .code c rest.head? = (c, .code) := by
    rw [Text.pair_isPrefix_iff] at hblock hline
    rw [← Bool.and_eq_true] at hstring
    simp only [step]
    rw [if_neg hblock, if_neg hline, if_neg hstring]
  simp only [Lexeme.source, Lexeme.image, List.cons_append, List.nil_append]
  rw [run, hstep]

theorem run_lexeme (strings : Bool) (lexeme : Lexeme) (rest : Text) (h : lexeme.Fits strings rest) :
    run strings .code (lexeme.source ++ rest) = lexeme.image ++ run strings .code rest := by
  cases lexeme with
  | block body closed => exact run_block strings body rest closed h
  | line body => exact run_line strings body rest h
  | string quote units closed => exact run_string_lexeme strings quote units rest closed h
  | other c => exact run_other strings c rest h

theorem run_lexes (strings : Bool) (text : Text) (lexemes : List Lexeme)
    (h : Lexes strings text lexemes) : run strings .code text = lexemes.flatMap Lexeme.image := by
  induction h with
  | nil => rfl
  | cons lexeme rest lexemes hfits _ ih => rw [run_lexeme strings lexeme rest hfits, ih, List.flatMap_cons]

end Mask

/-! ## Reading a text -/

namespace StringUnit

/-- The units up to the quote that ends the string, and what follows them. -/
def split (quote : Char) : Text → List StringUnit × Text
  | [] => ([], [])
  | [c] => if c = quote then ([], [c]) else ([.plain c], [])
  | c :: d :: cs =>
    if c = '\\' then (.escaped d :: (split quote cs).1, (split quote cs).2)
    else if c = quote then ([], c :: d :: cs)
    else (.plain c :: (split quote (d :: cs)).1, (split quote (d :: cs)).2)

theorem split_spec (quote : Char) (text : Text) :
    (split quote text).1.flatMap source ++ (split quote text).2 = text ∧
      Fit quote (split quote text).2 (split quote text).1 ∧ ∀ c ∈ (split quote text).2.head?, c = quote := by
  fun_induction split quote text with
  | case1 => simp [Fit]
  | case2 => simp [Fit]
  | case3 c hc => simp [Fit, hc, source]
  | case4 c cs ih => simpa [Fit, source] using ih
  | case5 => simp [Fit]
  | case6 c d cs hslash hc ih => simpa [Fit, source, hc, hslash] using ih

theorem split_eq (quote : Char) (units : List StringUnit) (after : Text) (hquote : quote ≠ '\\')
    (h : Fit quote after units) (hafter : ∀ c ∈ after.head?, c = quote) :
    split quote (units.flatMap source ++ after) = (units, after) := by
  induction units with
  | nil =>
    rcases after with _ | ⟨c, _ | ⟨d, cs⟩⟩
    · rfl
    · simp [split, hafter c rfl]
    · simp [split, hafter c rfl, hquote]
  | cons unit units ih =>
    cases unit with
    | escaped c =>
      have hrest := ih h
      simp only [List.flatMap_cons, source, List.cons_append, List.nil_append]
      rw [split, if_pos rfl, hrest]
    | plain c =>
      obtain ⟨hc, hlast, hunits⟩ := h
      have hrest := ih hunits
      simp only [List.flatMap_cons, source, List.cons_append, List.nil_append]
      -- `split` looks one character ahead, and only a backslash may stand at the end.
      cases htail : units.flatMap source ++ after with
      | nil =>
        rw [htail, split] at hrest
        cases hrest
        rw [split, if_neg hc]
      | cons d cs =>
        have hslash : c ≠ '\\' := by
          intro hslash
          obtain ⟨rfl, rfl⟩ := hlast hslash
          cases htail
        rw [htail] at hrest
        rw [split, if_neg hslash, if_neg hc, hrest]

end StringUnit

namespace Lexeme

/-- The lexeme at the start of a text, and the rest. -/
def next (strings : Bool) (c : Char) (cs : Text) : Lexeme × Text :=
  if ['/', '*'] <+: c :: cs then
    match Text.findPair '*' '/' cs.tail with
    | some n => (.block (cs.tail.take n) true, cs.tail.drop (n + 2))
    | none => (.block cs.tail false, [])
  else if ['/', '/'] <+: c :: cs then
    (.line (cs.tail.takeWhile (· != '\n')), cs.tail.dropWhile (· != '\n'))
  else if strings = true ∧ Mask.isQuote c = true then
    match StringUnit.split c cs with
    | (units, []) => (.string c units false, [])
    | (units, _ :: rest) => (.string c units true, rest)
  else (.other c, cs)

def Starts (strings : Bool) (text : Text) (read : Lexeme × Text) : Prop :=
  read.1.source ++ read.2 = text ∧ read.1.Fits strings read.2

theorem next_block (strings : Bool) (text : Text) :
    next strings '/' ('*' :: text) =
      match Text.findPair '*' '/' text with
      | some n => (.block (text.take n) true, text.drop (n + 2))
      | none => (.block text false, []) := by
  rw [next, if_pos (by simp)]
  rfl

theorem next_line (strings : Bool) (text : Text) :
    next strings '/' ('/' :: text) =
      (.line (text.takeWhile (· != '\n')), text.dropWhile (· != '\n')) := by
  rw [next, if_neg (by simp), if_pos (by simp)]
  rfl

theorem next_string (quote : Char) (text : Text) (h : Mask.isQuote quote = true) :
    next true quote text =
      match StringUnit.split quote text with
      | (units, []) => (.string quote units false, [])
      | (units, _ :: rest) => (.string quote units true, rest) := by
  have hslash : '/' ≠ quote := by
    rcases (Mask.isQuote_iff quote).mp h with rfl | rfl <;> decide
  rw [next, if_neg (by simp [List.cons_prefix_cons, hslash]),
    if_neg (by simp [List.cons_prefix_cons, hslash]), if_pos ⟨rfl, h⟩]

theorem starts_block (strings : Bool) (text : Text) :
    Starts strings ('/' :: '*' :: text) (next strings '/' ('*' :: text)) := by
  rw [next_block]
  split
  · rename_i n hn
    have hsplit := Text.findPair_split '*' '/' text n hn
    have hlen : (text.take n).length = n := by
      have := Text.findPair_lt _ _ _ _ hn
      simp; omega
    constructor
    · simp only [source, if_true, List.cons_append, List.append_assoc, List.nil_append]
      rw [← hsplit]
    · rw [Fits, ← hsplit, hn, hlen]
  · rename_i hnone
    exact ⟨by simp [source], hnone, rfl⟩

theorem starts_line (strings : Bool) (text : Text) :
    Starts strings ('/' :: '/' :: text) (next strings '/' ('/' :: text)) := by
  rw [next_line]
  refine ⟨?_, ?_, ?_⟩
  · simp only [source, List.cons_append, List.takeWhile_append_dropWhile]
  · intro hmem
    have := List.all_eq_true.mp List.all_takeWhile '\n' hmem
    simp at this
  · intro c hc
    have := List.head?_dropWhile_not (· != '\n') text
    rw [Option.mem_def.mp hc] at this
    simpa using this

theorem starts_string (quote : Char) (text : Text) (h : Mask.isQuote quote = true) :
    Starts true (quote :: text) (next true quote text) := by
  obtain ⟨hsource, hfit, hhead⟩ := StringUnit.split_spec quote text
  rw [next_string quote text h]
  split
  · rename_i units hsplit
    simp only [hsplit] at hsource hfit
    exact ⟨by simpa [source] using hsource, rfl, h, hfit, rfl⟩
  · rename_i units c rest hsplit
    simp only [hsplit] at hsource hfit hhead
    obtain rfl : c = quote := hhead c rfl
    exact ⟨by simpa [source] using hsource, rfl, h, hfit⟩

theorem starts_next (strings : Bool) (c : Char) (cs : Text) :
    Starts strings (c :: cs) (next strings c cs) := by
  by_cases hblock : ['/', '*'] <+: c :: cs
  · obtain ⟨text, htext⟩ := hblock
    cases htext
    exact starts_block strings text
  · by_cases hline : ['/', '/'] <+: c :: cs
    · obtain ⟨text, htext⟩ := hline
      cases htext
      exact starts_line strings text
    · by_cases hstring : strings = true ∧ Mask.isQuote c = true
      · obtain ⟨rfl, hquote⟩ := hstring
        exact starts_string c cs hquote
      · rw [next, if_neg hblock, if_neg hline, if_neg hstring]
        exact ⟨rfl, hblock, hline, hstring⟩

theorem next_block_eq (strings : Bool) (body rest : Text) (closed : Bool)
    (h : (Lexeme.block body closed).Fits strings rest) :
    next strings '/' ('*' :: (body ++ (if closed then ['*', '/'] else []) ++ rest)) =
      (.block body closed, rest) := by
  rw [next_block]
  cases closed with
  | true =>
    rw [Fits] at h
    simp only [if_true, List.append_assoc, List.cons_append, List.nil_append, h, List.take_left,
      List.drop_append]
    simp
  | false =>
    obtain ⟨hnone, rfl⟩ := h
    simp only [Bool.false_eq_true, if_false, List.append_nil, hnone]

theorem next_line_eq (strings : Bool) (body rest : Text) (h : (Lexeme.line body).Fits strings rest) :
    next strings '/' ('/' :: (body ++ rest)) = (.line body, rest) := by
  obtain ⟨hbody, hrest⟩ := h
  have hall : ∀ c ∈ body, (c != '\n') = true := by
    intro c hc
    rw [bne_iff_ne]
    rintro rfl
    exact hbody hc
  have hstop : rest.takeWhile (· != '\n') = [] ∧ rest.dropWhile (· != '\n') = rest := by
    cases rest with
    | nil => exact ⟨rfl, rfl⟩
    | cons c cs =>
      obtain rfl : c = '\n' := hrest c rfl
      exact ⟨rfl, rfl⟩
  rw [next_line, List.takeWhile_append_of_pos hall, List.dropWhile_append_of_pos hall, hstop.1, hstop.2,
    List.append_nil]

theorem next_string_eq (strings : Bool) (quote : Char) (units : List StringUnit) (rest : Text)
    (closed : Bool) (h : (Lexeme.string quote units closed).Fits strings rest) :
    next strings quote
        (units.flatMap StringUnit.source ++ (if closed then [quote] else []) ++ rest) =
      (.string quote units closed, rest) := by
  have hslash (hquote : Mask.isQuote quote = true) : quote ≠ '\\' := by
    rcases (Mask.isQuote_iff quote).mp hquote with rfl | rfl <;> decide
  cases closed with
  | true =>
    obtain ⟨rfl, hquote, hunits⟩ := h
    have hsplit := StringUnit.split_eq quote units (quote :: rest) (hslash hquote) hunits (by simp)
    simp only [if_true, List.append_assoc, List.cons_append, List.nil_append]
    rw [next_string quote _ hquote, hsplit]
  | false =>
    obtain ⟨rfl, hquote, hunits, rfl⟩ := h
    have hsplit := StringUnit.split_eq quote units [] (hslash hquote) hunits (by simp)
    simp only [Bool.false_eq_true, if_false, List.append_nil] at hsplit ⊢
    rw [next_string quote _ hquote, hsplit]

/-- There is one lexeme that a text can start with, and `next` reads it. -/
theorem Starts.next_eq {strings : Bool} {c : Char} {cs : Text} {read : Lexeme × Text}
    (h : Starts strings (c :: cs) read) : next strings c cs = read := by
  obtain ⟨lexeme, rest⟩ := read
  obtain ⟨htext, hfits⟩ := h
  cases lexeme with
  | block body closed =>
    obtain ⟨rfl, rfl⟩ := List.cons_eq_cons.mp htext
    exact next_block_eq strings body rest closed hfits
  | line body =>
    obtain ⟨rfl, rfl⟩ := List.cons_eq_cons.mp htext
    exact next_line_eq strings body rest hfits
  | string quote units closed =>
    obtain ⟨rfl, rfl⟩ := List.cons_eq_cons.mp htext
    exact next_string_eq strings quote units rest closed hfits
  | other d =>
    obtain ⟨rfl, rfl⟩ := List.cons_eq_cons.mp htext
    obtain ⟨hblock, hline, hstring⟩ := hfits
    exact (if_neg hblock).trans ((if_neg hline).trans (if_neg hstring))

-- The slash of an opening is not part of the end mark.
example : next false '/' ['*', '/', '*', '/', 'a'] = (.block ['/'] true, ['a']) := by decide

@[simp] theorem source_ne_nil (lexeme : Lexeme) : lexeme.source ≠ [] := by
  cases lexeme <;> simp [source]

end Lexeme

/-! ## Whole texts -/

theorem exists_lexes (strings : Bool) (text : Text) : ∃ lexemes, Lexes strings text lexemes := by
  -- By the length of the text, since a lexeme can take up many characters.
  induction hlen : text.length using Nat.strongRecOn generalizing text with
  | _ n ih =>
    cases text with
    | nil => exact ⟨[], .nil⟩
    | cons c cs =>
      obtain ⟨hsource, hfits⟩ := Lexeme.starts_next strings c cs
      have hpos := List.length_pos_iff.mpr (Lexeme.next strings c cs).1.source_ne_nil
      have hlt : (Lexeme.next strings c cs).2.length < n := by
        rw [← hlen, ← hsource, List.length_append]
        omega
      obtain ⟨lexemes, hrest⟩ := ih _ hlt _ rfl
      exact ⟨_, hsource ▸ Lexes.cons _ _ lexemes hfits hrest⟩

theorem Lexes.of_nil {strings : Bool} {lexemes : List Lexeme} (h : Lexes strings [] lexemes) :
    lexemes = [] := by
  -- The index of `cons` is an append, which `cases` cannot take apart.
  generalize htext : ([] : Text) = text at h
  cases h with
  | nil => rfl
  | cons lexeme rest lexemes _ _ =>
    exact absurd (List.append_eq_nil_iff.mp htext.symm).1 lexeme.source_ne_nil

theorem Lexes.of_cons {strings : Bool} {c : Char} {cs : Text} {lexemes : List Lexeme}
    (h : Lexes strings (c :: cs) lexemes) :
    ∃ others, lexemes = (Lexeme.next strings c cs).1 :: others ∧
      Lexes strings (Lexeme.next strings c cs).2 others := by
  generalize htext : c :: cs = text at h
  cases h with
  | nil => cases htext
  | cons lexeme rest others hfits hrest =>
    have hstarts : Lexeme.Starts strings (c :: cs) (lexeme, rest) := ⟨htext.symm, hfits⟩
    rw [hstarts.next_eq]
    exact ⟨others, rfl, hrest⟩

theorem Lexes.unique {strings : Bool} {text : Text} {lexemes others : List Lexeme}
    (h : Lexes strings text lexemes) (hothers : Lexes strings text others) : others = lexemes := by
  induction lexemes generalizing text others with
  | nil =>
    cases h
    exact hothers.of_nil
  | cons lexeme lexemes ih =>
    cases text with
    | nil => cases h.of_nil
    | cons c cs =>
      obtain ⟨_, hlexemes, hrest⟩ := h.of_cons
      obtain ⟨others, rfl, hotherRest⟩ := hothers.of_cons
      cases hlexemes
      rw [ih hrest hotherRest]

/-! ## Given lexemes -/

instance StringUnit.decidableFit (quote : Char) (after : Text) :
    (units : List StringUnit) → Decidable (StringUnit.Fit quote after units)
  | [] => isTrue trivial
  | .escaped _ :: units => decidableFit quote after units
  | .plain c :: units =>
    have := decidableFit quote after units
    inferInstanceAs (Decidable (c ≠ quote ∧ (c = '\\' → units = [] ∧ after = []) ∧
      StringUnit.Fit quote after units))

instance Lexeme.decidableFits (strings : Bool) (rest : Text) :
    (lexeme : Lexeme) → Decidable (lexeme.Fits strings rest)
  | .block body true =>
    inferInstanceAs (Decidable (Text.findPair '*' '/' (body ++ '*' :: '/' :: rest) = some body.length))
  | .block body false => inferInstanceAs (Decidable (Text.findPair '*' '/' body = none ∧ rest = []))
  | .line body =>
    -- There is at most one character to test, and not all that exist.
    have : Decidable (∀ c ∈ rest.head?, c = '\n') :=
      decidable_of_iff (rest.head?.all (· == '\n') = true) (by simp [Option.all_eq_true])
    inferInstanceAs (Decidable ('\n' ∉ body ∧ ∀ c ∈ rest.head?, c = '\n'))
  | .string quote units true =>
    inferInstanceAs (Decidable (strings = true ∧ Mask.isQuote quote = true ∧
      StringUnit.Fit quote (quote :: rest) units))
  | .string quote units false =>
    inferInstanceAs (Decidable (strings = true ∧ Mask.isQuote quote = true ∧
      StringUnit.Fit quote [] units ∧ rest = []))
  | .other c =>
    inferInstanceAs (Decidable (¬ ['/', '*'] <+: c :: rest ∧ ¬ ['/', '/'] <+: c :: rest ∧
      ¬ (strings = true ∧ Mask.isQuote c = true)))

@[simp] theorem lexes_nil_iff (strings : Bool) (text : Text) : Lexes strings text [] ↔ text = [] := by
  constructor
  · intro h
    cases h
    rfl
  · rintro rfl
    exact .nil

theorem lexes_cons_iff (strings : Bool) (text : Text) (lexeme : Lexeme) (lexemes : List Lexeme) :
    Lexes strings text (lexeme :: lexemes) ↔
      lexeme.source <+: text ∧ lexeme.Fits strings (text.drop lexeme.source.length) ∧
        Lexes strings (text.drop lexeme.source.length) lexemes := by
  constructor
  · intro h
    cases h with
    | cons _ rest _ hfits hrest =>
      rw [List.drop_left]
      exact ⟨List.prefix_append _ _, hfits, hrest⟩
  · rintro ⟨⟨rest, rfl⟩, hfits, hrest⟩
    rw [List.drop_left] at hfits hrest
    exact .cons lexeme rest lexemes hfits hrest

instance Lexes.decidable (strings : Bool) :
    (text : Text) → (lexemes : List Lexeme) → Decidable (Lexes strings text lexemes)
  | text, [] => decidable_of_iff _ (lexes_nil_iff strings text).symm
  | text, lexeme :: lexemes =>
    have := Lexes.decidable strings (text.drop lexeme.source.length) lexemes
    decidable_of_iff _ (lexes_cons_iff strings text lexeme lexemes).symm

theorem Lexes.middle {strings : Bool} {text : Text} {before after : List Lexeme} {lexeme : Lexeme}
    (h : Lexes strings text (before ++ lexeme :: after)) :
    text = before.flatMap Lexeme.source ++ (lexeme.source ++ after.flatMap Lexeme.source) ∧
      lexeme.Fits strings (after.flatMap Lexeme.source) := by
  have hsource : ∀ (lexemes : List Lexeme) (text : Text), Lexes strings text lexemes →
      text = lexemes.flatMap Lexeme.source := by
    intro lexemes text h
    induction h with
    | nil => rfl
    | cons lexeme rest lexemes _ _ ih => rw [List.flatMap_cons, ih]
  refine ⟨by simpa using hsource _ _ h, ?_⟩
  induction before generalizing text with
  | nil =>
    obtain ⟨-, hfits, hrest⟩ := (lexes_cons_iff _ _ _ _).mp h
    rwa [hsource _ _ hrest] at hfits
  | cons first before ih => exact ih ((lexes_cons_iff _ _ _ _).mp h).2.2

/-! ## The image of a text -/

/-- A text has one decomposition, and masking replaces each lexeme of it by its image. -/
theorem mask_eq_images (strings : Bool) (text : Text) :
    ∃ lexemes, (∀ others, Lexes strings text others ↔ others = lexemes) ∧
      mask strings text = lexemes.flatMap Lexeme.image := by
  obtain ⟨lexemes, h⟩ := exists_lexes strings text
  refine ⟨lexemes, ?_, Mask.run_lexes strings text lexemes h⟩
  intro others
  constructor
  · intro hothers
    exact h.unique hothers
  · rintro rfl
    exact h

end ScadAdvisor
