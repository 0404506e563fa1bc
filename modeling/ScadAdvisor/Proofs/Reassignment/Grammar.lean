import ScadAdvisor.Proofs.Reassignment.TrailingBlanks

/-! # The grammars of assignments and signatures

What the scan looks for at the start of a line is a pattern: a row of pieces, of which some may take as
much of the line as they like. The scan tries no two ways of dividing a line up; it takes one run of
characters after the other, and looks no further than one character behind an equals sign. It is shown
here that no line is missed by that, and none is read in another way.
-/

namespace ScadAdvisor.Reassignment

/-! ## Runs of one class -/

section Runs

variable {p : Char → Bool} {run rest : Text}

theorem takeWhile_run (hrun : ∀ c ∈ run, p c = true) (hrest : ∀ c ∈ rest.head?, p c = false) :
    (run ++ rest).takeWhile p = run := by
  rw [List.takeWhile_append_of_pos hrun]
  cases rest with
  | nil => simp
  | cons c cs => rw [List.takeWhile_cons_of_neg (by simp [hrest c rfl]), List.append_nil]

theorem dropWhile_run (hrun : ∀ c ∈ run, p c = true) (hrest : ∀ c ∈ rest.head?, p c = false) :
    (run ++ rest).dropWhile p = rest := by
  rw [List.dropWhile_append_of_pos hrun]
  cases rest with
  | nil => rfl
  | cons c cs => exact List.dropWhile_cons_of_neg (by simp [hrest c rfl])

theorem takeWhile_ne_nil {text : Text} (h : text.head?.any p = true) : text.takeWhile p ≠ [] := by
  cases text with
  | nil => simp at h
  | cons c cs => simp [List.takeWhile_cons_of_pos (show p c = true from h)]

theorem isSpace_head_word {name : Text} (hne : name ≠ []) (hname : ∀ c ∈ name, Ascii.isWord c = true) :
    ∀ c ∈ (name ++ rest).head?, Ascii.isSpace c = false := by
  obtain ⟨d, ds, rfl⟩ := List.exists_cons_of_ne_nil hne
  rintro c ⟨⟩
  exact isSpace_of_isWord d (hname d List.mem_cons_self)

theorem isWord_head_gap {gap : Text} {stop : Char} (hgap : ∀ c ∈ gap, Ascii.isSpace c = true)
    (hstop : Ascii.isWord stop = false) :
    ∀ c ∈ (gap ++ stop :: rest).head?, Ascii.isWord c = false := by
  cases gap with
  | nil =>
    rintro c ⟨⟩
    exact hstop
  | cons d ds =>
    rintro c ⟨⟩
    exact Ascii.isWord_of_isSpace d (hgap d List.mem_cons_self)

end Runs

/-! ## Assignments -/

/-- Blanks, a whole word, blanks, an equals sign, and a character that is no equals sign, whatever
follows. -/
structure IsAssignment (line : Text) (a : Assignment) : Prop where
  opens : ∃ before gap c rest, OpensAssignment line before a.name gap (c :: rest) ∧ c ≠ '=' ∧
    before.length = a.offset
  whole : (line.drop a.offset).takeWhile Ascii.isWord = a.name

theorem OpensAssignment.isAssignment {line before name gap rest : Text} {c : Char}
    (h : OpensAssignment line before name gap (c :: rest)) (hc : c ≠ '=') :
    IsAssignment line ⟨before.length, name, h.name_ne_nil⟩ where
  opens := ⟨before, gap, c, rest, h, hc, rfl⟩
  whole := by
    dsimp only
    rw [h.text_eq, List.drop_left]
    exact takeWhile_run h.word_name (isWord_head_gap h.space_gap (by decide))

theorem OpensAssignment.assignment?_eq_some {line before name gap rest : Text} {c : Char}
    (h : OpensAssignment line before name gap (c :: rest)) (hc : c ≠ '=') :
    assignment? line = some ⟨before.length, name, h.name_ne_nil⟩ := by
  rw [h.assignment?_eq]
  simp [hc]

theorem isAssignment_of_assignment? {line : Text} {a : Assignment} (h : assignment? line = some a) :
    IsAssignment line a := by
  unfold assignment? at h
  dsimp only at h
  split at h
  · cases h
  · rename_i hname
    split at h
    · rename_i c rest hbehind
      split at h
      · cases h
      · rename_i hc
        cases h
        exact (opensAssignment_of_dropWhile line (c :: rest) hname hbehind).isAssignment (by simpa using hc)
    · cases h

theorem assignment?_eq_some_iff (line : Text) (a : Assignment) :
    assignment? line = some a ↔ IsAssignment line a := by
  constructor
  · exact isAssignment_of_assignment?
  · rintro ⟨⟨before, gap, c, rest, hopens, hc, hoffset⟩, -⟩
    rw [hopens.assignment?_eq_some hc]
    cases a
    simp only [hoffset]

/-! ## Signatures -/

/-- Blanks, one of the two words, at least one blank, a name, blanks and an opening parenthesis, with
`rest` behind it. -/
structure OpensSignature (text before word gap name behind rest : Text) : Prop where
  text_eq : text = before ++ (word ++ (gap ++ (name ++ (behind ++ '(' :: rest))))
  word_mem : word ∈ signatureWords
  gap_ne_nil : gap ≠ []
  name_ne_nil : name ≠ []
  space_before : ∀ c ∈ before, Ascii.isSpace c = true
  space_gap : ∀ c ∈ gap, Ascii.isSpace c = true
  word_name : ∀ c ∈ name, Ascii.isWord c = true
  space_behind : ∀ c ∈ behind, Ascii.isSpace c = true

namespace OpensSignature

variable {text before word gap name behind rest : Text}

theorem dropWhile_isSpace (h : OpensSignature text before word gap name behind rest) :
    text.dropWhile Ascii.isSpace = word ++ (gap ++ (name ++ (behind ++ '(' :: rest))) := by
  have hword := List.all_eq_true.mp (isWord_of_mem_signatureWords word h.word_mem)
  have hne : word ≠ [] := by
    rintro rfl
    exact absurd h.word_mem (by decide)
  rw [h.text_eq]
  exact dropWhile_run h.space_before (isSpace_head_word hne hword)

theorem isSignature_eq (h : OpensSignature text before word gap name behind rest) :
    isSignature text = true := by
  have hname : (gap ++ (name ++ (behind ++ '(' :: rest))).dropWhile Ascii.isSpace =
      name ++ (behind ++ '(' :: rest) :=
    dropWhile_run h.space_gap (isSpace_head_word h.name_ne_nil h.word_name)
  have hbehind : (name ++ (behind ++ '(' :: rest)).dropWhile Ascii.isWord = behind ++ '(' :: rest :=
    dropWhile_run h.word_name (isWord_head_gap h.space_behind (by decide))
  have hparen : (behind ++ '(' :: rest).dropWhile Ascii.isSpace = '(' :: rest :=
    dropWhile_run h.space_behind (by simp; decide)
  obtain ⟨c, cs, hgap⟩ := List.exists_cons_of_ne_nil h.gap_ne_nil
  obtain ⟨d, ds, hname'⟩ := List.exists_cons_of_ne_nil h.name_ne_nil
  have hc := h.space_gap c (by simp [hgap])
  have hd := h.word_name d (by simp [hname'])
  unfold isSignature
  rw [List.any_eq_true]
  refine ⟨word, h.word_mem, ?_⟩
  simp only [h.dropWhile_isSpace, List.drop_left, hname, hbehind, hparen]
  simp [hgap, hname', hc, hd]

end OpensSignature

theorem opensSignature_of_isSignature {line : Text} (h : isSignature line = true) :
    ∃ before word gap name behind rest, OpensSignature line before word gap name behind rest := by
  unfold isSignature at h
  rw [List.any_eq_true] at h
  obtain ⟨word, hword, h⟩ := h
  simp only [Bool.and_eq_true, beq_iff_eq, List.isPrefixOf_iff_prefix] at h
  obtain ⟨⟨⟨⟨tail, htail⟩, hgap⟩, hname⟩, hparen⟩ := h
  rw [← htail, List.drop_left] at hgap hname hparen
  obtain ⟨rest, hrest⟩ := List.head?_eq_some_iff.mp hparen
  refine ⟨line.takeWhile Ascii.isSpace, word, tail.takeWhile Ascii.isSpace,
    (tail.dropWhile Ascii.isSpace).takeWhile Ascii.isWord,
    ((tail.dropWhile Ascii.isSpace).dropWhile Ascii.isWord).takeWhile Ascii.isSpace, rest, ?_⟩
  constructor
  · rw [← hrest, List.takeWhile_append_dropWhile, List.takeWhile_append_dropWhile,
      List.takeWhile_append_dropWhile, htail, List.takeWhile_append_dropWhile]
  · exact hword
  · exact takeWhile_ne_nil hgap
  · exact takeWhile_ne_nil hname
  · exact List.all_eq_true.mp List.all_takeWhile
  · exact List.all_eq_true.mp List.all_takeWhile
  · exact List.all_eq_true.mp List.all_takeWhile
  · exact List.all_eq_true.mp List.all_takeWhile

/-- A line that opens with a signature, the name of which is a whole word. -/
def IsSignature (line : Text) : Prop :=
  ∃ before word gap name behind rest, OpensSignature line before word gap name behind rest ∧
    (name ++ (behind ++ '(' :: rest)).takeWhile Ascii.isWord = name

theorem isSignature_iff (line : Text) : isSignature line = true ↔ IsSignature line := by
  constructor
  · intro h
    obtain ⟨before, word, gap, name, behind, rest, hopens⟩ := opensSignature_of_isSignature h
    exact ⟨before, word, gap, name, behind, rest, hopens,
      takeWhile_run hopens.word_name (isWord_head_gap hopens.space_behind (by decide))⟩
  · rintro ⟨before, word, gap, name, behind, rest, hopens, -⟩
    exact hopens.isSignature_eq

/-! ## Patterns -/

/-- What patterns are made of. -/
inductive Piece where
  | one (p : Char → Bool)
  | many (p : Char → Bool)
  | several (p : Char → Bool)
  | oneOf (words : List Text)

def Piece.Takes : Piece → Text → Prop
  | one p, part => ∃ c, part = [c] ∧ p c = true
  | many p, part => ∀ c ∈ part, p c = true
  | several p, part => part ≠ [] ∧ ∀ c ∈ part, p c = true
  | oneOf words, part => part ∈ words

/-- A way of dividing up the start of a line among the pieces of a pattern. -/
structure Divides (pattern : List Piece) (line : Text) (parts : List Text) : Prop where
  takes : List.Forall₂ Piece.Takes pattern parts
  start : parts.flatten <+: line

def assignmentPattern : List Piece :=
  [.many Ascii.isSpace, .several Ascii.isWord, .many Ascii.isSpace, .one (· == '='),
    .many Ascii.isSpace, .one (· != '=')]

def signaturePattern : List Piece :=
  [.many Ascii.isSpace, .oneOf signatureWords, .several Ascii.isSpace, .several Ascii.isWord,
    .many Ascii.isSpace, .one (· == '(')]

theorem divides_assignmentPattern_iff (line : Text) (parts : List Text) :
    Divides assignmentPattern line parts ↔ ∃ before name gap blanks c rest,
      parts = [before, name, gap, ['='], blanks, [c]] ∧
        OpensAssignment line before name gap (blanks ++ c :: rest) ∧
        (∀ d ∈ blanks, Ascii.isSpace d = true) ∧ c ≠ '=' := by
  constructor
  · rintro ⟨htakes, rest, hline⟩
    simp only [assignmentPattern, List.forall₂_cons_left_iff, List.forall₂_nil_left_iff] at htakes
    obtain ⟨before, _, hbefore, ⟨name, _, ⟨hne, hname⟩, ⟨gap, _, hgap, ⟨_, _, ⟨e, rfl, he⟩,
      ⟨blanks, _, hblanks, ⟨_, _, ⟨c, rfl, hc⟩, rfl, rfl⟩, rfl⟩, rfl⟩, rfl⟩, rfl⟩, rfl⟩ := htakes
    obtain rfl : e = '=' := by simpa using he
    refine ⟨before, name, gap, blanks, c, rest, rfl, ?_, hblanks, by simpa using hc⟩
    exact ⟨by simp [← hline], hne, hbefore, hname, hgap⟩
  · rintro ⟨before, name, gap, blanks, c, rest, rfl, hopens, hblanks, hc⟩
    refine ⟨?_, rest, by simp [hopens.text_eq]⟩
    simp only [assignmentPattern, List.forall₂_cons, List.forall₂_nil_left_iff, Piece.Takes]
    exact ⟨hopens.space_before, ⟨hopens.name_ne_nil, hopens.word_name⟩, hopens.space_gap,
      ⟨'=', rfl, by decide⟩, hblanks, ⟨c, rfl, by simpa using hc⟩, trivial⟩

theorem divides_signaturePattern_iff (line : Text) (parts : List Text) :
    Divides signaturePattern line parts ↔ ∃ before word gap name behind rest,
      parts = [before, word, gap, name, behind, ['(']] ∧
        OpensSignature line before word gap name behind rest := by
  constructor
  · rintro ⟨htakes, rest, hline⟩
    simp only [signaturePattern, List.forall₂_cons_left_iff, List.forall₂_nil_left_iff] at htakes
    obtain ⟨before, _, hbefore, ⟨word, _, hword, ⟨gap, _, ⟨hgap, hspace⟩, ⟨name, _, ⟨hne, hname⟩,
      ⟨behind, _, hbehind, ⟨_, _, ⟨e, rfl, he⟩, rfl, rfl⟩, rfl⟩, rfl⟩, rfl⟩, rfl⟩, rfl⟩ := htakes
    obtain rfl : e = '(' := by simpa using he
    refine ⟨before, word, gap, name, behind, rest, rfl, ?_⟩
    exact ⟨by simp [← hline], hword, hgap, hne, hbefore, hspace, hname, hbehind⟩
  · rintro ⟨before, word, gap, name, behind, rest, rfl, hopens⟩
    refine ⟨?_, rest, by simp [hopens.text_eq]⟩
    simp only [signaturePattern, List.forall₂_cons, List.forall₂_nil_left_iff, Piece.Takes]
    exact ⟨hopens.space_before, hopens.word_mem, ⟨hopens.gap_ne_nil, hopens.space_gap⟩,
      ⟨hopens.name_ne_nil, hopens.word_name⟩, hopens.space_behind, ⟨'(', rfl, by decide⟩, trivial⟩

/-- Of the blanks behind an equals sign none has to be passed over: the first of them is a character
that is no equals sign. -/
theorem exists_cons_of_blanks {blanks rest : Text} {c : Char}
    (hblanks : ∀ d ∈ blanks, Ascii.isSpace d = true) (hc : c ≠ '=') :
    ∃ d ds, blanks ++ c :: rest = d :: ds ∧ d ≠ '=' := by
  cases blanks with
  | nil => exact ⟨c, rest, rfl, hc⟩
  | cons d ds =>
    refine ⟨d, ds ++ c :: rest, rfl, ?_⟩
    rintro rfl
    exact absurd (hblanks '=' List.mem_cons_self) (by decide)

/-- However a line is divided up, the second part is the name. -/
theorem assignment?_eq_some_iff_divides (line : Text) (a : Assignment) :
    assignment? line = some a ↔
      ∃ before parts, Divides assignmentPattern line (before :: a.name :: parts) ∧
        before.length = a.offset := by
  constructor
  · intro h
    obtain ⟨before, gap, c, rest, hopens, hc, hoffset⟩ := (isAssignment_of_assignment? h).opens
    exact ⟨before, _, (divides_assignmentPattern_iff line _).mpr
      ⟨before, a.name, gap, [], c, rest, rfl, hopens, by simp, hc⟩, hoffset⟩
  · rintro ⟨before, parts, hdivides, hoffset⟩
    obtain ⟨_, _, gap, blanks, c, rest, hparts, hopens, hblanks, hc⟩ :=
      (divides_assignmentPattern_iff line _).mp hdivides
    obtain ⟨d, ds, hcons, hd⟩ := exists_cons_of_blanks hblanks hc
    injection hparts with hbefore hparts
    injection hparts with hname _
    subst hbefore hname
    rw [hcons] at hopens
    rw [hopens.assignment?_eq_some hd]
    cases a
    simp only [hoffset]

theorem isSignature_iff_divides (line : Text) :
    isSignature line = true ↔ ∃ parts, Divides signaturePattern line parts := by
  simp only [divides_signaturePattern_iff]
  constructor
  · intro h
    obtain ⟨before, word, gap, name, behind, rest, hopens⟩ := opensSignature_of_isSignature h
    exact ⟨_, before, word, gap, name, behind, rest, rfl, hopens⟩
  · rintro ⟨_, before, word, gap, name, behind, rest, -, hopens⟩
    exact hopens.isSignature_eq

/-- On every line the two readers find exactly what their patterns match and what their grammars
describe. The name of an assignment and its offset are those that the pattern has in its second part,
in whatever way it divides the line up. -/
theorem patterns_exact (line : Text) :
    (∀ a, assignment? line = some a ↔ IsAssignment line a) ∧
      (∀ a : Assignment, assignment? line = some a ↔
        ∃ before parts, Divides assignmentPattern line (before :: a.name :: parts) ∧
          before.length = a.offset) ∧
      (isSignature line = true ↔ IsSignature line) ∧
      (isSignature line = true ↔ ∃ parts, Divides signaturePattern line parts) :=
  ⟨assignment?_eq_some_iff line, assignment?_eq_some_iff_divides line, isSignature_iff line,
    isSignature_iff_divides line⟩

-- A blank is a character that is no equals sign, and the end of a line is none.
example :
    ["x = == 1", "x =", "x = ", "x =\t=", "x == 1"].map
      (fun line => (assignment? line.toList).map Assignment.name) =
        [some ['x'], none, some ['x'], some ['x'], none] := by
  decide +kernel

end ScadAdvisor.Reassignment
