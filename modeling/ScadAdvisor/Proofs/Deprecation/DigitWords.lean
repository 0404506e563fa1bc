import ScadAdvisor.Proofs.Deprecation.Occurrences

/-! # Words that start with a digit

A search that skips what it has found could begin inside a word or stop before its end. The finder of
names that start with a digit does neither: it reports whole words, and all of them that are neither
numbers nor behind a point.
-/

namespace ScadAdvisor

namespace Deprecation

/-! ## Whole words -/

/-- Letters, digits and underscores from `start` up to `stop`, with none before them and none behind
them. -/
structure IsWordRun (text : Text) (start stop : Nat) : Prop where
  lt : start < stop
  le : stop ≤ text.length
  word : ∀ c ∈ Text.slice text start stop, Ascii.isWord c = true
  left : start = 0 ∨ isWordAt text[start - 1]? = false
  right : isWordAt text[stop]? = false

theorem IsWordRun.takeWhile_eq {text : Text} {start stop : Nat} (h : IsWordRun text start stop) :
    (text.drop start).takeWhile Ascii.isWord = Text.slice text start stop :=
  Text.takeWhile_drop_eq_slice Ascii.isWord text start stop h.lt.le h.word h.right

theorem isWordRun_takeWhile (text : Text) (start : Nat) (hleft : start = 0 ∨ isWordAt text[start - 1]? = false)
    (hstart : isWordAt text[start]? = true) :
    IsWordRun text start (start + ((text.drop start).takeWhile Ascii.isWord).length) := by
  generalize hword : (text.drop start).takeWhile Ascii.isWord = word
  have hprefix : word <+: text.drop start := hword ▸ List.takeWhile_prefix _
  have hslice := Text.slice_of_isPrefix text word start hprefix
  have hne : word ≠ [] := by
    rw [← hword]
    rw [← List.head?_drop] at hstart
    cases hrest : text.drop start with
    | nil => simp [hrest, isWordAt] at hstart
    | cons c rest =>
      rw [hrest] at hstart
      rw [List.takeWhile_cons_of_pos (by simpa [isWordAt] using hstart)]
      simp
  refine ⟨?_, Text.le_length_of_slice text word start hne hslice, ?_, hleft, ?_⟩
  · exact Nat.lt_add_of_pos_right (List.length_pos_iff.mpr hne)
  · rw [hslice, ← hword]
    exact List.all_eq_true.mp List.all_takeWhile
  · rw [← List.head?_drop, ← List.drop_drop, ← hword, Text.drop_takeWhile_length, isWordAt]
    cases hrest : (text.drop start).dropWhile Ascii.isWord with
    | nil => rfl
    | cons c rest =>
      have := List.head?_dropWhile_not Ascii.isWord (text.drop start)
      rw [hrest] at this
      simpa using this

theorem IsWordRun.stop_le {text : Text} {start stop i j : Nat} (h : IsWordRun text start stop)
    (hlater : IsWordRun text i j) (hlt : start < i) : stop ≤ i := by
  by_contra hinside
  have hword : isWordAt text[i - 1]? = true := by
    have hslice := Text.getElem?_slice text start stop (i - 1 - start) (by omega)
    rw [show start + (i - 1 - start) = i - 1 by omega] at hslice
    have hlen := h.le
    rw [List.getElem?_eq_getElem (show i - 1 < text.length by omega)] at hslice ⊢
    exact h.word _ (List.mem_of_getElem? hslice)
  rcases hlater.left with rfl | hleft
  · omega
  · simp [hleft] at hword

/-! ## Numbers -/

def Exponential (token : Text) : Prop :=
  ∃ digits mark exponent, token = digits ++ mark :: exponent ∧ digits ≠ [] ∧
    (∀ c ∈ digits, Ascii.isDigit c = true) ∧ (mark = 'e' ∨ mark = 'E') ∧
    ∀ c ∈ exponent, Ascii.isDigit c = true

@[simp] theorem isScientific_iff (token : Text) : isScientific token = true ↔ Exponential token := by
  unfold isScientific
  constructor
  · intro h
    split at h
    · cases h
    · rename_i mark exponent hrest
      simp only [Bool.and_eq_true, Bool.or_eq_true, beq_iff_eq, List.all_eq_true] at h
      obtain ⟨⟨hhead, hmark⟩, hexponent⟩ := h
      refine ⟨token.takeWhile Ascii.isDigit, mark, exponent, ?_, ?_, ?_, hmark, hexponent⟩
      · rw [← hrest, List.takeWhile_append_dropWhile]
      · cases token with
        | nil => cases hhead
        | cons c cs => rw [List.takeWhile_cons_of_pos (by simpa using hhead)]; simp
      · exact List.all_eq_true.mp List.all_takeWhile
  · rintro ⟨digits, mark, exponent, rfl, hne, hdigits, hmark, hexponent⟩
    have hdigit : Ascii.isDigit mark = false := by
      rcases hmark with rfl | rfl <;> decide
    have hhead : ((digits ++ mark :: exponent).head?).any Ascii.isDigit = true := by
      obtain ⟨c, cs, rfl⟩ := List.exists_cons_of_ne_nil hne
      simpa using hdigits c (by simp)
    rw [List.dropWhile_append_of_pos hdigits, List.dropWhile_cons_of_neg (by simp [hdigit])]
    simp only [hhead, Bool.and_eq_true, Bool.or_eq_true, beq_iff_eq, List.all_eq_true]
    exact ⟨⟨trivial, hmark⟩, hexponent⟩

/-! ## What the recogniser takes -/

/-- A whole word, not behind a point, that starts with a digit and has more than digits. -/
structure IsDigitWord (text : Text) (start stop : Nat) : Prop where
  run : IsWordRun text start stop
  point : start = 0 ∨ text[start - 1]? ≠ some '.'
  digit : (text[start]?).any Ascii.isDigit = true
  mixed : ∃ c ∈ Text.slice text start stop, Ascii.isDigit c = false

theorem before_iff (text : Text) (start : Nat) (h : start ≤ text.length) :
    (text.take start).getLast?.any (fun c => c == '.' || Ascii.isWord c) = false ↔
      (start = 0 ∨ text[start - 1]? ≠ some '.') ∧ (start = 0 ∨ isWordAt text[start - 1]? = false) := by
  rw [← isWordAt_before_iff text start h, List.getLast?_take]
  split
  · rename_i hzero
    simp [hzero, isWordAt]
  · rename_i hpos
    rw [List.getElem?_eq_getElem (by omega), Option.some_or]
    simp [isWordAt, hpos]

theorem takesAt_digitIdentifierAt_iff (masked : Text) (start : Nat) (token : Text) (taken : Nat) :
    Text.TakesAt digitIdentifierAt none masked start token taken ↔
      ∃ stop, IsDigitWord masked start stop ∧ token = Text.slice masked start stop ∧
        start + taken = stop := by
  unfold Text.TakesAt digitIdentifierAt
  simp only [Option.or_none, List.head?_drop]
  constructor
  · intro h
    split at h
    · cases h
    · rename_i hstart
      simp only [Bool.or_eq_true, not_or, Bool.not_eq_true, Bool.not_eq_eq_eq_not, Bool.not_true,
        Bool.not_eq_false] at hstart
      obtain ⟨hbefore, hdigit⟩ := hstart
      have hlt : start < masked.length := by
        by_contra hge
        simp [List.getElem?_eq_none (Nat.not_lt.mp hge)] at hdigit
      obtain ⟨hpoint, hleft⟩ := (before_iff masked start hlt.le).mp hbefore
      have hword : isWordAt masked[start]? = true := by
        rw [List.getElem?_eq_getElem hlt] at hdigit ⊢
        simp only [Option.any_some] at hdigit
        simp [isWordAt, Ascii.isWord, hdigit]
      have hrun := isWordRun_takeWhile masked start hleft hword
      split at h
      · cases h
      · rename_i hall
        cases h
        refine ⟨_, ⟨hrun, hpoint, hdigit, ?_⟩, hrun.takeWhile_eq, rfl⟩
        rw [← hrun.takeWhile_eq]
        simpa using hall
  · rintro ⟨stop, ⟨hrun, hpoint, hdigit, c, hmem, hc⟩, rfl, rfl⟩
    have hlt := hrun.lt
    have hle := hrun.le
    have hbefore := (before_iff masked start (by omega)).mpr ⟨hpoint, hrun.left⟩
    have hall : ¬ (Text.slice masked start (start + taken)).all Ascii.isDigit = true := by
      rw [List.all_eq_true]
      intro hall
      simp [hall c hmem] at hc
    rw [if_neg (by simp [hbefore, hdigit]), hrun.takeWhile_eq, if_neg hall,
      Text.length_slice _ _ _ hle, Nat.add_sub_cancel_left]

theorem mem_search_digitIdentifierAt_iff (masked : Text) (start : Nat) (token : Text) :
    (start, token) ∈ Text.search digitIdentifierAt masked ↔
      ∃ stop, IsDigitWord masked start stop ∧ token = Text.slice masked start stop := by
  rw [Text.mem_search_iff]
  · constructor
    · rintro ⟨taken, h⟩
      obtain ⟨stop, hword, htoken, -⟩ := (takesAt_digitIdentifierAt_iff _ _ _ _).mp h
      exact ⟨stop, hword, htoken⟩
    · rintro ⟨stop, hword, htoken⟩
      have hlt := hword.run.lt
      exact ⟨stop - start,
        (takesAt_digitIdentifierAt_iff _ _ _ _).mpr ⟨stop, hword, htoken, by omega⟩⟩
  · intro k _ _ h
    obtain ⟨stop, hword, -⟩ := (takesAt_digitIdentifierAt_iff _ _ _ _).mp h
    exact Nat.lt_of_lt_of_le hword.run.lt hword.run.le
  · -- Whatever is found earlier is a whole word, and ends before the next one begins.
    intro i j _ _ m n hi hj hlt
    obtain ⟨_, hearlier, -, rfl⟩ := (takesAt_digitIdentifierAt_iff _ _ _ _).mp hi
    obtain ⟨_, hlater, -⟩ := (takesAt_digitIdentifierAt_iff _ _ _ _).mp hj
    exact hearlier.run.stop_le hlater.run hlt

/-! ## What is reported -/

theorem digitIdentifiers_increasing (masked : Text) : (digitIdentifiers masked).Pairwise (·.1 < ·.1) :=
  (Text.searchFrom_increasing 0 none 0 masked).filter _

theorem mem_digitIdentifiers_iff (masked : Text) (start : Nat) (token : Text) :
    (start, token) ∈ digitIdentifiers masked ↔
      ∃ stop, IsDigitWord masked start stop ∧ token = Text.slice masked start stop ∧
        ¬ Exponential token := by
  rw [digitIdentifiers, List.mem_filter, mem_search_digitIdentifierAt_iff, Bool.not_eq_true',
    ← Bool.not_eq_true, isScientific_iff]
  constructor
  · rintro ⟨⟨stop, hword, htoken⟩, hnumber⟩
    exact ⟨stop, hword, htoken, hnumber⟩
  · rintro ⟨stop, hword, htoken, hnumber⟩
    exact ⟨⟨stop, hword, htoken⟩, hnumber⟩

def wordReport : Nat × Text → Kind × Code × Nat × Nat × Text × Option Text
  | (start, token) =>
    (.deprecation, .digitIdentifier, start, start + token.length, digitIdentifierMessage token, none)

theorem findDigitIdentifiers_eq_reports (masked : Text) :
    ∃ found, findDigitIdentifiers masked = .ok found ∧
      found.map Diagnostic.content = (digitIdentifiers masked).map wordReport := by
  apply mapM_id_map
  rintro ⟨start, token⟩ hmem
  have hne := (slice_digitIdentifiers masked token start hmem).2.1
  have hpos := List.length_pos_iff.mpr hne
  exact ⟨_, Diagnostic.ofSpan_eq_ok _ _ _ _ _ _ (Nat.lt_add_of_pos_right hpos), rfl⟩

theorem wordReport_mem_iff (masked : Text) (d : Diagnostic) :
    d.content ∈ (digitIdentifiers masked).map wordReport ↔
      IsDigitWord masked d.start d.stop ∧ ¬ Exponential (Text.slice masked d.start d.stop) ∧
        d.kind = .deprecation ∧ d.code = .digitIdentifier ∧
        d.message = digitIdentifierMessage (Text.slice masked d.start d.stop) ∧ d.replacement = none := by
  have hlength : ∀ {start stop : Nat}, IsDigitWord masked start stop →
      start + (Text.slice masked start stop).length = stop := by
    intro start stop hword
    rw [Text.length_slice _ _ _ hword.run.le, Nat.add_sub_cancel' hword.run.lt.le]
  simp only [List.mem_map, Prod.exists, wordReport, Diagnostic.content, Prod.mk.injEq]
  constructor
  · rintro ⟨start, token, hmem, hkind, hcode, hstart, hstop, hmessage, hreplacement⟩
    obtain ⟨stop, hword, rfl, hnumber⟩ := (mem_digitIdentifiers_iff _ _ _).mp hmem
    rw [hlength hword] at hstop
    rw [← hstart, ← hstop]
    exact ⟨hword, hnumber, hkind.symm, hcode.symm, hmessage.symm, hreplacement.symm⟩
  · rintro ⟨hword, hnumber, hkind, hcode, hmessage, hreplacement⟩
    refine ⟨d.start, Text.slice masked d.start d.stop, ?_, hkind.symm, hcode.symm, rfl, hlength hword,
      hmessage.symm, hreplacement.symm⟩
    exact (mem_digitIdentifiers_iff _ _ _).mpr ⟨d.stop, hword, rfl, hnumber⟩

/-- The finder reports, from left to right, each whole word that starts with a digit, has more than
digits, is no number with an exponent and does not stand behind a point. It reports nothing else. -/
theorem findDigitIdentifiers_exact (masked : Text) :
    ∃ found, findDigitIdentifiers masked = .ok found ∧ found.Pairwise (·.start < ·.start) ∧
      ∀ d, d ∈ found ↔
        IsDigitWord masked d.start d.stop ∧ ¬ Exponential (Text.slice masked d.start d.stop) ∧
          d.kind = .deprecation ∧ d.code = .digitIdentifier ∧
          d.message = digitIdentifierMessage (Text.slice masked d.start d.stop) ∧
          d.replacement = none := by
  obtain ⟨found, hfound, hcontent⟩ := findDigitIdentifiers_eq_reports masked
  refine ⟨found, hfound, ?_, ?_⟩
  · have hincreasing : ((digitIdentifiers masked).map wordReport).Pairwise
        fun (_, _, start, _) (_, _, start', _) => start < start' :=
      List.pairwise_map.mpr (digitIdentifiers_increasing masked)
    rw [← hcontent, List.pairwise_map] at hincreasing
    exact hincreasing
  · intro d
    rw [← List.mem_map_of_injective Diagnostic.content_injective, hcontent, wordReport_mem_iff]

-- Numbers with a point or an exponent are passed over, whatever signs and letters stand around them.
example : digitIdentifiers "1.5e10 1e-9 .5e3x 2e5e 3d_ a4b 1e 5e+x6".toList =
    [(18, "2e5e".toList), (23, "3d_".toList)] := by decide

end Deprecation

end ScadAdvisor
