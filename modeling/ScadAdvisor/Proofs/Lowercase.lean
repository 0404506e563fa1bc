import Mathlib.Data.List.DropRight
import Mathlib.Tactic.Common
import ScadAdvisor.Text.Blank
import ScadAdvisor.Text.Lowercase

/-! # Lower case is a normal form

No character that is the lower case of another one has a lower case of its own, and none of them is a
blank. So a text in lower case stays as it is, and it has blanks at its ends only if the text before had.
-/

namespace ScadAdvisor

/-! ## Ranges -/

namespace CaseRange

def low (r : CaseRange) : Nat := (r.lo + r.shift).toNat

def high (r : CaseRange) : Nat := (r.hi + r.shift).toNat

/-- Whether a range has none of the lower cases of `r`: they lie apart, or it takes every second
character only and passes them over. -/
def passesOver (s r : CaseRange) : Bool :=
  s.hi.blt r.low || r.high.blt s.lo ||
    (r.step == 2 || r.lo == r.hi) && s.step == 2 && (r.low - s.lo) % 2 == 1

theorem not_holds_of_passesOver {r s : CaseRange} (h : s.passesOver r = true) {c d : Char}
    (hc : r.holds c = true) (hd : (d.toNat : Int) = c.toNat + r.shift) : s.holds d = false := by
  simp only [passesOver, low, high, Bool.or_eq_true, Bool.and_eq_true, Nat.blt_eq, beq_iff_eq] at h
  simp only [holds, Bool.and_eq_true, decide_eq_true_eq, beq_iff_eq] at hc
  rw [← Bool.not_eq_true]
  intro hs
  simp only [holds, Bool.and_eq_true, decide_eq_true_eq, beq_iff_eq] at hs
  rcases h with (h | h) | ⟨⟨hsparse, hstep⟩, hodd⟩
  · omega
  · omega
  · rw [hstep] at hs
    rcases hsparse with hsparse | hsparse
    · rw [hsparse] at hc
      omega
    · omega

end CaseRange

namespace Text

/-! ## The table -/

/-- Where the lower case of a character comes from. -/
theorem lowerChar_cases (c : Char) :
    lowerChar c = c ∨ 0x61 ≤ (lowerChar c).toNat ∧ (lowerChar c).toNat ≤ 0x7A ∨
      ∃ r ∈ Lowercase.table, r.holds c = true ∧ ((lowerChar c).toNat : Int) = c.toNat + r.shift := by
  have hascii : ∀ n < 0x80, Ascii.toLower (Char.ofNat n) = Char.ofNat n ∨
      0x61 ≤ (Ascii.toLower (Char.ofNat n)).toNat ∧ (Ascii.toLower (Char.ofNat n)).toNat ≤ 0x7A := by
    decide +kernel
  have htable : ∀ r ∈ Lowercase.table, 0 ≤ (r.lo : Int) + r.shift ∧
      ((r.hi : Int) + r.shift < 0xD800 ∨ 0xDFFF < (r.lo : Int) + r.shift ∧
        (r.hi : Int) + r.shift < 0x110000) := by decide +kernel
  unfold lowerChar
  split
  · rename_i hlt
    have := hascii c.toNat hlt
    rw [Char.ofNat_toNat] at this
    exact this.imp_right Or.inl
  · split
    · rename_i r hfind
      have hholds := List.find?_some hfind
      have hmem := List.mem_of_find?_eq_some hfind
      have hrange := htable r hmem
      refine Or.inr (Or.inr ⟨r, hmem, hholds, ?_⟩)
      simp only [CaseRange.holds, Bool.and_eq_true, decide_eq_true_eq] at hholds
      -- No range is shifted out of the characters.
      have hvalid : (c.toNat + r.shift).toNat.isValidChar := by
        unfold Nat.isValidChar
        omega
      have hchar : (Char.ofNat (c.toNat + r.shift).toNat).toNat = (c.toNat + r.shift).toNat := by
        rw [Char.ofNat, dif_pos hvalid]
        rfl
      rw [hchar]
      omega
    · exact Or.inl rfl

/-- What lies apart from the small letters of ASCII and from all lower cases in the table is the lower
case of nothing but itself. -/
theorem lowerChar_eq_self_of_apart (lo hi : Nat) (hascii : hi < 0x61 ∨ 0x7A < lo)
    (htable : ∀ r ∈ Lowercase.table, (hi : Int) < r.lo + r.shift ∨ (r.hi : Int) + r.shift < lo)
    (c : Char) (hlo : lo ≤ (lowerChar c).toNat) (hhi : (lowerChar c).toNat ≤ hi) : lowerChar c = c := by
  rcases lowerChar_cases c with h | h | ⟨r, hmem, hholds, hshift⟩
  · exact h
  · omega
  · have := htable r hmem
    simp only [CaseRange.holds, Bool.and_eq_true, decide_eq_true_eq] at hholds
    omega

theorem lowerChar_of_lt (c : Char) (h : (lowerChar c).toNat < 0x41) : lowerChar c = c :=
  lowerChar_eq_self_of_apart 0 0x40 (by omega) (by decide +kernel) c (by omega) (by omega)

theorem isBlank_lowerChar (c : Char) (h : isBlank (lowerChar c) = true) : lowerChar c = c := by
  have htable : ∀ w ∈ whiteSpaceRanges, (w.2 < 0x61 ∨ 0x7A < w.1) ∧
      ∀ r ∈ Lowercase.table, (w.2 : Int) < r.lo + r.shift ∨ (r.hi : Int) + r.shift < w.1 := by
    decide +kernel
  rw [isBlank, Bool.or_eq_true] at h
  rcases h with h | h
  · rw [isWhiteSpace, Ranges.holds, List.any_eq_true] at h
    obtain ⟨w, hw, h⟩ := h
    obtain ⟨hascii, hapart⟩ := htable w hw
    simp only [Bool.and_eq_true, decide_eq_true_eq] at h
    exact lowerChar_eq_self_of_apart w.1 w.2 hascii hapart c h.1 h.2
  · simp only [Bool.and_eq_true, decide_eq_true_eq] at h
    exact lowerChar_of_lt c (by omega)

@[simp] theorem lowerChar_lowerChar (c : Char) : lowerChar (lowerChar c) = lowerChar c := by
  have hascii : ∀ n < 0x80, 0x61 ≤ n → n ≤ 0x7A → lowerChar (Char.ofNat n) = Char.ofNat n := by
    decide +kernel
  have hletter : ∀ r ∈ Lowercase.table, 0x61 ≤ (r.lo : Int) + r.shift ∧
      ((r.hi : Int) + r.shift ≤ 0x7A ∨ 0x80 ≤ (r.lo : Int) + r.shift) := by decide +kernel
  have htable : (Lowercase.table.all fun r => Lowercase.table.all fun s => s.passesOver r) = true := by
    decide +kernel
  rcases lowerChar_cases c with h | ⟨hlo, hhi⟩ | ⟨r, hmem, hholds, hshift⟩
  · rw [h, h]
  · have := hascii (lowerChar c).toNat (by omega) hlo hhi
    rwa [Char.ofNat_toNat] at this
  · have hr := hletter r hmem
    have hrange := hholds
    simp only [CaseRange.holds, Bool.and_eq_true, decide_eq_true_eq] at hrange
    by_cases hlt : (lowerChar c).toNat < 0x80
    · have := hascii (lowerChar c).toNat hlt (by omega) (by omega)
      rwa [Char.ofNat_toNat] at this
    · -- No range has the character, so it stays.
      have hnone : Lowercase.table.find? (·.holds (lowerChar c)) = none := by
        rw [List.find?_eq_none]
        intro s hs
        have hpasses := List.all_eq_true.mp (List.all_eq_true.mp htable r hmem) s hs
        simp [CaseRange.not_holds_of_passesOver hpasses hholds hshift]
      generalize lowerChar c = d at hlt hnone
      rw [lowerChar, if_neg hlt, hnone]

/-! ## Texts -/

/-- A character that is its own lower case wherever it stands. -/
structure IsLow (c : Char) : Prop where
  lower : lowerChar c = c
  ne_dotted : c ≠ 'İ'

theorem isLow_lowerChar {c : Char} (hc : c ≠ 'İ') : IsLow (lowerChar c) := by
  refine ⟨lowerChar_lowerChar c, ?_⟩
  intro h
  have := lowerChar_eq_self_of_apart 0x130 0x130 (by omega) (by decide +kernel) c (by simp [h]) (by simp [h])
  exact hc (this.symm.trans h)

theorem lowerFrom_cons (before : Text) (c : Char) (cs : Text) :
    ∃ low, lowerFrom before (c :: cs) = low ++ lowerFrom (c :: before) cs ∧ low ≠ [] ∧
      (IsLow c → low = [c]) ∧
      ∀ d ∈ low, IsLow d ∧ (isBlank d = true → isBlank c = true) := by
  -- The characters that do not come from the table.
  have hspecial : ∀ n ∈ [0x69, 0x307, 0x3C2, 0x3C3], lowerChar (Char.ofNat n) = Char.ofNat n ∧
      Char.ofNat n ≠ 'İ' ∧ isBlank (Char.ofNat n) = false := by decide +kernel
  have hof : ∀ n ∈ [0x69, 0x307, 0x3C2, 0x3C3], IsLow (Char.ofNat n) ∧
      (isBlank (Char.ofNat n) = true → isBlank c = true) := by
    intro n hn
    obtain ⟨hlower, hdotted, hblank⟩ := hspecial n hn
    exact ⟨⟨hlower, hdotted⟩, by simp [hblank]⟩
  refine ⟨_, rfl, ?_⟩
  split
  · rename_i hc
    refine ⟨by simp, fun h => absurd (eq_of_beq hc) h.ne_dotted, ?_⟩
    intro d hd
    rcases List.mem_cons.mp hd with rfl | hd
    · exact hof 0x69 (by simp)
    · obtain rfl := List.mem_singleton.mp hd
      exact hof 0x307 (by simp)
  rename_i hdotted
  split
  · rename_i hc
    refine ⟨by simp, ?_, ?_⟩
    · intro h
      rw [eq_of_beq hc] at h
      exact absurd h.lower (by decide +kernel)
    · intro d hd
      obtain rfl := List.mem_singleton.mp hd
      split
      · exact hof 0x3C2 (by simp)
      · exact hof 0x3C3 (by simp)
  · refine ⟨by simp, fun h => by rw [h.lower], ?_⟩
    intro d hd
    obtain rfl := List.mem_singleton.mp hd
    refine ⟨isLow_lowerChar (by simpa using hdotted), ?_⟩
    intro h
    rwa [isBlank_lowerChar c h] at h

theorem isLow_of_mem_lowerFrom (before text : Text) {d : Char} (h : d ∈ lowerFrom before text) :
    IsLow d := by
  induction text generalizing before with
  | nil => cases h
  | cons c cs ih =>
    obtain ⟨low, heq, -, -, hlow⟩ := lowerFrom_cons before c cs
    rw [heq, List.mem_append] at h
    rcases h with h | h
    · exact (hlow d h).1
    · exact ih _ h

theorem lowerFrom_of_isLow (before : Text) {text : Text} (h : ∀ c ∈ text, IsLow c) :
    lowerFrom before text = text := by
  induction text generalizing before with
  | nil => rfl
  | cons c cs ih =>
    obtain ⟨low, heq, -, hself, -⟩ := lowerFrom_cons before c cs
    rw [heq, hself (h c List.mem_cons_self), ih _ fun d hd => h d (List.mem_cons_of_mem _ hd)]
    rfl

theorem lower_eq_self_iff (text : Text) : lower text = text ↔ ∀ c ∈ text, IsLow c := by
  constructor
  · intro h c hc
    rw [← h] at hc
    exact isLow_of_mem_lowerFrom [] text hc
  · exact lowerFrom_of_isLow []

/-! ## Ends -/

/-- No blank stands at either end. -/
structure IsStripped (text : Text) : Prop where
  head : ∀ c, text.head? = some c → isBlank c = false
  last : ∀ c, text.getLast? = some c → isBlank c = false

theorem isStripped_strip (text : Text) : IsStripped (strip text) := by
  have hstrip : strip text = (text.dropWhile isBlank).rdropWhile isBlank := rfl
  rw [hstrip]
  refine ⟨?_, ?_⟩
  · intro c hc
    obtain ⟨cut, hcut⟩ := List.rdropWhile_prefix isBlank (text.dropWhile isBlank)
    have hhead : (text.dropWhile isBlank).head? = some c := by
      rw [← hcut, List.head?_append, hc]
      rfl
    have := List.head?_dropWhile_not isBlank text
    rwa [hhead] at this
  · intro c hc
    have hne := List.ne_nil_of_mem (List.mem_of_getLast? hc)
    rw [List.getLast?_eq_getLast_of_ne_nil hne, Option.some.injEq] at hc
    rw [← hc]
    simpa using List.rdropWhile_last_not isBlank (text.dropWhile isBlank) hne

theorem IsStripped.strip_eq {text : Text} (h : IsStripped text) : strip text = text := by
  have hfront : text.dropWhile isBlank = text := by
    cases text with
    | nil => rfl
    | cons c cs => rw [List.dropWhile_cons_of_neg (by simp [h.head c rfl])]
  have hback : text.rdropWhile isBlank = text := by
    rw [List.rdropWhile_eq_self_iff]
    intro hne
    simp [h.last _ (List.getLast?_eq_getLast_of_ne_nil hne)]
  calc strip text = (text.dropWhile isBlank).rdropWhile isBlank := rfl
    _ = text := by rw [hfront, hback]

theorem getLast?_lowerFrom (before text : Text) {d : Char}
    (h : (lowerFrom before text).getLast? = some d) :
    ∃ c, text.getLast? = some c ∧ (isBlank d = true → isBlank c = true) := by
  induction text generalizing before with
  | nil => cases h
  | cons c cs ih =>
    obtain ⟨low, heq, -, -, hlow⟩ := lowerFrom_cons before c cs
    rw [heq, List.getLast?_append] at h
    cases cs with
    | nil => exact ⟨c, rfl, (hlow d (List.mem_of_getLast? h)).2⟩
    | cons e es =>
      obtain ⟨rest, hrest, hne, -⟩ := lowerFrom_cons (c :: before) e es
      have hsome : ((lowerFrom (c :: before) (e :: es)).getLast?).isSome = true := by
        simp [hrest, hne]
      obtain ⟨last, hlast⟩ := Option.isSome_iff_exists.mp hsome
      rw [hlast, Option.some_or] at h
      rw [List.getLast?_cons_cons]
      exact ih (c :: before) (hlast.trans h)

theorem IsStripped.lower {text : Text} (h : IsStripped text) : IsStripped (lower text) := by
  refine ⟨?_, ?_⟩
  · intro d hd
    cases text with
    | nil => cases hd
    | cons c cs =>
      obtain ⟨low, heq, hne, -, hlow⟩ := lowerFrom_cons [] c cs
      rw [Text.lower, heq, List.head?_append_of_ne_nil _ hne] at hd
      have hblank := (hlow d (List.mem_of_head? hd)).2
      simpa [h.head c rfl] using hblank
  · intro d hd
    obtain ⟨c, hc, hblank⟩ := getLast?_lowerFrom [] text hd
    simpa [h.last c hc] using hblank

end Text

end ScadAdvisor
