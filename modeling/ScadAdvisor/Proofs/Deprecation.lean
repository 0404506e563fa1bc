import ScadAdvisor.Deprecation.Find
import ScadAdvisor.Proofs.Text

/-! # What the deprecation finders report

Each finder runs over a masked text. Its diagnostics span what they say they span, and it cannot
fail as long as no old parameter name is empty.
-/

namespace ScadAdvisor

/-! ## Searching -/

namespace Text

/-- The recogniser finds this at offset `k`, where `before` stands in front of the text. -/
def FindsAt {α : Type} (r : Recogniser α) (before : Option Char) (text : Text) (k : Nat) (found : α) :
    Prop := ∃ taken, r ((text.take k).getLast?.or before) (text.drop k) = some (found, taken)

theorem FindsAt.cons {α : Type} {r : Recogniser α} {c : Char} {cs : Text} {k : Nat} {found : α}
    (before : Option Char) (h : FindsAt r (some c) cs k found) :
    FindsAt r before (c :: cs) (k + 1) found := by
  obtain ⟨taken, hr⟩ := h
  refine ⟨taken, ?_⟩
  rw [List.take_succ_cons, List.getLast?_cons, List.drop_succ_cons, ← hr]
  cases (cs.take k).getLast? <;> rfl

theorem mem_searchFrom {α : Type} (r : Recogniser α) (skip : Nat) (before : Option Char) (pos : Nat)
    (text : Text) (p : Nat) (found : α) (h : (p, found) ∈ searchFrom r skip before pos text) :
    ∃ k, p = pos + k ∧ FindsAt r before text k found := by
  -- Whatever happens at the first character, the rest of the search begins one further on.
  have hnext : ∀ {c : Char} {cs : Text} {pos : Nat} (before : Option Char),
      (∃ k, p = pos + 1 + k ∧ FindsAt r (some c) cs k found) →
        ∃ k, p = pos + k ∧ FindsAt r before (c :: cs) k found := by
    rintro c cs pos before ⟨k, rfl, hk⟩
    exact ⟨k + 1, by omega, hk.cons before⟩
  fun_induction searchFrom r skip before pos text with
  | case1 => simp at h
  | case2 skip before pos c cs ih => exact hnext before (ih h)
  | case3 before pos c cs here taken hr ih =>
    rw [List.mem_cons, Prod.mk.injEq] at h
    rcases h with ⟨rfl, rfl⟩ | h
    · exact ⟨0, rfl, taken, hr⟩
    · exact hnext before (ih h)
  | case4 before pos c cs hnone ih => exact hnext before (ih h)

theorem mem_search {α : Type} (r : Recogniser α) (text : Text) (p : Nat) (found : α)
    (h : (p, found) ∈ search r text) :
    ∃ taken, r (text.take p).getLast? (text.drop p) = some (found, taken) := by
  obtain ⟨k, rfl, taken, hr⟩ := mem_searchFrom r 0 none 0 text p found h
  rw [Option.or_none] at hr
  rw [Nat.zero_add]
  exact ⟨taken, hr⟩

end Text

/-! ## Collecting diagnostics -/

theorem mapM_id_spec {ε α : Type} (P : α → Prop) (results : List (Except ε α))
    (h : ∀ result ∈ results, ∃ a, result = .ok a ∧ P a) :
    ∃ all, results.mapM id = .ok all ∧ ∀ a ∈ all, P a := by
  induction results with
  | nil => exact ⟨[], rfl, by simp⟩
  | cons result rest ih =>
    obtain ⟨a, rfl, ha⟩ := h result (by simp)
    obtain ⟨others, hothers, hall⟩ := ih fun r hr => h r (by simp [hr])
    refine ⟨a :: others, ?_, by simpa using ⟨ha, hall⟩⟩
    rw [List.mapM_cons, hothers]
    rfl

theorem Diagnostic.ofSpan_eq_ok (kind : Kind) (code : Code) (start stop : Nat) (message : Text)
    (replacement : Option Text) (h : start < stop) :
    Diagnostic.ofSpan kind code start stop message replacement =
      .ok ⟨kind, code, start, stop, message, replacement, h⟩ := by
  rw [Diagnostic.ofSpan, dif_pos h]

def Diagnostic.content (d : Diagnostic) : Kind × Code × Nat × Nat × Text × Option Text :=
  (d.kind, d.code, d.start, d.stop, d.message, d.replacement)

theorem Diagnostic.content_injective : Function.Injective Diagnostic.content := by
  rintro ⟨_, _, _, _, _, _, _⟩ ⟨_, _, _, _, _, _, _⟩ h
  cases h
  rfl

/-- `d` flags `word`, which stands at its offsets in the text. -/
def Diagnostic.Spans (d : Diagnostic) (text word : Text) : Prop :=
  d.stop = d.start + word.length ∧ Text.slice text d.start d.stop = word

theorem Diagnostic.Spans.stop_le {d : Diagnostic} {text word : Text} (h : d.Spans text word) :
    d.stop ≤ text.length := by
  obtain ⟨hstop, hslice⟩ := h
  have hlt := d.start_lt_stop
  rw [hstop] at hslice ⊢
  refine Text.le_length_of_slice text word d.start ?_ hslice
  rintro rfl
  simp at hstop
  omega

theorem Diagnostic.Spans.of_blanking {d : Diagnostic} {text image word : Text}
    (h : d.Spans image word) (hblank : text.Blanking image) (hword : ' ' ∉ word) :
    d.Spans text word := ⟨h.1, hblank.slice_eq h.2 hword⟩

namespace Deprecation

/-! ## Parameters -/

theorem slice_parameterUses (masked name : Text) (start : Nat)
    (h : start ∈ parameterUses masked name) :
    Text.slice masked start (start + name.length) = name := by
  obtain ⟨⟨pos, found⟩, hmem, rfl⟩ := List.mem_map.mp h
  obtain ⟨taken, hr⟩ := Text.mem_search _ _ _ _ hmem
  unfold parameterAt at hr
  split at hr
  · rename_i hname
    rw [Bool.and_eq_true, List.isPrefixOf_iff_prefix] at hname
    exact Text.slice_of_isPrefix masked name pos hname.2
  · cases hr

/-- What a diagnostic about a renamed parameter says: it stands over the old name and gives the new
one. -/
def IsParameterUse (masked : Text) (renames : Table Text) (d : Diagnostic) : Prop :=
  d.kind = .deprecation ∧ d.code = .deprecatedParameter ∧
  ∃ name replacement, (name, replacement) ∈ renames ∧ d.Spans masked name ∧
    d.message = parameterMessage name replacement ∧ d.replacement = some replacement

theorem findParameters_spec (masked : Text) (renames : Table Text)
    (h : ∀ rename ∈ renames, rename.1 ≠ []) :
    ∃ found, findParameters masked renames = .ok found ∧
      ∀ d ∈ found, IsParameterUse masked renames d := by
  apply mapM_id_spec
  intro result hresult
  obtain ⟨⟨name, replacement⟩, hmem, hresult⟩ := List.mem_flatMap.mp hresult
  obtain ⟨start, hstart, rfl⟩ := List.mem_map.mp hresult
  have hname := List.length_pos_iff.mpr (h _ hmem)
  have hslice := slice_parameterUses masked name start hstart
  exact ⟨_, Diagnostic.ofSpan_eq_ok _ _ _ _ _ _ (Nat.lt_add_of_pos_right hname),
    rfl, rfl, name, replacement, hmem, ⟨rfl, hslice⟩, rfl, rfl⟩

/-! ## Imports -/

theorem fileNameLength_bounds (extension text : Text) (n : Nat)
    (h : fileNameLength extension text = some n) : 0 < n ∧ n ≤ text.length := by
  induction text generalizing n with
  | nil => simp [fileNameLength] at h
  | cons c rest ih =>
    rw [fileNameLength] at h
    split at h
    · cases h
    · split at h
      · rename_i m hm
        cases h
        have := ih m hm
        simp only [List.length_cons]
        omega
      · split at h
        · rename_i hend
          cases h
          -- The quote behind the extension is there, so the extension is too.
          simp only [endsWithExtension, Bool.and_eq_true, List.head?_drop] at hend
          have hlt : extension.length < rest.length := by
            by_contra hle
            rw [List.getElem?_eq_none (by omega)] at hend
            simp at hend
          simp only [List.length_cons]
          omega
        · cases h

theorem lastFileName_bounds (extension text : Text) (start stop : Nat)
    (h : lastFileName extension text = some (start, stop)) : start < stop ∧ stop ≤ text.length := by
  induction text generalizing start stop with
  | nil => simp [lastFileName] at h
  | cons c rest ih =>
    rw [lastFileName] at h
    split at h
    · cases h
    · split at h
      · rename_i start stop hrest
        cases h
        have := ih start stop hrest
        simp only [List.length_cons]
        omega
      · split at h
        · obtain ⟨n, hn, hpair⟩ := Option.map_eq_some_iff.mp h
          cases hpair
          have := fileNameLength_bounds extension rest n hn
          simp only [List.length_cons]
          omega
        · cases h

theorem importUses_bounds (masked extension : Text) (start stop : Nat)
    (h : (start, stop) ∈ importUses masked extension) : start < stop ∧ stop ≤ masked.length := by
  obtain ⟨⟨pos, a, b⟩, hmem, hpair⟩ := List.mem_map.mp h
  cases hpair
  obtain ⟨taken, hr⟩ := Text.mem_search _ _ _ _ hmem
  unfold importAt at hr
  split at hr
  · simp only at hr
    split at hr
    · obtain ⟨⟨a', b'⟩, hname, hpair⟩ := Option.map_eq_some_iff.mp hr
      cases hpair
      have := lastFileName_bounds _ _ _ _ hname
      simp only [List.length_drop] at this
      omega
    · cases hr
  · cases hr

def IsImportUse (masked : Text) (d : Diagnostic) : Prop :=
  d.kind = .deprecation ∧ d.code = .deprecatedImport ∧ d.stop ≤ masked.length

theorem findImports_spec (masked : Text) (extensions : Table Text) :
    ∃ found, findImports masked extensions = .ok found ∧ ∀ d ∈ found, IsImportUse masked d := by
  apply mapM_id_spec
  intro result hresult
  obtain ⟨⟨extension, message⟩, -, hresult⟩ := List.mem_flatMap.mp hresult
  obtain ⟨⟨start, stop⟩, hmem, rfl⟩ := List.mem_map.mp hresult
  obtain ⟨hlt, hle⟩ := importUses_bounds masked extension start stop hmem
  exact ⟨_, Diagnostic.ofSpan_eq_ok _ _ _ _ _ _ hlt, rfl, rfl, hle⟩

/-! ## Names that start with a digit -/

theorem digitIdentifierAt_spec (before : Option Char) (rest token : Text) (taken : Nat)
    (h : digitIdentifierAt before rest = some (token, taken)) :
    token = rest.takeWhile Ascii.isWord ∧ token ≠ [] := by
  unfold digitIdentifierAt at h
  split at h
  · cases h
  · dsimp only at h
    split at h
    · cases h
    · rename_i hdigits
      cases h
      refine ⟨rfl, ?_⟩
      intro hnil
      rw [hnil] at hdigits
      exact hdigits rfl

theorem slice_digitIdentifiers (masked token : Text) (start : Nat)
    (h : (start, token) ∈ digitIdentifiers masked) :
    Text.slice masked start (start + token.length) = token ∧ token ≠ [] ∧
      ∀ c ∈ token, Ascii.isWord c = true := by
  obtain ⟨taken, hr⟩ := Text.mem_search _ _ _ _ (List.mem_of_mem_filter h)
  obtain ⟨rfl, hne⟩ := digitIdentifierAt_spec _ _ _ _ hr
  refine ⟨Text.slice_of_isPrefix masked _ start (List.takeWhile_prefix _), hne, ?_⟩
  exact List.all_eq_true.mp List.all_takeWhile

def IsDigitIdentifier (masked : Text) (d : Diagnostic) : Prop :=
  d.kind = .deprecation ∧ d.code = .digitIdentifier ∧
  ∃ token, d.Spans masked token ∧ (∀ c ∈ token, Ascii.isWord c = true) ∧
    d.message = digitIdentifierMessage token

theorem findDigitIdentifiers_spec (masked : Text) :
    ∃ found, findDigitIdentifiers masked = .ok found ∧ ∀ d ∈ found, IsDigitIdentifier masked d := by
  apply mapM_id_spec
  intro result hresult
  obtain ⟨⟨start, token⟩, hmem, rfl⟩ := List.mem_map.mp hresult
  obtain ⟨hslice, hne, hword⟩ := slice_digitIdentifiers masked token start hmem
  have hpos := List.length_pos_iff.mpr hne
  exact ⟨_, Diagnostic.ofSpan_eq_ok _ _ _ _ _ _ (Nat.lt_add_of_pos_right hpos),
    rfl, rfl, token, ⟨rfl, hslice⟩, hword, rfl⟩

end Deprecation

/-! ## All of them -/

theorem firstByKey_sublist {α κ : Type} [BEq κ] (key : α → κ) (seen : List κ) (all : List α) :
    (firstByKey key seen all).Sublist all := by
  induction all generalizing seen with
  | nil => exact List.Sublist.refl _
  | cons a rest ih =>
    rw [firstByKey]
    split
    · exact (ih seen).cons a
    · exact (ih (key a :: seen)).cons_cons a

theorem findDeprecations_spec (settings : ScanSettings) (text : Text)
    (h : ∀ rename ∈ settings.parameters, rename.1 ≠ []) :
    ∃ found, findDeprecations settings text = .ok found ∧ ∀ d ∈ found,
      Deprecation.IsParameterUse (maskComments text) settings.parameters d ∨
      Deprecation.IsImportUse (maskComments text) d ∨
      Deprecation.IsDigitIdentifier (maskCommentsAndStrings text) d := by
  obtain ⟨parameters, hparameters, hp⟩ := Deprecation.findParameters_spec (maskComments text) _ h
  obtain ⟨imports, himports, hi⟩ := Deprecation.findImports_spec (maskComments text) settings.extensions
  obtain ⟨digits, hdigits, hd⟩ := Deprecation.findDigitIdentifiers_spec (maskCommentsAndStrings text)
  refine ⟨dedupe text (parameters ++ imports ++ digits), ?_, ?_⟩
  · rw [findDeprecations, hparameters, himports, hdigits]
    rfl
  · intro d hmem
    have hmem := (firstByKey_sublist _ _ _).subset hmem
    simp only [List.mem_append] at hmem
    rcases hmem with (hmem | hmem) | hmem
    · exact Or.inl (hp d hmem)
    · exact Or.inr (Or.inl (hi d hmem))
    · exact Or.inr (Or.inr (hd d hmem))

end ScadAdvisor
