import Mathlib.Tactic.Common
import ScadAdvisor.Proofs.CaseKey
import ScadAdvisor.Proofs.Dedupe
import ScadAdvisor.Proofs.Deprecation
import ScadAdvisor.Proofs.Mask
import ScadAdvisor.Proofs.Settings

/-! # The finders never flag the same text

A key of the deduplicator does not say which finder a diagnostic is from. It need not: a renamed
parameter is an identifier, the name of an imported file has a dot, and the third finder wants a digit
in front.
-/

namespace ScadAdvisor

namespace Deprecation

/-! ## Imports -/

theorem fileNameLength_extension (extension text : Text) (n : Nat)
    (h : fileNameLength extension text = some n) :
    ∃ k, n = k + extension.length ∧ Text.startsAlike extension (text.drop k) = true := by
  induction text generalizing n with
  | nil => simp [fileNameLength] at h
  | cons c rest ih =>
    rw [fileNameLength] at h
    split at h
    · cases h
    · split at h
      · rename_i m hm
        cases h
        obtain ⟨k, rfl, hk⟩ := ih m hm
        exact ⟨k + 1, by omega, hk⟩
      · split at h
        · rename_i hend
          cases h
          rw [endsWithExtension, Bool.and_eq_true] at hend
          exact ⟨1, by omega, hend.1⟩
        · cases h

theorem lastFileName_extension (extension text : Text) (start stop : Nat)
    (h : lastFileName extension text = some (start, stop)) :
    ∃ k, start ≤ k ∧ stop = k + extension.length ∧
      Text.startsAlike extension (text.drop k) = true := by
  induction text generalizing start stop with
  | nil => simp [lastFileName] at h
  | cons c rest ih =>
    rw [lastFileName] at h
    split at h
    · cases h
    · split at h
      · rename_i start stop hrest
        cases h
        obtain ⟨k, hle, rfl, hk⟩ := ih start stop hrest
        exact ⟨k + 1, by omega, by omega, hk⟩
      · split at h
        · obtain ⟨n, hn, hpair⟩ := Option.map_eq_some_iff.mp h
          cases hpair
          obtain ⟨k, rfl, hk⟩ := fileNameLength_extension extension rest n hn
          exact ⟨k + 1, by omega, by omega, hk⟩
        · cases h

theorem importUses_extension (masked extension : Text) (start stop : Nat)
    (h : (start, stop) ∈ importUses masked extension) :
    ∃ k, start ≤ k ∧ stop = k + extension.length ∧
      Text.startsAlike extension (masked.drop k) = true := by
  obtain ⟨⟨pos, a, b⟩, hmem, hpair⟩ := List.mem_map.mp h
  cases hpair
  obtain ⟨taken, hr⟩ := Text.mem_search _ _ _ _ hmem
  unfold importAt at hr
  split at hr
  · simp only at hr
    split at hr
    · obtain ⟨⟨a', b'⟩, hname, hpair⟩ := Option.map_eq_some_iff.mp hr
      cases hpair
      obtain ⟨k, hle, rfl, hk⟩ := lastFileName_extension _ _ _ _ hname
      rw [List.drop_drop, List.drop_drop] at hk
      refine ⟨_, ?_, ?_, hk⟩ <;> omega
    · cases hr
  · cases hr

theorem dot_mem_importUses (masked extension : Text) (start stop : Nat)
    (hextension : extension.head? = some '.') (h : (start, stop) ∈ importUses masked extension) :
    '.' ∈ Text.slice masked start stop := by
  obtain ⟨k, hle, rfl, hk⟩ := importUses_extension masked extension start stop h
  obtain ⟨rest, rfl⟩ := List.head?_eq_some_iff.mp hextension
  have hdot : masked[k]? = some '.' := by
    rw [← List.head?_drop]
    cases hdrop : masked.drop k with
    | nil => simp [hdrop, Text.startsAlike] at hk
    | cons c cs =>
      rw [hdrop, Text.startsAlike, Bool.and_eq_true, beq_iff_eq] at hk
      have hdot : Text.caseKey c = '.' := by
        rw [← hk.1]
        decide +kernel
      rw [← Text.caseKey_of_lt c (by rw [hdot]; decide), hdot]
      rfl
  rw [List.mem_iff_getElem?]
  refine ⟨k - start, ?_⟩
  rw [Text.getElem?_slice _ _ _ _ (by simp; omega), ← hdot]
  congr 1
  omega

theorem findImports_dot (masked : Text) (extensions : Table Text) (h : StartsWithDot extensions) :
    ∃ found, findImports masked extensions = .ok found ∧
      ∀ d ∈ found, '.' ∈ Text.slice masked d.start d.stop := by
  apply mapM_id_spec
  intro result hresult
  obtain ⟨⟨extension, message⟩, hentry, hresult⟩ := List.mem_flatMap.mp hresult
  obtain ⟨⟨start, stop⟩, hmem, rfl⟩ := List.mem_map.mp hresult
  obtain ⟨hlt, -⟩ := importUses_bounds masked extension start stop hmem
  exact ⟨_, Diagnostic.ofSpan_eq_ok _ _ _ _ _ _ hlt,
    dot_mem_importUses masked extension start stop (h _ hentry) hmem⟩

/-! ## Names that start with a digit -/

theorem isDigit_head_digitIdentifiers (masked token : Text) (start : Nat)
    (h : (start, token) ∈ digitIdentifiers masked) : token.head?.any Ascii.isDigit = true := by
  obtain ⟨taken, hr⟩ := Text.mem_search _ _ _ _ (List.mem_of_mem_filter h)
  rw [(digitIdentifierAt_spec _ _ _ _ hr).1, List.head?_takeWhile]
  unfold digitIdentifierAt at hr
  split at hr
  · cases hr
  · rename_i hstart
    simp only [Bool.or_eq_true, not_or, Bool.not_eq_true, Bool.not_eq_eq_eq_not, Bool.not_true,
      Bool.not_eq_false] at hstart
    obtain ⟨c, hc, hdigit⟩ := (Option.any_eq_true _ _).mp hstart.2
    simp [hc, Ascii.isWord, hdigit]

theorem findDigitIdentifiers_head (masked : Text) :
    ∃ found, findDigitIdentifiers masked = .ok found ∧ ∀ d ∈ found, ∃ token, d.Spans masked token ∧
      token.head?.any Ascii.isDigit = true ∧ ∀ c ∈ token, Ascii.isWord c = true := by
  apply mapM_id_spec
  intro result hresult
  obtain ⟨⟨start, token⟩, hmem, rfl⟩ := List.mem_map.mp hresult
  obtain ⟨hslice, hne, hword⟩ := slice_digitIdentifiers masked token start hmem
  exact ⟨_, Diagnostic.ofSpan_eq_ok _ _ _ _ _ _ (Nat.lt_add_of_pos_right (List.length_pos_iff.mpr hne)),
    token, ⟨rfl, hslice⟩, isDigit_head_digitIdentifiers masked token start hmem, hword⟩

end Deprecation

/-! ## Three kinds of text -/

theorem no_dot_of_isIdentifier (name : Text) (h : isIdentifier name = true) : '.' ∉ name :=
  not_mem_of_isIdentifier '.' (Identifier.isContinue_of_lt '.' (by decide)) name h

theorem no_dot_of_isWord (word : Text) (h : ∀ c ∈ word, Ascii.isWord c = true) : '.' ∉ word := by
  intro hmem
  have := h '.' hmem
  revert this
  decide

theorem findParameters_isIdentifier (text : Text) (renames : Table Text) (h : NamesIdentifiers renames) :
    ∃ found, Deprecation.findParameters (maskComments text) renames = .ok found ∧
      ∀ d ∈ found, isIdentifier (Text.slice text d.start d.stop) = true := by
  obtain ⟨found, hfound, hspec⟩ := Deprecation.findParameters_spec (maskComments text) renames
    fun rename hmem => ne_nil_of_isIdentifier _ (h rename hmem).1
  refine ⟨found, hfound, ?_⟩
  intro d hd
  obtain ⟨-, -, name, replacement, hmem, hspans, -⟩ := hspec d hd
  have hname := (h _ hmem).1
  rw [(hspans.of_blanking (blanking_mask false text) (no_space_of_isIdentifier name hname)).2]
  exact hname

theorem findImports_hasDot (text : Text) (extensions : Table Text) (h : StartsWithDot extensions) :
    ∃ found, Deprecation.findImports (maskComments text) extensions = .ok found ∧
      ∀ d ∈ found, '.' ∈ Text.slice text d.start d.stop := by
  obtain ⟨found, hfound, hdot⟩ := Deprecation.findImports_dot (maskComments text) extensions h
  refine ⟨found, hfound, ?_⟩
  intro d hd
  -- The name may run over blanked comments, but the dot itself is no blank.
  exact ((blanking_mask false text).slice d.start d.stop).mem_of_ne_space '.' (by decide) (hdot d hd)

theorem findDigitIdentifiers_isWord (text : Text) :
    ∃ found, Deprecation.findDigitIdentifiers (maskCommentsAndStrings text) = .ok found ∧
      ∀ d ∈ found, (Text.slice text d.start d.stop).head?.any Ascii.isDigit = true ∧
        ∀ c ∈ Text.slice text d.start d.stop, Ascii.isWord c = true := by
  obtain ⟨found, hfound, hspec⟩ :=
    Deprecation.findDigitIdentifiers_head (maskCommentsAndStrings text)
  refine ⟨found, hfound, ?_⟩
  intro d hd
  obtain ⟨token, hspans, hdigit, hword⟩ := hspec d hd
  rw [(hspans.of_blanking (blanking_mask true text) (Text.no_space_of_isWord token hword)).2]
  exact ⟨hdigit, hword⟩

/-- With checked settings the finders can be deduplicated each on its own. No finding is lost to one of
another finder, and those that are kept differ in their lines and texts, and so in their spans. -/
theorem findDeprecations_eq_dedupe (settings : ScanSettings) (text : Text) (h : settings.Validated) :
    ∃ parameters imports digits,
      Deprecation.findParameters (maskComments text) settings.parameters = .ok parameters ∧
      Deprecation.findImports (maskComments text) settings.extensions = .ok imports ∧
      Deprecation.findDigitIdentifiers (maskCommentsAndStrings text) = .ok digits ∧
      let kept := dedupe text parameters ++ dedupe text imports ++ dedupe text digits
      findDeprecations settings text = .ok kept ∧
        (kept.map (dedupeKey text (LineIndex.ofText text))).Nodup ∧
        (kept.map fun d => (d.start, d.stop)).Nodup := by
  obtain ⟨parameters, hparameters, hname⟩ := findParameters_isIdentifier text _ h.parameters
  obtain ⟨imports, himports, hdot⟩ := findImports_hasDot text _ h.extensions
  obtain ⟨digits, hdigits, hword⟩ := findDigitIdentifiers_isWord text
  refine ⟨parameters, imports, digits, hparameters, himports, hdigits, ?_⟩
  intro kept
  have himports_apart : dedupe text (parameters ++ imports) =
      dedupe text parameters ++ dedupe text imports := by
    apply dedupe_append
    intro x hx y hy heq
    exact no_dot_of_isIdentifier _ (hname x hx) (heq ▸ hdot y hy)
  have hdigits_apart : dedupe text (parameters ++ imports ++ digits) =
      dedupe text (parameters ++ imports) ++ dedupe text digits := by
    apply dedupe_append
    intro x hx y hy heq
    rcases List.mem_append.mp hx with hx | hx
    · have hdigit := (hword y hy).1
      rw [← heq, isDigit_head_of_isIdentifier _ (hname x hx)] at hdigit
      cases hdigit
    · exact no_dot_of_isWord _ (hword y hy).2 (heq ▸ hdot x hx)
  have hkept : kept = dedupe text (parameters ++ imports ++ digits) := by
    rw [hdigits_apart, himports_apart]
  rw [hkept]
  refine ⟨?_, nodup_dedupe_keys text _, nodup_dedupe_spans text _⟩
  rw [findDeprecations, hparameters, himports, hdigits]
  rfl

/-- Each construct stands twice on one line, and the file name runs over a comment and ends with two of
the extensions. -/
theorem findDeprecations_eq_dedupe_on_one_line :
    let v : Value := .mapping
      [(Field.parameters, .mapping [("größe".toList, .string "size".toList)]),
       (Field.extensions, .mapping [("AMF".toList, .string "old".toList),
         (".b.amf ".toList, .string "older".toList)])]
    let settings : ScanSettings :=
      { parameters := [("größe".toList, "size".toList)]
        extensions := [(".amf".toList, "old".toList), (".b.amf".toList, "older".toList)] }
    let text := "import(\"a/* 3d */.B.amf\"); f(größe=1, größe=2d, 2d);".toList
    ScanSettings.read v = .ok settings ∧
      (findDeprecations settings text).toOption.map (·.map fun d => (d.code, d.start)) =
        some [(.deprecatedParameter, 29), (.deprecatedImport, 8), (.digitIdentifier, 44)] ∧
      ∃ parameters imports digits,
        Deprecation.findParameters (maskComments text) settings.parameters = .ok parameters ∧
        Deprecation.findImports (maskComments text) settings.extensions = .ok imports ∧
        Deprecation.findDigitIdentifiers (maskCommentsAndStrings text) = .ok digits ∧
        let kept := dedupe text parameters ++ dedupe text imports ++ dedupe text digits
        findDeprecations settings text = .ok kept ∧
          (kept.map (dedupeKey text (LineIndex.ofText text))).Nodup ∧
          (kept.map fun d => (d.start, d.stop)).Nodup := by
  intro v settings text
  have hread : ScanSettings.read v = .ok settings := by rfl
  exact ⟨hread, by decide +kernel, findDeprecations_eq_dedupe settings text (.read v settings hread)⟩

end ScadAdvisor
