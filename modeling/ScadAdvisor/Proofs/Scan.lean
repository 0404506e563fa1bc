import ScadAdvisor.Proofs.Deprecation
import ScadAdvisor.Proofs.Reassignment.Lines
import ScadAdvisor.Proofs.Settings
import ScadAdvisor.Scan

/-! # What a scan reports -/

namespace ScadAdvisor

/-- The stretch that `d` flags is the same in the text and in its masked image, and holds no space
there. So none of its characters was blanked. -/
def Diagnostic.Unblanked (d : Diagnostic) (text image : Text) : Prop :=
  Text.slice image d.start d.stop = Text.slice text d.start d.stop ∧
    ' ' ∉ Text.slice image d.start d.stop

/-- What `d` says holds of the text, which need not be well-formed in any way. -/
structure Diagnostic.Faithful (d : Diagnostic) (settings : ScanSettings) (text : Text) : Prop where
  span : d.start < d.stop ∧ d.stop ≤ text.length
  parameter : d.code = .deprecatedParameter →
    (∃ replacement, d.replacement = some replacement ∧
      (Text.slice text d.start d.stop, replacement) ∈ settings.parameters) ∧
    d.Unblanked text (maskComments text)
  digits : d.code = .digitIdentifier →
    d.message = Deprecation.digitIdentifierMessage (Text.slice text d.start d.stop) ∧
    d.Unblanked text (maskCommentsAndStrings text)
  reassignment : d.code = .variableReassignment →
    ∃ firstLine, d.message = Reassignment.message (Text.slice text d.start d.stop) firstLine

namespace Diagnostic

theorem Spans.unblanked {d : Diagnostic} {text image word : Text} (h : d.Spans image word)
    (hblank : text.Blanking image) (hword : ' ' ∉ word) : d.Unblanked text image := by
  rw [Unblanked, h.2, (h.of_blanking hblank hword).2]
  exact ⟨rfl, hword⟩

theorem faithful_of_parameter (d : Diagnostic) (settings : ScanSettings) (text : Text)
    (hnames : NamesIdentifiers settings.parameters)
    (h : Deprecation.IsParameterUse (maskComments text) settings.parameters d) :
    d.Faithful settings text := by
  obtain ⟨-, hcode, name, replacement, hmem, hspans, -, hreplacement⟩ := h
  have hspace := no_space_of_isIdentifier name (hnames _ hmem).1
  have htext := hspans.of_blanking (blanking_mask false text) hspace
  refine ⟨⟨d.start_lt_stop, htext.stop_le⟩, ?_, by simp [hcode], by simp [hcode]⟩
  intro _
  refine ⟨⟨replacement, hreplacement, ?_⟩, hspans.unblanked (blanking_mask false text) hspace⟩
  rwa [htext.2]

theorem faithful_of_import (d : Diagnostic) (settings : ScanSettings) (text : Text)
    (h : Deprecation.IsImportUse (maskComments text) d) : d.Faithful settings text := by
  obtain ⟨-, hcode, hstop⟩ := h
  have hlen : (maskComments text).length = text.length := (blanking_mask false text).length_eq
  refine ⟨⟨d.start_lt_stop, hlen ▸ hstop⟩, by simp [hcode], by simp [hcode], by simp [hcode]⟩

theorem faithful_of_digits (d : Diagnostic) (settings : ScanSettings) (text : Text)
    (h : Deprecation.IsDigitIdentifier (maskCommentsAndStrings text) d) : d.Faithful settings text := by
  obtain ⟨-, hcode, token, hspans, hword, hmessage⟩ := h
  have hspace := Text.no_space_of_isWord token hword
  have htext := hspans.of_blanking (blanking_mask true text) hspace
  refine ⟨⟨d.start_lt_stop, htext.stop_le⟩, by simp [hcode], ?_, by simp [hcode]⟩
  intro _
  exact ⟨by rw [htext.2, hmessage], hspans.unblanked (blanking_mask true text) hspace⟩

theorem faithful_of_reassignment (d : Diagnostic) (settings : ScanSettings) (text : Text)
    (h : d ∈ findReassignments text) :
    d.kind = .reassignment ∧ d.code = .variableReassignment ∧ d.Faithful settings text := by
  rw [Reassignment.findReassignments_eq] at h
  obtain ⟨e, he, first, -, rfl⟩ := Reassignment.mem_repeats _ d h
  have hslice := (Reassignment.standsAt_of_mem_all_events text e he).slice
  have hstop := Text.le_length_of_slice _ _ _ e.assignment.name_ne_nil hslice
  refine ⟨rfl, rfl, ⟨Diagnostic.start_lt_stop _, hstop⟩, by simp [Reassignment.warning],
    by simp [Reassignment.warning], ?_⟩
  intro _
  exact ⟨first.line, by simp only [Reassignment.warning, hslice]⟩

end Diagnostic

theorem deprecations_faithful (settings : ScanSettings) (text : Text) (h : settings.Validated) :
    ∃ found, (if settings.deprecations then findDeprecations settings text else pure []) = .ok found ∧
      ∀ d ∈ found, d.kind = .deprecation ∧ d.code ≠ .variableReassignment ∧ d.Faithful settings text := by
  split
  · have hnames := h.parameters
    obtain ⟨found, hfound, hspec⟩ := findDeprecations_spec settings text
      fun rename hmem => ne_nil_of_isIdentifier _ (hnames rename hmem).1
    refine ⟨found, hfound, ?_⟩
    intro d hd
    rcases hspec d hd with hp | hi | hdigit
    · exact ⟨hp.1, by simp [hp.2.1], d.faithful_of_parameter settings text hnames hp⟩
    · exact ⟨hi.1, by simp [hi.2.1], d.faithful_of_import settings text hi⟩
    · exact ⟨hdigit.1, by simp [hdigit.2.1], d.faithful_of_digits settings text hdigit⟩
  · exact ⟨[], rfl, by simp⟩

/-- With checked settings no text makes a scan fail. It gives deprecations and then reassignments, and
all of them are faithful to the text as it was before anything was masked. -/
theorem scan_faithful (settings : ScanSettings) (text : Text) (h : settings.Validated) :
    ∃ deprecations reassignments, scan settings text = .ok (deprecations ++ reassignments) ∧
      (∀ d ∈ deprecations, d.kind = .deprecation ∧ d.code ≠ .variableReassignment) ∧
      (∀ d ∈ reassignments, d.kind = .reassignment ∧ d.code = .variableReassignment) ∧
      ∀ d ∈ deprecations ++ reassignments, d.Faithful settings text := by
  obtain ⟨found, hfound, hdeprecations⟩ := deprecations_faithful settings text h
  have hreassignments : ∀ d ∈ (if settings.reassignments then findReassignments text else []),
      d.kind = .reassignment ∧ d.code = .variableReassignment ∧ d.Faithful settings text := by
    split
    · exact fun d hd => d.faithful_of_reassignment settings text hd
    · simp
  refine ⟨found, if settings.reassignments then findReassignments text else [], ?_, ?_, ?_, ?_⟩
  · -- Only the deprecations can fail.
    unfold scan
    split at hfound
    · rename_i hasked
      rw [if_pos hasked, hfound]
      rfl
    · rename_i hasked
      rw [if_neg hasked]
      cases hfound
      rfl
  · exact fun d hd => ⟨(hdeprecations d hd).1, (hdeprecations d hd).2.1⟩
  · exact fun d hd => ⟨(hreassignments d hd).1, (hreassignments d hd).2.1⟩
  · intro d hd
    rcases List.mem_append.mp hd with hd | hd
    · exact (hdeprecations d hd).2.2
    · exact (hreassignments d hd).2.2

/-- A table of one's own, and a text with an open string, an open comment and a finding of each
kind. -/
theorem scan_faithful_sample :
    let v : Value := .mapping [(Field.parameters, .mapping [("größe".toList, .string "size".toList)])]
    let settings : ScanSettings := { parameters := [("größe".toList, "size".toList)] }
    let text := "a = import(\"f.AMF\");\na = 2d(größe = 1); // größe = 2\n/* \"3d".toList
    ScanSettings.read v = .ok settings ∧
      (scan settings text).toOption.map (·.map fun d => (d.code, d.start)) =
        some [(.deprecatedParameter, 28), (.deprecatedImport, 12), (.digitIdentifier, 25),
          (.variableReassignment, 21)] ∧
      ∃ deprecations reassignments, scan settings text = .ok (deprecations ++ reassignments) ∧
        (∀ d ∈ deprecations, d.kind = .deprecation ∧ d.code ≠ .variableReassignment) ∧
        (∀ d ∈ reassignments, d.kind = .reassignment ∧ d.code = .variableReassignment) ∧
        ∀ d ∈ deprecations ++ reassignments, d.Faithful settings text := by
  intro v settings text
  have hread : ScanSettings.read v = .ok settings := by rfl
  exact ⟨hread, by decide +kernel, scan_faithful settings text (.read v settings hread)⟩

end ScadAdvisor
