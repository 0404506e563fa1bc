import Mathlib.Algebra.GroupWithZero.Nat
import Mathlib.Tactic.Common
import ScadAdvisor.Proofs.Json.RoundTrip
import ScadAdvisor.Report.Basic

/-! # Reports as JSON

Whoever reads the document gets back every file and every diagnostic.
-/

namespace ScadAdvisor

/-! ## What a reader takes from a document -/

namespace JsonTerm

def field? (name : Text) : JsonTerm → Option JsonTerm
  | .object fields => (fields.reverse.find? (·.1 == name)).map (·.2)
  | _ => none

def text? : JsonTerm → Option Text
  | .string text => some text
  | _ => none

def integer? : JsonTerm → Option Int
  | .number digits 0 => some digits
  | _ => none

def offset? (term : JsonTerm) : Option Nat :=
  match term.integer? with
  | some (.ofNat n) => some n
  | _ => none

def items? : JsonTerm → Option (List JsonTerm)
  | .array items => some items
  | _ => none

def replacement? : JsonTerm → Option (Option Text)
  | .null => some none
  | .string text => some (some text)
  | _ => none

end JsonTerm

namespace Diagnostic

def ofTerm? (term : JsonTerm) : Option Diagnostic := do
  let kind ← (← term.field? "kind".toList).text?
  let code ← (← term.field? "code".toList).text?
  let start ← (← term.field? "start_offset".toList).offset?
  let stop ← (← term.field? "end_offset".toList).offset?
  let message ← (← term.field? "message".toList).text?
  let replacement ← (← term.field? "replacement".toList).replacement?
  (ofSpan (← Kind.ofName? kind) (← Code.ofName? code) start stop message replacement).toOption

@[simp] theorem ofTerm?_toJson (d : Diagnostic) : ofTerm? d.toJson.term = some d := by
  have hkind : Kind.ofName? d.kind.name = some d.kind := by cases d.kind <;> rfl
  have hcode : Code.ofName? d.code.name = some d.code := by cases d.code <;> rfl
  have hspan : ofSpan d.kind d.code d.start d.stop d.message d.replacement = .ok d :=
    dif_pos d.start_lt_stop
  have hreplacement : (d.toJson.term.field? "replacement".toList).bind JsonTerm.replacement? =
      some d.replacement := by
    cases h : d.replacement with
    | none => simp only [toJson, h]; rfl
    | some text => simp only [toJson, h]; rfl
  calc ofTerm? d.toJson.term
    _ = (do
        let replacement ← (d.toJson.term.field? "replacement".toList).bind JsonTerm.replacement?
        (ofSpan (← Kind.ofName? d.kind.name) (← Code.ofName? d.code.name) d.start d.stop d.message
          replacement).toOption) := by rfl
    _ = some d := by
      rw [hreplacement, hkind, hcode]
      simp only [Option.bind_eq_bind, Option.bind_some, hspan]
      rfl

end Diagnostic

namespace Located

def ofTerm? (term : JsonTerm) : Option Located := do
  let file ← (← term.field? "file".toList).text?
  let line ← (← term.field? "line".toList).integer?
  let column ← (← term.field? "column".toList).integer?
  let diagnostic ← Diagnostic.ofTerm? (← term.field? "diagnostic".toList)
  return { file, line, column, diagnostic }

@[simp] theorem ofTerm?_toJson (l : Located) : ofTerm? l.toJson.term = some l := by
  calc ofTerm? l.toJson.term
    _ = (do return ⟨l.file, l.line, l.column, ← Diagnostic.ofTerm? l.diagnostic.toJson.term⟩) := by rfl
    _ = some l := by rw [Diagnostic.ofTerm?_toJson]; rfl

end Located

namespace FileReport

def ofTerm? (term : JsonTerm) : Option FileReport := do
  let file ← (← term.field? "file".toList).text?
  let diagnostics ← (← (← term.field? "diagnostics".toList).items?).mapM Located.ofTerm?
  return { file, diagnostics }

end FileReport

theorem mapM_itemTerms {α : Type} {toJson : α → JsonValue} {ofTerm? : JsonTerm → Option α}
    (h : ∀ x, ofTerm? (toJson x).term = some x) (xs : List α) :
    (JsonValue.itemTerms (xs.map toJson)).mapM ofTerm? = some xs := by
  induction xs with
  | nil => rfl
  | cons x xs ih => simp [JsonValue.itemTerms, h, ih]

@[simp] theorem FileReport.ofTerm?_toJson (report : FileReport) : ofTerm? report.toJson.term = some report := by
  calc ofTerm? report.toJson.term
    _ = (do
        return ⟨report.file,
          ← (JsonValue.itemTerms (report.diagnostics.map Located.toJson)).mapM Located.ofTerm?⟩) := by
      rfl
    _ = some report := by rw [mapM_itemTerms Located.ofTerm?_toJson]; rfl

namespace ScanReport

/-- The report in a document, whose total is left aside. -/
def ofTerm? (term : JsonTerm) : Option ScanReport := do
  let files ← (← (← term.field? "files".toList).items?).mapM FileReport.ofTerm?
  return { files }

@[simp] theorem ofTerm?_toJson (report : ScanReport) : ofTerm? report.toJson.term = some report := by
  calc ofTerm? report.toJson.term
    _ = (do
        return ⟨← (JsonValue.itemTerms (report.files.map FileReport.toJson)).mapM
          FileReport.ofTerm?⟩) := by rfl
    _ = some report := by rw [mapM_itemTerms FileReport.ofTerm?_toJson]; rfl

theorem total_eq_sum (report : ScanReport) :
    report.total = (report.files.map (·.diagnostics.length)).sum := by
  rw [total, List.sum, List.foldr_map]

/-- The document of a report is in ASCII, and whoever reads it gets back the report: every file and
every diagnostic, in order, and how many diagnostics there are. No other report has the same document. -/
theorem render_lossless (report : ScanReport) :
    (∃ document, JsonReader.read report.render = some document ∧
      ofTerm? document = some report ∧
      document.field? "total".toList =
        some (.number ((report.files.map (·.diagnostics.length)).sum : Nat) 0)) ∧
    JsonValue.IsAscii report.render ∧
    ∀ other : ScanReport, other.render = report.render ↔ other = report := by
  have hread : ∀ r : ScanReport, (JsonReader.read r.render).bind ofTerm? = some r := by
    intro r
    rw [render, JsonValue.read_render]
    exact ofTerm?_toJson r
  refine ⟨⟨report.toJson.term, JsonValue.read_render _, ofTerm?_toJson report, ?total⟩,
    JsonValue.isAscii_renderAt 0 _, fun other => ⟨?same, congrArg render⟩⟩
  case total => rw [← total_eq_sum]; rfl
  case same =>
    intro h
    have hother := hread other
    rw [h, hread report] at hother
    exact (Option.some.inj hother).symm

end ScanReport

end ScadAdvisor
