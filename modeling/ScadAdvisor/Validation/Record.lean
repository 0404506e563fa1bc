import ScadAdvisor.Diagnostic
import ScadAdvisor.Snapshot
import ScadAdvisor.Validation.Assign

/-! # Diagnostics and snapshots from values -/

namespace ScadAdvisor

/-- The problem of a diagnostic whose ends are the wrong way round. It lies in no single field. -/
def SpanFault.problem (fault : SpanFault) : Problem := ⟨[], .refused fault.message⟩

def Diagnostic.recordName : Text := "Diagnostic".toList

/-- A diagnostic from its fields. The two ends are compared only if every field is right by itself. -/
def Diagnostic.read (v : Value) : Checked Diagnostic := do
  let fields ← Read.entries Diagnostic.recordName v
  let (kind, code, start, stop, message, replacement) ←
    Checked.both (Read.required fields "kind".toList (Read.member Kind.all Kind.name)) <|
    Checked.both (Read.required fields "code".toList (Read.member Code.all Code.name)) <|
    Checked.both (Read.required fields "start_offset".toList Read.offset) <|
    Checked.both (Read.required fields "end_offset".toList Read.int) <|
    Checked.both (Read.required fields "message".toList Read.string) <|
    Read.optional fields "replacement".toList none Read.stringOrNull
  if h : start < stop.toNat then .ok ⟨kind, code, start, stop.toNat, message, replacement, h⟩
  else .error [SpanFault.problem ⟨start, stop⟩]

/-- A diagnostic never changes: each attempt to set a field fails. -/
def Diagnostic.set (d : Diagnostic) (field : Text) (v : Value) : Except AssignFault Diagnostic :=
  setFrozen Diagnostic.recordName d field v

def Snapshot.read (v : Value) : Checked Snapshot := do
  let fields ← Read.entries "SourceSnapshot".toList v
  let (path, version, text) ←
    Checked.both (Read.required fields "path".toList Read.string) <|
    Checked.both (Read.required fields "version".toList Read.int) <|
    Read.required fields "text".toList Read.string
  return { path, version, text }

end ScadAdvisor
