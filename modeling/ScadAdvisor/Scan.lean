import ScadAdvisor.Deprecation.Find
import ScadAdvisor.Log
import ScadAdvisor.Reassignment.State
import ScadAdvisor.Snapshot

/-! # Scanning a text -/

namespace ScadAdvisor

/-- The deprecations and then the reassignments, as far as the settings ask for them. A scan can fail
only if the empty text is among the old parameter names. -/
def scan (settings : ScanSettings) (text : Text) : Except SpanFault (List Diagnostic) := do
  let deprecations ← if settings.deprecations then findDeprecations settings text else pure []
  let reassignments := if settings.reassignments then findReassignments text else []
  return deprecations ++ reassignments

/-- The findings as a plain list. Settings that were read from a value never make a scan fail. -/
def ScanSettings.findings (settings : ScanSettings) (text : Text) : List Diagnostic :=
  match scan settings text with
  | .ok found => found
  | .error _ => []

def scanSnapshot (settings : ScanSettings) (snapshot : Snapshot) :
    Except SpanFault (List Diagnostic × LogRecord) := do
  let found ← scan settings snapshot.text
  let message := "scanned ".toList ++ snapshot.key ++ ": ".toList ++ Text.ofNat found.length ++
    " diagnostic(s)".toList
  return (found, ⟨.scanner, message⟩)

end ScadAdvisor
