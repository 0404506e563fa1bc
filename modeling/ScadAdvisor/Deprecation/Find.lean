import ScadAdvisor.Dedupe
import ScadAdvisor.Deprecation.DigitIdentifier
import ScadAdvisor.Deprecation.Import
import ScadAdvisor.Deprecation.Parameter
import ScadAdvisor.Settings.Basic

/-! # All deprecated constructs of a text -/

namespace ScadAdvisor

/-- Parameters and imports are looked for outside comments, and names that start with a digit outside
strings as well. Each line is told once about the same piece of source. -/
def findDeprecations (settings : ScanSettings) (text : Text) : Except SpanFault (List Diagnostic) := do
  let parameters ← Deprecation.findParameters (maskComments text) settings.parameters
  let imports ← Deprecation.findImports (maskComments text) settings.extensions
  let digits ← Deprecation.findDigitIdentifiers (maskCommentsAndStrings text)
  return dedupe text (parameters ++ imports ++ digits)

end ScadAdvisor
