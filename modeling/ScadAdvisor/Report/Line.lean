import ScadAdvisor.Console.Styled
import ScadAdvisor.Report.Basic

/-! # Diagnostics as lines -/

namespace ScadAdvisor

def Severity.color : Severity → Color
  | .error => .red
  | .warning => .yellow
  | .notice => .blue
  | .note => .cyan

def Located.location (l : Located) : Text :=
  Text.join [':'] [l.file, Text.ofInt l.line, Text.ofInt l.column]

/-- The place, the kind and the code, the message, and what to write instead if anything. -/
def Located.styled (l : Located) (color : Bool) : StyledText :=
  let d := l.diagnostic
  let hint := match d.replacement with
    | some text => if text.isEmpty then [] else " (replace with '".toList ++ text ++ "')".toList
    | none => []
  StyledText.ofText (l.location ++ ": ".toList) none ++
    StyledText.ofText d.kind.name (if color then some d.severity.color else none) ++
    StyledText.ofText (['['] ++ d.code.name ++ "]: ".toList ++ d.message ++ hint) none

def FileReport.output (report : FileReport) (terminal color : Bool) : Text :=
  report.diagnostics.flatMap fun l => (l.styled color).output (color && terminal)

end ScadAdvisor
