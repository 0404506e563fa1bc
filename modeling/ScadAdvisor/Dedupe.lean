import ScadAdvisor.Diagnostic
import ScadAdvisor.LineIndex

/-! # One diagnostic for each line and flagged text -/

namespace ScadAdvisor

def dedupeKey (text : Text) (index : LineIndex) (d : Diagnostic) : Nat × Text :=
  (index.lineOf d.start, Text.slice text d.start d.stop)

/-- The first element of each key, apart from the keys seen already. -/
def firstByKey {α κ : Type} [BEq κ] (key : α → κ) : List κ → List α → List α
  | _, [] => []
  | seen, a :: rest =>
    if seen.contains (key a) then firstByKey key seen rest
    else a :: firstByKey key (key a :: seen) rest

def dedupe (text : Text) (diagnostics : List Diagnostic) : List Diagnostic :=
  firstByKey (dedupeKey text (LineIndex.ofText text)) [] diagnostics

end ScadAdvisor
