import ScadAdvisor.Diagnostic
import ScadAdvisor.Text.Search

/-! # Names that start with a digit -/

namespace ScadAdvisor.Deprecation

def digitIdentifierMessage (token : Text) : Text :=
  "Identifier names starting with digits (".toList ++ token ++
    ") will be removed in future releases.".toList

/-- A whole word that starts with a digit and holds more than digits, with no point before it. -/
def digitIdentifierAt : Text.Recogniser Text := fun before rest =>
  if (before.any fun c => c == '.' || Ascii.isWord c) || !(rest.head?).any Ascii.isDigit then none
  else
    let word := rest.takeWhile Ascii.isWord
    if word.all Ascii.isDigit then none else some (word, word.length)

/-- Digits, an e, and digits if there are any: a number. -/
def isScientific (token : Text) : Bool :=
  match token.dropWhile Ascii.isDigit with
  | [] => false
  | c :: exponent =>
    (token.head?).any Ascii.isDigit && (c == 'e' || c == 'E') && exponent.all Ascii.isDigit

def digitIdentifiers (masked : Text) : List (Nat × Text) :=
  (Text.search digitIdentifierAt masked).filter fun (_, token) => !isScientific token

def findDigitIdentifiers (masked : Text) : Except SpanFault (List Diagnostic) :=
  ((digitIdentifiers masked).map fun (start, token) =>
    Diagnostic.ofSpan .deprecation .digitIdentifier start (start + token.length)
      (digitIdentifierMessage token) none).mapM id

end ScadAdvisor.Deprecation
