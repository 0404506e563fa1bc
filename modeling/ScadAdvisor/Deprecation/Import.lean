import ScadAdvisor.Diagnostic
import ScadAdvisor.Mask
import ScadAdvisor.Table
import ScadAdvisor.Text.Blank
import ScadAdvisor.Text.CaseKey
import ScadAdvisor.Text.Search

/-! # Imports of files with a deprecated extension

An import is the word, an opening parenthesis, and a quoted file name before the next closing one. Of
several file names in one import the last one counts.
-/

namespace ScadAdvisor.Deprecation

def importWord : Text := ['i', 'm', 'p', 'o', 'r', 't']

def endsWithExtension (extension rest : Text) : Bool :=
  Text.startsAlike extension rest && ((rest.drop extension.length).head?).any Mask.isQuote

/-- The length of the file name at the start of a text: at least one character that is no quote, then
the extension, then a quote. The longest one counts. -/
def fileNameLength (extension : Text) : Text → Option Nat
  | [] => none
  | c :: rest =>
    if Mask.isQuote c then none
    else match fileNameLength extension rest with
      | some n => some (n + 1)
      | none => if endsWithExtension extension rest then some (extension.length + 1) else none

/-- The last file name that a quote opens before the next closing parenthesis: where it starts and
where it stops. -/
def lastFileName (extension : Text) : Text → Option (Nat × Nat)
  | [] => none
  | c :: rest =>
    if c == ')' then none
    else match lastFileName extension rest with
      | some (start, stop) => some (start + 1, stop + 1)
      | none =>
        if Mask.isQuote c then (fileNameLength extension rest).map fun n => (1, n + 1) else none

/-- An import of a file with the extension: where the file name starts and stops. -/
def importAt (extension : Text) : Text.Recogniser (Nat × Nat) := fun _ rest =>
  if Text.startsAlike importWord rest then
    let blanks := ((rest.drop importWord.length).takeWhile Text.isBlank).length
    let paren := importWord.length + blanks
    if (rest.drop paren).head? == some '(' then
      -- The search goes on behind the closing quote, not behind the closing parenthesis.
      (lastFileName extension (rest.drop (paren + 1))).map fun (start, stop) =>
        ((paren + 1 + start, paren + 1 + stop), paren + 1 + stop + 1)
    else none
  else none

def importUses (masked extension : Text) : List (Nat × Nat) :=
  (Text.search (importAt extension) masked).map fun (pos, start, stop) => (pos + start, pos + stop)

/-- The file names with a deprecated extension, extension by extension in the order of the table. -/
def findImports (masked : Text) (extensions : Table Text) : Except SpanFault (List Diagnostic) :=
  (extensions.flatMap fun (extension, message) =>
    (importUses masked extension).map fun (start, stop) =>
      Diagnostic.ofSpan .deprecation .deprecatedImport start stop message none).mapM id

end ScadAdvisor.Deprecation
