import ScadAdvisor.Diagnostic
import ScadAdvisor.Table
import ScadAdvisor.Text.Search

/-! # Renamed parameters -/

namespace ScadAdvisor.Deprecation

def parameterMessage (name replacement : Text) : Text :=
  name ++ "= is deprecated. Please use ".toList ++ replacement ++ ['=']

def isWordAt (c : Option Char) : Bool := c.any Ascii.isWord

/-- A name at the edge of a word, then an equals sign; spaces may stand between them. -/
def parameterAt (name : Text) : Text.Recogniser Unit := fun before rest =>
  if isWordAt before != isWordAt rest.head? && name.isPrefixOf rest then
    let spaces := ((rest.drop name.length).takeWhile Ascii.isSpace).length
    if (rest.drop (name.length + spaces)).head? == some '=' then
      some ((), name.length + spaces + 1)
    else none
  else none

def parameterUses (masked name : Text) : List Nat :=
  (Text.search (parameterAt name) masked).map (·.1)

def parameterDiagnostic (name replacement : Text) (start : Nat) : Except SpanFault Diagnostic :=
  Diagnostic.ofSpan .deprecation .deprecatedParameter start (start + name.length)
    (parameterMessage name replacement) (some replacement)

/-- The uses of the old names, name by name in the order of the table. Only the empty name can make
this fail. -/
def findParameters (masked : Text) (renames : Table Text) : Except SpanFault (List Diagnostic) :=
  (renames.flatMap fun (name, replacement) =>
    (parameterUses masked name).map (parameterDiagnostic name replacement)).mapM id

end ScadAdvisor.Deprecation
