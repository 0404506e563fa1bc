import ScadAdvisor.Text.Quoted

/-! # Diagnostics -/

namespace ScadAdvisor

/-! ## Ranges -/

/-- A half-open range of offsets. Nothing is asked of its ends. -/
structure TextRange where
  start : Int
  stop : Int
deriving DecidableEq, Repr

def TextRange.contains (outer inner : TextRange) : Bool :=
  outer.start ≤ inner.start && inner.stop ≤ outer.stop

/-! ## Severity -/

inductive Severity where
  | error
  | warning
  | notice
  | note
deriving DecidableEq, Repr

namespace Severity

def all : List Severity := [.error, .warning, .notice, .note]

def name : Severity → Text
  | .error => "error".toList
  | .warning => "warning".toList
  | .notice => "notice".toList
  | .note => "note".toList

def ofName? (text : Text) : Option Severity := all.find? (·.name == text)

def unknownMessage (name : Text) : Text := Text.quoted name ++ " is not a valid Severity".toList

end Severity

/-! ## Kinds and codes -/

inductive Kind where
  | deprecation
  | reassignment
deriving DecidableEq, Repr

namespace Kind

def all : List Kind := [.deprecation, .reassignment]

def name : Kind → Text
  | .deprecation => "deprecation".toList
  | .reassignment => "reassignment".toList

def ofName? (text : Text) : Option Kind := all.find? (·.name == text)

end Kind

inductive Code where
  | deprecatedParameter
  | deprecatedImport
  | digitIdentifier
  | variableReassignment
deriving DecidableEq, Repr

namespace Code

def all : List Code :=
  [.deprecatedParameter, .deprecatedImport, .digitIdentifier, .variableReassignment]

def name : Code → Text
  | .deprecatedParameter => "deprecated-parameter".toList
  | .deprecatedImport => "deprecated-import".toList
  | .digitIdentifier => "digit-identifier".toList
  | .variableReassignment => "variable-reassignment".toList

def ofName? (text : Text) : Option Code := all.find? (·.name == text)

end Code

/-! ## Diagnostics -/

/-- A finding at a stretch of the source that is never empty. -/
structure Diagnostic where
  kind : Kind
  code : Code
  start : Nat
  stop : Nat
  message : Text
  replacement : Option Text
  start_lt_stop : start < stop
deriving DecidableEq, Repr

namespace Diagnostic

def range (d : Diagnostic) : TextRange := ⟨d.start, d.stop⟩

/-- All findings are advice: the source still works as it is. -/
def severity (_ : Diagnostic) : Severity := .warning

end Diagnostic

structure SpanFault where
  start : Int
  stop : Int
deriving DecidableEq, Repr

def SpanFault.message (fault : SpanFault) : Text :=
  "end_offset (".toList ++ Text.ofInt fault.stop ++ ") must be greater than start_offset (".toList ++
    Text.ofInt fault.start ++ ")".toList

def Diagnostic.ofSpan (kind : Kind) (code : Code) (start stop : Nat) (message : Text)
    (replacement : Option Text) : Except SpanFault Diagnostic :=
  if h : start < stop then .ok ⟨kind, code, start, stop, message, replacement, h⟩
  else .error ⟨start, stop⟩

end ScadAdvisor
