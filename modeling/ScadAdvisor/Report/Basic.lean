import ScadAdvisor.Diagnostic
import ScadAdvisor.Json.Value
import ScadAdvisor.LineIndex

/-! # Reports -/

namespace ScadAdvisor

structure Located where
  file : Text
  line : Int
  column : Int
  diagnostic : Diagnostic
deriving DecidableEq, Repr

def locate (file text : Text) (diagnostics : List Diagnostic) : List Located :=
  let index := LineIndex.ofText text
  diagnostics.map fun d =>
    let position := index.positionOf d.start
    { file, line := position.line, column := position.column, diagnostic := d }

structure FileReport where
  file : Text
  diagnostics : List Located
deriving DecidableEq, Repr

structure ScanReport where
  files : List FileReport
deriving DecidableEq, Repr

namespace ScanReport

def total (report : ScanReport) : Nat :=
  report.files.foldr (fun file n => file.diagnostics.length + n) 0

/-- How many files have a diagnostic. -/
def affected (report : ScanReport) : Nat := report.files.countP (!·.diagnostics.isEmpty)

end ScanReport

/-! ## As JSON -/

def Diagnostic.toJson (d : Diagnostic) : JsonValue :=
  .object
    [("kind".toList, .string d.kind.name), ("code".toList, .string d.code.name),
     ("start_offset".toList, .int d.start), ("end_offset".toList, .int d.stop),
     ("message".toList, .string d.message),
     ("replacement".toList, match d.replacement with
       | some text => .string text
       | none => .null)]

def Located.toJson (l : Located) : JsonValue :=
  .object
    [("file".toList, .string l.file), ("line".toList, .int l.line),
     ("column".toList, .int l.column), ("diagnostic".toList, l.diagnostic.toJson)]

def FileReport.toJson (report : FileReport) : JsonValue :=
  .object
    [("file".toList, .string report.file),
     ("diagnostics".toList, .array (report.diagnostics.map Located.toJson))]

namespace ScanReport

def toJson (report : ScanReport) : JsonValue :=
  .object
    [("files".toList, .array (report.files.map FileReport.toJson)),
     ("total".toList, .int report.total)]

def render (report : ScanReport) : Text := report.toJson.render

end ScanReport

end ScadAdvisor
