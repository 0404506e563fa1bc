import ScadAdvisor.Settings.Basic
import ScadAdvisor.Text.Identifier
import ScadAdvisor.Text.Lowercase
import ScadAdvisor.Validation.Assign

/-! # Settings from values, and back -/

namespace ScadAdvisor

/-! ## Tables -/

/-- Old and new parameter names have to be identifiers; the first pair that is wrong is reported. -/
def checkParameters (renames : Table Text) : Checked (Table Text) :=
  match renames.find? fun (name, replacement) =>
      !isIdentifier name || !isIdentifier replacement with
  | none => .ok renames
  | some (name, replacement) =>
    Checked.fail (.refused ("invalid parameter rename '".toList ++ name ++ "' -> '".toList ++
      replacement ++ ['\'']))

/-- An extension in lower case, without blanks around it and with a dot in front. Dots alone are no
extension. -/
def normalExtension? (extension : Text) : Option Text :=
  let key := Text.lower (Text.strip extension)
  if key.all (· == '.') then none
  else if key.head? == some '.' then some key
  else some ('.' :: key)

/-- The table with its extensions in normal form. Where two of them agree then, the later message
counts and the earlier place. -/
def normalExtensionsFrom (done : Table Text) : Table Text → Option (Table Text)
  | [] => some done
  | (extension, message) :: rest =>
    match normalExtension? extension with
    | none => none
    | some key => normalExtensionsFrom (Table.put key message done) rest

def checkExtensions (extensions : Table Text) : Checked (Table Text) :=
  match normalExtensionsFrom [] extensions with
  | some normal => .ok normal
  | none => Checked.fail (.refused "deprecated extension must not be empty".toList)

/-! ## Names of the fields -/

namespace Field

def scan : Text := "scan".toList
def output : Text := "output".toList
def deprecations : Text := "deprecations".toList
def reassignments : Text := "reassignments".toList
def parameters : Text := "deprecated_parameters".toList
def extensions : Text := "deprecated_extensions".toList
def includes : Text := "include".toList
def color : Text := "color".toList
def emoji : Text := "emoji".toList
def format : Text := "format".toList

end Field

/-! ## Names of the records -/

def ScanSettings.recordName : Text := "ScanConfig".toList

def OutputSettings.recordName : Text := "OutputConfig".toList

def Settings.recordName : Text := "Config".toList

/-! ## Reading -/

namespace Read

def parameters (v : Value) : Checked (Table Text) := table v >>= checkParameters

def extensions (v : Value) : Checked (Table Text) := table v >>= checkExtensions

def format : Value → Checked OutputFormat := choice OutputFormat.all OutputFormat.name

end Read

def ScanSettings.read (v : Value) : Checked ScanSettings := do
  let default : ScanSettings := {}
  let fields ← Read.entries ScanSettings.recordName v
  let (deprecations, reassignments, parameters, extensions, includes) ←
    Checked.both (Read.optional fields Field.deprecations default.deprecations Read.bool) <|
    Checked.both (Read.optional fields Field.reassignments default.reassignments Read.bool) <|
    Checked.both (Read.optional fields Field.parameters default.parameters Read.parameters) <|
    Checked.both (Read.optional fields Field.extensions default.extensions Read.extensions) <|
    Read.optional fields Field.includes default.includes Read.strings
  return { deprecations, reassignments, parameters, extensions, includes }

def OutputSettings.read (v : Value) : Checked OutputSettings := do
  let default : OutputSettings := {}
  let fields ← Read.entries OutputSettings.recordName v
  let (color, emoji, format) ←
    Checked.both (Read.optional fields Field.color default.color Read.bool) <|
    Checked.both (Read.optional fields Field.emoji default.emoji Read.bool) <|
    Read.optional fields Field.format default.format Read.format
  return { color, emoji, format }

/-- Settings from a value. Fields that are not known are passed over. -/
def Settings.read (v : Value) : Checked Settings := do
  let fields ← Read.entries Settings.recordName v
  let (scan, output) ←
    Checked.both (Read.optional fields Field.scan {} ScanSettings.read) <|
    Read.optional fields Field.output {} OutputSettings.read
  return { scan, output }

/-! ## Writing -/

def tableValue (table : Table Text) : Value :=
  .mapping (table.map fun (key, text) => (key, .string text))

def ScanSettings.toValue (s : ScanSettings) : Value :=
  .mapping
    [(Field.deprecations, .bool s.deprecations), (Field.reassignments, .bool s.reassignments),
     (Field.parameters, tableValue s.parameters), (Field.extensions, tableValue s.extensions),
     (Field.includes, .list (s.includes.map .string))]

def OutputSettings.toValue (s : OutputSettings) : Value :=
  .mapping
    [(Field.color, .bool s.color), (Field.emoji, .bool s.emoji),
     (Field.format, .string s.format.name)]

def Settings.toTable (s : Settings) : Table Value :=
  [(Field.scan, s.scan.toValue), (Field.output, s.output.toValue)]

def Settings.toValue (s : Settings) : Value := .mapping s.toTable

/-! ## Setting single fields -/

def ScanSettings.setters : List (FieldSetter ScanSettings) :=
  [⟨Field.deprecations, fun s v => (Read.bool v).map fun b => { s with deprecations := b }⟩,
   ⟨Field.reassignments, fun s v => (Read.bool v).map fun b => { s with reassignments := b }⟩,
   ⟨Field.parameters, fun s v => (Read.parameters v).map fun t => { s with parameters := t }⟩,
   ⟨Field.extensions, fun s v => (Read.extensions v).map fun t => { s with extensions := t }⟩,
   ⟨Field.includes, fun s v => (Read.strings v).map fun l => { s with includes := l }⟩]

def OutputSettings.setters : List (FieldSetter OutputSettings) :=
  [⟨Field.color, fun s v => (Read.bool v).map fun b => { s with color := b }⟩,
   ⟨Field.emoji, fun s v => (Read.bool v).map fun b => { s with emoji := b }⟩,
   ⟨Field.format, fun s v => (Read.format v).map fun f => { s with format := f }⟩]

def Settings.setters : List (FieldSetter Settings) :=
  [⟨Field.scan, fun s v => (ScanSettings.read v).map fun r => { s with scan := r }⟩,
   ⟨Field.output, fun s v => (OutputSettings.read v).map fun r => { s with output := r }⟩]

inductive Section where
  | scan
  | output
  | whole
deriving DecidableEq, Repr

/-- Sets a field of one of the records. A value that is refused leaves the settings as they are. -/
def Settings.assign (s : Settings) (place : Section) (field : Text) (v : Value) :
    Except AssignFault Settings :=
  match place with
  | .scan =>
    (setField ScanSettings.recordName ScanSettings.setters s.scan field v).map fun r => { s with scan := r }
  | .output =>
    (setField OutputSettings.recordName OutputSettings.setters s.output field v).map fun r =>
      { s with output := r }
  | .whole => setField Settings.recordName Settings.setters s field v

end ScadAdvisor
