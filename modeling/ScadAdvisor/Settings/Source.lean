import ScadAdvisor.File.Tree
import ScadAdvisor.Log
import ScadAdvisor.Settings.Validation
import ScadAdvisor.Toml.Document

/-! # Where settings come from

Every source gives a fragment. The fragments are put over each other, and only the result is checked.
-/

namespace ScadAdvisor

inductive SettingsSource where
  | defaults
  /-- A document that has settings only. -/
  | document (path : Path) (name : Text)
  /-- The document of a project, which has a section for the settings. -/
  | project (path : Path) (name : Text)
deriving DecidableEq, Repr

inductive SettingsFault where
  | noSources
  /-- The document that was asked for is no file. -/
  | notFound (path : Path)
  /-- A document that could not even be looked up. -/
  | inaccessible (path : Path) (fault : FileFault)
  | unreadable (path : Path) (fault : FileFault)
  | undecodable (fault : Utf8Fault)
  | malformed (path : Path)
  | longNumber (digits : Nat)
  /-- The values of a document lie too deep inside each other. -/
  | tooDeep
  /-- Two sources have tables that lie too deep inside each other. -/
  | overlapTooDeep
  | invalid (problems : List Problem)
deriving Repr

/-- Whether a fault is the user's to mend, and reported as such. -/
def SettingsFault.isReported : SettingsFault → Bool
  | .notFound _ | .unreadable _ _ | .malformed _ | .invalid _ => true
  | .noSources | .inaccessible _ _ | .undecodable _ | .longNumber _ | .tooDeep | .overlapTooDeep => false

/-- What the TOML reader has against a malformed document is left open, and two words stand in its
place. -/
def SettingsFault.message : SettingsFault → Text
  | .noSources => "at least one configuration source is required".toList
  | .notFound path => "Configuration file not found: ".toList ++ path.toText
  | .inaccessible path fault => fault.message path
  | .unreadable path fault =>
    "Unable to read configuration at ".toList ++ path.toText ++ ": ".toList ++ fault.message path
  | .undecodable fault => fault.message
  | .malformed path =>
    "Unable to read configuration at ".toList ++ path.toText ++ ": malformed document".toList
  | .longNumber digits =>
    "Exceeds the limit (".toList ++ Text.ofNat Toml.mostDigits ++
      " digits) for integer string conversion: value has ".toList ++ Text.ofNat digits ++
      " digits; use sys.set_int_max_str_digits() to increase the limit".toList
  | .tooDeep => "maximum recursion depth exceeded".toList
  | .overlapTooDeep => "maximum recursion depth exceeded in comparison".toList
  | .invalid problems =>
    Text.join "\n".toList (problems.map fun p => p.fault.message)

namespace SettingsSource

/-- What a source is called in records: its path, unless it has a name of its own. -/
def label : SettingsSource → Text
  | .defaults => "defaults".toList
  | .document path name | .project path name => if name.isEmpty then path.toText else name

/-- The table of a document; a document that is not there is an empty one. -/
def readDocument (tree : FileTree) (path : Path) : Except SettingsFault (Table Value) :=
  match tree.pathExists path with
  | .error fault => .error (.inaccessible path fault)
  | .ok false => .ok []
  | .ok true =>
    match tree.read path with
    | .error fault => .error (.unreadable path fault)
    | .ok bytes =>
      match Utf8.decode bytes with
      | .error fault => .error (.undecodable fault)
      | .ok text =>
        match Toml.parse tree.limits.levels text with
        | .error .malformed => .error (.malformed path)
        | .error (.longNumber digits) => .error (.longNumber digits)
        | .error .tooDeep => .error .tooDeep
        | .ok table => .ok table

/-- The table at a key; anything else there counts as an empty one. -/
def subtable (key : Text) (table : Table Value) : Table Value :=
  match Table.get? key table with
  | some (.mapping entries) => entries
  | _ => []

def projectSection (table : Table Value) : Table Value :=
  subtable "scadlint".toList (subtable "tool".toList table)

def fragment (tree : FileTree) : SettingsSource → Except SettingsFault (Table Value)
  | .defaults => .ok ({} : Settings).toTable
  | .document path _ => readDocument tree path
  | .project path _ => (readDocument tree path).map projectSection

def record (source : SettingsSource) (fragment : Table Value) : List LogRecord :=
  if fragment.isEmpty then []
  else [⟨.settings, "applying configuration from ".toList ++ source.label⟩]

/-- The fragments over `merged`, the first of them lowest, and the records of those before a fault. -/
def gather (tree : FileTree) (merged : Table Value) :
    List SettingsSource → List LogRecord × Except SettingsFault (Table Value)
  | [] => ([], .ok merged)
  | source :: rest =>
    match source.fragment tree with
    | .error fault => ([], .error fault)
    | .ok fragment =>
      let (records, result) :=
        if Value.overlapsTooDeep tree.limits.overlap merged fragment then ([], .error .overlapTooDeep)
        else gather tree (Value.merge merged fragment) rest
      (source.record fragment ++ records, result)

/-- The sources for a project, lowest first: the defaults, the two documents in its directory, and the
document that was asked for. -/
def forProject (tree : FileTree) (directory : Path) (asked : Option Path) :
    Except SettingsFault (List SettingsSource) :=
  let standing : List SettingsSource :=
    [.defaults, .project (directory.child "pyproject.toml".toList) [],
     .document (directory.child ".scadlint.toml".toList) []]
  match asked with
  | none => .ok standing
  | some path =>
    match tree.isFile path with
    | .error fault => .error (.inaccessible path fault)
    | .ok true => .ok (standing ++ [.document path []])
    | .ok false => .error (.notFound path)

end SettingsSource

namespace Settings

def ofSources (tree : FileTree) (sources : List SettingsSource) :
    List LogRecord × Except SettingsFault Settings :=
  if sources.isEmpty then ([], .error .noSources)
  else
    let (records, merged) := SettingsSource.gather tree [] sources
    match merged with
    | .error fault => (records, .error fault)
    | .ok table =>
      match Settings.read (.mapping table) with
      | .ok settings => (records, .ok settings)
      | .error problems => (records, .error (.invalid problems))

def load (tree : FileTree) (directory : Path) (asked : Option Path) :
    List LogRecord × Except SettingsFault Settings :=
  match SettingsSource.forProject tree directory asked with
  | .error fault => ([], .error fault)
  | .ok sources => ofSources tree sources

end Settings

end ScadAdvisor
