import ScadAdvisor.CommandLine.Request
import ScadAdvisor.Console.Status
import ScadAdvisor.Report.Line
import ScadAdvisor.Scan

/-! # Runs of the command line

A run sees the files as a value, and what it writes is a value too. Debug records that one run has
switched on are still written in the next.
-/

namespace ScadAdvisor.CommandLine

/-- What breaks a run off without being the user's mistake. -/
inductive RunFault where
  | settings (fault : SettingsFault)
  | pattern (fault : CollectFault)
deriving Repr

def RunFault.message : RunFault → Text
  | .settings fault => fault.message
  | .pattern fault => fault.message

inductive Ending where
  | exit (code : Nat)
  | misuse (fault : UsageFault)
  | failure (fault : RunFault)
deriving Repr

def Ending.code : Ending → Nat
  | .exit code => code
  | .misuse _ => 2
  | .failure _ => 1

structure RunResult where
  ending : Ending
  stdout : Text := []
  stderr : Text := []
  logging : Logging
deriving Repr

/-! ## Settings -/

/-- The format that was asked for, if one was. Blanks around it and its case do not count. -/
def Options.outputFormat (options : Options) : Except UsageFault (Option OutputFormat) :=
  match options.format with
  | none => .ok none
  | some text =>
    match OutputFormat.ofName? (Text.lower (Text.strip text)) with
    | some format => .ok (some format)
    | none => .error .badFormat

def Options.apply (options : Options) (format : Option OutputFormat) (settings : Settings) : Settings where
  scan :=
    { settings.scan with
      deprecations := settings.scan.deprecations && !options.noDeprecations
      reassignments := settings.scan.reassignments && !options.noReassignments }
  output :=
    { color := settings.output.color && !options.noColor
      emoji := settings.output.emoji && !options.noEmoji
      format := format.getD settings.output.format }

/-- Runs a task with the settings that the options lead to. The format is checked first, and from then
on a verbose run writes its records. -/
def withSettings (tree : FileTree) (logging : Logging) (options : Options)
    (task : Settings → Ending × Text) : RunResult :=
  match options.outputFormat with
  | .error fault => { ending := .misuse fault, logging }
  | .ok format =>
    let logging := if options.verbose then logging.enable else logging
    let (records, loaded) := Settings.load tree options.root options.config
    let stderr := logging.write records
    match loaded with
    | .error fault =>
      let ending := if fault.isReported then .misuse (.badSettings fault) else .failure (.settings fault)
      { ending, stderr, logging }
    | .ok settings =>
      let (ending, stdout) := task (options.apply format settings)
      { ending, stdout, stderr, logging }

/-! ## Output -/

def say (terminal : Bool) (output : OutputSettings) (status : Status) (message : Text) : Text :=
  status.output terminal output.emoji (some output.color) message

def reportLines (terminal : Bool) (output : OutputSettings) (report : ScanReport) : Text :=
  let summary :=
    if report.total == 0 then say terminal output .ok "No diagnostics found".toList
    else say terminal output .warn (Text.ofNat report.total ++ " diagnostic(s) found in ".toList ++
      Text.ofNat report.affected ++ " file(s)".toList)
  report.files.flatMap (·.output terminal output.color) ++ summary

/-- Shows a report. Diagnostics make the run end with 1. -/
def emit (terminal : Bool) (output : OutputSettings) (report : ScanReport) : Ending × Text :=
  (.exit (if report.total == 0 then 0 else 1),
    match output.format with
    | .json => report.render ++ ['\n']
    | .text => reportLines terminal output report)

/-! ## Commands -/

def fileReport (settings : ScanSettings) (name text : Text) : FileReport :=
  { file := name, diagnostics := locate name text (settings.findings text) }

/-- Scans the sources in turn, and says so if `progress` is set. The first one that cannot be read ends
it. -/
def scanSources (tree : FileTree) (terminal progress : Bool) (settings : Settings) :
    List Path → Text × Option (List FileReport)
  | [] => ([], some [])
  | source :: rest =>
    let name := source.toText
    let started :=
      if progress then say terminal settings.output .info ("Scanning ".toList ++ name) else []
    match tree.readText source with
    | .error fault =>
      (started ++ say terminal settings.output .fail
        ("Unable to read ".toList ++ name ++ ": ".toList ++ fault.message), none)
    | .ok text =>
      let (shown, reports) := scanSources tree terminal progress settings rest
      (started ++ shown, reports.map (fileReport settings.scan name text :: ·))

def scanPaths (tree : FileTree) (terminal verbose : Bool) (paths : List Path) (settings : Settings) :
    Ending × Text :=
  match tree.collect settings.scan.includes paths with
  | .error (.notFound path) => (.misuse (.badPath path), [])
  | .error fault => (.failure (.pattern fault), [])
  | .ok sources =>
    let progress := verbose && settings.output.format == .text
    match scanSources tree terminal progress settings sources with
    | (shown, none) => (.exit 2, shown)
    | (shown, some files) =>
      let (ending, report) := emit terminal settings.output { files }
      (ending, shown ++ report)

/-- What stands in the place of a file name for a text from the command line. -/
def inlineName : Text := "<text>".toList

def checkText (terminal : Bool) (text : Text) (settings : Settings) : Ending × Text :=
  emit terminal settings.output { files := [fileReport settings.scan inlineName text] }

/-- A text in the place of the help, which the library for command lines makes up from the options. -/
def helpText : Text :=
  ("Usage: scadlint COMMAND [OPTIONS]\n\n" ++
    "  scan PATHS...      Scan files and directories.\n" ++
    "  check-text --text  Scan a text.\n\n" ++
    "Options: --root, --config, --format, --no-color, --no-emoji, --no-deprecations,\n" ++
    "  --no-reassignments, --verbose (-v), --help\n").toList

def sources (tree : FileTree) : Request → List Path
  | .scan paths options =>
    match (Settings.load tree options.root options.config).2 with
    | .ok settings => (tree.collect settings.scan.includes paths).toOption.getD []
    | .error _ => []
  | _ => []

def run (tree : FileTree) (terminal : Bool) (logging : Logging) (args : List Text) : RunResult :=
  match Request.ofArguments args with
  | .error fault => { ending := .misuse fault, logging }
  | .ok .help => { ending := .exit 0, stdout := helpText, logging }
  | .ok (.scan paths options) =>
    withSettings tree logging options (scanPaths tree terminal options.verbose paths)
  | .ok (.checkText text options) => withSettings tree logging options (checkText terminal text)

end ScadAdvisor.CommandLine
