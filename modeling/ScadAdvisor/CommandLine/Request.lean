import ScadAdvisor.File.Collect
import ScadAdvisor.Settings.Source

/-! # What the command line asks for

Options may stand anywhere among the arguments of a command, up to two dashes alone. A value follows
its option or stands behind a sign of equality, and of several values the last one counts.
-/

namespace ScadAdvisor.CommandLine

inductive Command where
  | scan
  | checkText
deriving DecidableEq, Repr

def Command.ofName? (name : Text) : Option Command :=
  if name == "scan".toList then some .scan
  else if name == "check-text".toList then some .checkText
  else none

inductive Flag where
  | noColor
  | noEmoji
  | noDeprecations
  | noReassignments
  | verbose
  | help
deriving DecidableEq, Repr

inductive Parameter where
  | text
  | root
  | config
  | format
deriving DecidableEq, Repr

inductive OptionName where
  | flag (flag : Flag)
  | parameter (parameter : Parameter)
deriving DecidableEq, Repr

def Command.options (command : Command) : Table OptionName :=
  [("--root".toList, .parameter .root), ("--config".toList, .parameter .config),
   ("--format".toList, .parameter .format), ("--no-color".toList, .flag .noColor),
   ("--no-emoji".toList, .flag .noEmoji), ("--no-deprecations".toList, .flag .noDeprecations),
   ("--no-reassignments".toList, .flag .noReassignments), ("--verbose".toList, .flag .verbose),
   ("--help".toList, .flag .help)] ++
    match command with
    | .scan => []
    | .checkText => [("--text".toList, .parameter .text)]

inductive UsageFault where
  | noCommand
  | unknownCommand (name : Text)
  | unknownOption (name : Text)
  | valueMissing (name : Text)
  | valueUnwanted (name : Text)
  | argumentMissing (name : Text)
  | argumentUnwanted (argument : Text)
  | nullInPath
  | badFormat
  | badSettings (fault : SettingsFault)
  | badPath (path : Path)
deriving Repr

def UsageFault.message : UsageFault → Text
  | .noCommand => "Missing command.".toList
  | .unknownCommand name => "No such command '".toList ++ name ++ "'.".toList
  | .unknownOption name => "No such option: ".toList ++ name
  | .valueMissing name => "Option '".toList ++ name ++ "' requires an argument.".toList
  | .valueUnwanted name => "Option '".toList ++ name ++ "' does not take a value.".toList
  | .argumentMissing name => "Missing '".toList ++ name ++ "'.".toList
  | .argumentUnwanted argument => "Got unexpected extra argument (".toList ++ argument ++ [')']
  | .nullInPath => "Value error, embedded null byte".toList
  | .badFormat => "Format must be 'text' or 'json'.".toList
  | .badSettings fault => fault.message
  | .badPath path => (CollectFault.notFound path).message

/-! ## Words -/

inductive Word where
  | flag (flag : Flag)
  | parameter (parameter : Parameter) (value : Text)
  | argument (text : Text)
deriving DecidableEq, Repr

/-- A dash alone is an argument. -/
def isOption (arg : Text) : Bool := arg.head? == some '-' && arg.length > 1

def isLong (arg : Text) : Bool := ['-', '-'].isPrefixOf arg

/-- The name of an option, and the value behind the first sign of equality. -/
def splitValue (arg : Text) : Text × Option Text :=
  let name := arg.takeWhile (· != '=')
  (name, if name.length == arg.length then none else some (arg.drop (name.length + 1)))

def shortFlags : Text → Except UsageFault (List Word)
  | [] => .ok []
  | c :: rest =>
    if c == 'v' then (shortFlags rest).map (.flag .verbose :: ·)
    else .error (.unknownOption ['-', c])

/-- The words of a command's arguments. The first fault counts. -/
def readWords (options : Table OptionName) : List Text → Except UsageFault (List Word)
  | [] => .ok []
  | arg :: rest =>
    if arg == ['-', '-'] then .ok (rest.map .argument)
    else if !isOption arg then (readWords options rest).map (.argument arg :: ·)
    else
      let (name, value) := splitValue arg
      match Table.get? name options with
      | some (.flag flag) =>
        if value.isSome then .error (.valueUnwanted name)
        else (readWords options rest).map (.flag flag :: ·)
      | some (.parameter parameter) =>
        match value, rest with
        | some value, rest => (readWords options rest).map (.parameter parameter value :: ·)
        | none, value :: rest => (readWords options rest).map (.parameter parameter value :: ·)
        | none, [] => .error (.valueMissing name)
      | none =>
        if isLong arg then .error (.unknownOption name)
        else do
          let flags ← shortFlags arg.tail
          let words ← readWords options rest
          return flags ++ words

/-- Before the command only the option for help is known. Gives whether it was there, and the command
with its arguments. -/
def readCommand : List Text → Except UsageFault (Bool × List Text)
  | [] => .ok (false, [])
  | arg :: rest =>
    if arg == ['-', '-'] then .ok (false, rest)
    else if !isOption arg then .ok (false, arg :: rest)
    else
      let (name, value) := splitValue arg
      if name != "--help".toList then .error (.unknownOption name)
      else if value.isSome then .error (.valueUnwanted name)
      else (readCommand rest).map fun (_, args) => (true, args)

/-! ## Requests -/

structure Options where
  root : Path
  config : Option Path
  format : Option Text
  noColor : Bool
  noEmoji : Bool
  noDeprecations : Bool
  noReassignments : Bool
  verbose : Bool
deriving DecidableEq, Repr

inductive Request where
  | help
  | scan (paths : List Path) (options : Options)
  | checkText (text : Text) (options : Options)
deriving DecidableEq, Repr

def lastValue (parameter : Parameter) : List Word → Option Text
  | [] => none
  | word :: rest =>
    match lastValue parameter rest with
    | some value => some value
    | none =>
      match word with
      | .parameter p value => if p == parameter then some value else none
      | _ => none

def arguments (words : List Word) : List Text :=
  words.filterMap fun
    | .argument text => some text
    | _ => none

def Options.ofWords (words : List Word) : Options where
  root := Path.ofText ((lastValue .root words).getD [])
  config := (lastValue .config words).map Path.ofText
  format := lastValue .format words
  noColor := words.contains (.flag .noColor)
  noEmoji := words.contains (.flag .noEmoji)
  noDeprecations := words.contains (.flag .noDeprecations)
  noReassignments := words.contains (.flag .noReassignments)
  verbose := words.contains (.flag .verbose)

namespace Request

/-- The paths among a list of texts, none of which may have a null character. -/
def paths (texts : List Text) : Except UsageFault (List Path) :=
  let found := texts.map Path.ofText
  if found.any Path.hasNull then .error .nullInPath else .ok found

/-- The paths of options are checked first, then the arguments of the command. What is missing is reported
before what is too much. -/
def ofWords (command : Command) (words : List Word) : Except UsageFault Request :=
  if words.contains (.flag .help) then .ok .help
  else do
    let options := Options.ofWords words
    if (options.root :: options.config.toList).any Path.hasNull then throw .nullInPath
    match command with
    | .scan =>
      if (arguments words).isEmpty then throw (.argumentMissing "PATHS...".toList)
      return .scan (← paths (arguments words)) options
    | .checkText =>
      match lastValue .text words, arguments words with
      | none, _ => throw (.argumentMissing "--text".toList)
      | some _, argument :: _ => throw (.argumentUnwanted argument)
      | some text, [] => return .checkText text options

/-- What stands in the place of a command may still be an option. -/
def ofUnknown (name : Text) (args : List Text) : Except UsageFault Request := do
  let (wantsHelp, _) ← readCommand (name :: args)
  if wantsHelp then return .help
  throw (.unknownCommand name)

def ofArguments (args : List Text) : Except UsageFault Request := do
  let (wantsHelp, args) ← readCommand args
  if wantsHelp then return .help
  match args with
  | [] => throw .noCommand
  | name :: args =>
    match Command.ofName? name with
    | none => ofUnknown name args
    | some command => do
      let words ← readWords command.options args
      ofWords command words

end Request

end ScadAdvisor.CommandLine
