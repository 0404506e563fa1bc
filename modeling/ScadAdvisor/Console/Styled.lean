import ScadAdvisor.Text.Width

/-! # Styled text

A line for the user is a list of runs, each of one colour or of none. What is shown of it depends on
whether the output takes colours.
-/

namespace ScadAdvisor

inductive Color where
  | red
  | green
  | yellow
  | blue
  | cyan
deriving DecidableEq, Repr

namespace Color

def name : Color → Text
  | .red => "red".toList
  | .green => "green".toList
  | .yellow => "yellow".toList
  | .blue => "blue".toList
  | .cyan => "cyan".toList

def number : Color → Nat
  | .red => 31
  | .green => 32
  | .yellow => 33
  | .blue => 34
  | .cyan => 36

def paint (color : Color) (text : Text) : Text :=
  "\x1b[".toList ++ Text.ofNat color.number ++ ['m'] ++ text ++ "\x1b[0m".toList

end Color

structure StyledRun where
  text : Text
  color : Option Color
deriving DecidableEq, Repr

abbrev StyledText := List StyledRun

namespace StyledText

/-- The controls that move the cursor or ring the bell; no styled text has them. -/
def isCursorControl (c : Char) : Bool :=
  c == '\x07' || c == '\x08' || c == '\x0b' || c == '\x0c' || c == '\r'

def ofText (text : Text) (color : Option Color) : StyledText :=
  [{ text := text.filter fun c => !isCursorControl c, color }]

def plain (styled : StyledText) : Text := styled.flatMap (·.text)

/-- The coloured stretches of a text that starts at `pos`: start, stop and colour. -/
def spansFrom (pos : Nat) : StyledText → List (Nat × Nat × Color)
  | [] => []
  | run :: rest =>
    let stop := pos + run.text.length
    match run.color with
    | some color =>
      if run.text.isEmpty then spansFrom stop rest else (pos, stop, color) :: spansFrom stop rest
    | none => spansFrom stop rest

def spans (styled : StyledText) : List (Nat × Nat × Color) := spansFrom 0 styled

/-! ## Lines -/

/-- The lines of a run: the rest of the line before it, and the lines that it starts. -/
def lines : StyledText → List StyledText
  | [] => [[]]
  | run :: rest =>
    let pieces := (Text.lines run.text).map fun text => ({ run with text } : StyledRun)
    match pieces.reverse, lines rest with
    | last :: earlier, first :: later => earlier.reverse.map (fun p => [p]) ++ (last :: first) :: later
    | _, later => later

/-! ## Tabs

A tab becomes a blank, and blanks follow up to the next multiple of eight columns. The columns up to a tab
are those of the whole stretch behind the tab before it, whatever runs it goes through.
-/

/-- How far a line has come: the column of its last tab stop, and the text since. -/
structure TabPosition where
  column : Nat := 0
  since : Text := []
deriving DecidableEq, Repr

namespace TabPosition

/-- The column behind a tab that has become a blank. -/
def reached (position : TabPosition) : Nat :=
  position.column + Text.width (position.since ++ [' '])

def blanks (position : TabPosition) : Nat := 1 + (8 - position.reached % 8) % 8

def next (position : TabPosition) : TabPosition :=
  { column := position.reached + (8 - position.reached % 8) % 8 }

end TabPosition

/-- The pieces of a run between its tabs. The run is cut behind each of them. -/
def expandPieces (color : Option Color) (position : TabPosition) :
    List Text → StyledText × TabPosition
  | [] => ([], position)
  | piece :: rest =>
    let here := { position with since := position.since ++ piece }
    if rest.isEmpty then ([⟨piece, color⟩], here)
    else
      let (more, last) := expandPieces color here.next rest
      (⟨piece ++ Text.blank here.blanks, color⟩ :: more, last)

/-- A line without tabs, from a position on. -/
def expandTabs (position : TabPosition) : StyledText → StyledText
  | [] => []
  | run :: rest =>
    let (pieces, next) := expandPieces run.color position (Text.splitOn '\t' run.text)
    pieces ++ expandTabs next rest

/-! ## Output -/

/-- A run as it is written. An empty run has no escape sequences. -/
def showRun (colored : Bool) (run : StyledRun) : Text :=
  match run.color with
  | some color => if colored && !run.text.isEmpty then color.paint run.text else run.text
  | none => run.text

/-- What is written for a text: its lines with their tabs expanded, and a newline behind each. -/
def output (colored : Bool) (styled : StyledText) : Text :=
  (lines styled).flatMap fun line => (expandTabs {} line).flatMap (showRun colored) ++ ['\n']

end StyledText

end ScadAdvisor
