import ScadAdvisor.Console.Styled

/-! # Messages about the run -/

namespace ScadAdvisor

inductive Status where
  | info
  | ok
  | warn
  | fail
deriving DecidableEq, Repr

namespace Status

def color : Status → Color
  | .info => .cyan
  | .ok => .green
  | .warn => .yellow
  | .fail => .red

/-- The sign in front of a message, with the space behind it. -/
def emoji : Status → Text
  | .info => ['\u2139', '\ufe0f', ' ']
  | .ok => ['\u2705', ' ']
  | .warn => ['\u26a0', '\ufe0f', ' ']
  | .fail => ['\u274c', ' ']

def line (status : Status) (useEmoji useColor : Bool) (message : Text) : StyledText :=
  StyledText.ofText ((if useEmoji then status.emoji else []) ++ message)
    (if useColor then some status.color else none)

/-- What is written for a message. Without a wish, colours are used on a terminal. -/
def output (status : Status) (terminal useEmoji : Bool) (useColor : Option Bool) (message : Text) :
    Text :=
  let color := useColor.getD terminal
  (status.line useEmoji color message).output (color && terminal)

end Status

end ScadAdvisor
