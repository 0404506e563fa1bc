import ScadAdvisor.Text.Basic

/-! # Blanking the comments of one line

A scan that goes line by line carries one flag: whether a block comment is open. On each line only
the first block comment that opens there is recognised.
-/

namespace ScadAdvisor

/-- A line with its comments blanked, and the flag before and after it. -/
structure LineStrip where
  text : Text
  startedInBlock : Bool
  inBlock : Bool
deriving DecidableEq, Repr

namespace LineStrip

/-- Blanks the rest of a block comment that was open before the line. -/
def closeCarried (line : Text) : Text × Bool :=
  match Text.findPair '*' '/' line with
  | some n => (Text.blank (n + 2) ++ line.drop (n + 2), false)
  | none => (Text.blank line.length, true)

def stripBlock (line : Text) : Text × Bool :=
  match Text.findPair '/' '*' line with
  | none => (line, false)
  | some start =>
    match Text.findPair '*' '/' (line.drop (start + 2)) with
    | some n => (line.take start ++ Text.blank (n + 4) ++ line.drop (start + n + 4), false)
    | none => (line.take start ++ Text.blank (line.length - start), true)

def stripRest (line : Text) : Text :=
  match Text.findPair '/' '/' line with
  | some n => line.take n ++ Text.blank (line.length - n)
  | none => line

end LineStrip

/-- The line with its comments blanked, `inBlock` saying whether a block comment is open before it. -/
def stripLine (inBlock : Bool) (line : Text) : LineStrip :=
  let carried := if inBlock then LineStrip.closeCarried line else (line, false)
  let stripped := if carried.2 then carried else LineStrip.stripBlock carried.1
  { text := LineStrip.stripRest stripped.1, startedInBlock := inBlock, inBlock := stripped.2 }

/-- Line after line, each one starting as the one before it ended. -/
def stripLines (inBlock : Bool) : List Text → List LineStrip
  | [] => []
  | line :: rest =>
    let strip := stripLine inBlock line
    strip :: stripLines strip.inBlock rest

end ScadAdvisor
