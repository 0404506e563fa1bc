import ScadAdvisor.Text.Basic

/-! # Lines and columns -/

namespace ScadAdvisor

/-- Where the lines of a text start. There is always a first line. -/
structure LineIndex where
  starts : List Nat
deriving DecidableEq, Repr

/-- A line and a column. Both count from one for an offset inside the text. -/
structure Position where
  line : Nat
  column : Int
deriving DecidableEq, Repr

namespace LineIndex

def startsFrom : Nat → Text → List Nat
  | _, [] => []
  | pos, c :: cs => if c == '\n' then (pos + 1) :: startsFrom (pos + 1) cs else startsFrom (pos + 1) cs

def ofText (text : Text) : LineIndex := ⟨0 :: startsFrom 0 text⟩

def lineCount (index : LineIndex) : Nat := index.starts.length

/-- The line that holds an offset: the number of lines that start at or before it. -/
def lineOf (index : LineIndex) (offset : Int) : Nat :=
  index.starts.countP fun (start : Nat) => (start : Int) ≤ offset

/-- The offset at which a line starts. Line 0 is the last line again, and lower numbers count further
back from there. -/
def lineStart? (index : LineIndex) (line : Int) : Option Nat :=
  let place := if line ≤ 0 then line - 1 + index.lineCount else line - 1
  if place < 0 then none else index.starts[place.toNat]?

/-- Offsets before the text lie on line 0, and are measured from the start of the last line. -/
def positionOf (index : LineIndex) (offset : Int) : Position :=
  let line := index.lineOf offset
  { line, column := offset - ((index.lineStart? line).getD 0 : Nat) + 1 }

end LineIndex

end ScadAdvisor
