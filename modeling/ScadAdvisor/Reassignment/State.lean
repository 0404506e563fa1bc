import ScadAdvisor.Diagnostic
import ScadAdvisor.LineStrip
import ScadAdvisor.Reassignment.Pattern

/-! # The state of the reassignment scan

Only the bodies of modules and functions open a scope; a bare block shares the scope around it. The
scan goes line by line, so that its state can be looked at between two lines.
-/

namespace ScadAdvisor.Reassignment

/-- A body that is open, and the brace depth just behind its opening brace. -/
structure Scope where
  id : Nat
  anchor : Nat
deriving DecidableEq, Repr

def globalScope : Scope := ⟨0, 0⟩

structure Record where
  line : Nat
  offset : Nat
deriving DecidableEq, Repr

structure State where
  braces : Nat := 0
  parens : Nat := 0
  inBlock : Bool := false
  /-- The bodies that are open, the innermost one first. -/
  bodies : List Scope := []
  nextId : Nat := 1
  /-- A signature was read whose body has not been opened. -/
  pending : Bool := false
  /-- The first assignments in the scopes that are open. -/
  assigned : List ((Nat × Text) × Record) := []
  line : Nat := 0
  offset : Nat := 0
deriving DecidableEq, Repr

namespace State

/-- The open scopes, from the global one inwards. -/
def scopes (s : State) : List Scope := globalScope :: s.bodies.reverse

def current (s : State) : Scope := s.bodies.head?.getD globalScope

/-- An opening brace opens the body of a signature that is waiting for one. -/
def openBrace (s : State) : State :=
  if s.pending then
    { s with
      braces := s.braces + 1
      bodies := ⟨s.nextId, s.braces + 1⟩ :: s.bodies
      nextId := s.nextId + 1
      pending := false }
  else { s with braces := s.braces + 1 }

/-- A closing brace closes the innermost body if that is anchored at this depth, and forgets what was
assigned there. Without an open brace it does nothing. -/
def closeBrace (s : State) : State :=
  match s.bodies with
  | top :: rest =>
    if top.anchor == s.braces then
      { s with
        braces := s.braces - 1
        bodies := rest
        assigned := s.assigned.filter fun entry => entry.1.1 != top.id }
    else { s with braces := s.braces - 1 }
  | [] => { s with braces := s.braces - 1 }

def openBraces : Nat → State → State
  | 0, s => s
  | n + 1, s => openBraces n s.openBrace

def closeBraces : Nat → State → State
  | 0, s => s
  | n + 1, s => closeBraces n s.closeBrace

/-- The depth of parentheses behind a text. It never goes below zero. -/
def parenDepth : Nat → Text → Nat
  | depth, [] => depth
  | depth, c :: cs =>
    parenDepth (if c == '(' then depth + 1 else if c == ')' then depth - 1 else depth) cs

def countParens (s : State) (text : Text) : State := { s with parens := parenDepth s.parens text }

def recordOf (s : State) (name : Text) : Option Record := s.assigned.lookup (s.current.id, name)

end State

def message (name : Text) (firstLine : Nat) : Text :=
  "'".toList ++ name ++ "' was assigned on line ".toList ++ Text.ofNat firstLine ++
    " but was overwritten".toList

def warning (a : Assignment) (start firstLine : Nat) : Diagnostic where
  kind := .reassignment
  code := .variableReassignment
  start := start
  stop := start + a.name.length
  message := message a.name firstLine
  replacement := none
  start_lt_stop := Nat.lt_add_of_pos_right (List.length_pos_iff.mpr a.name_ne_nil)

namespace State

/-- The first assignment of a name in its scope is recorded; any later one is a finding. -/
def assign (s : State) (a : Assignment) : State × Option Diagnostic :=
  if keywords.contains a.name then (s, none)
  else match s.recordOf a.name with
    | some first => (s, some (warning a (s.offset + a.offset) first.line))
    | none =>
      ({ s with assigned := s.assigned ++ [((s.current.id, a.name), ⟨s.line, s.offset + a.offset⟩)] },
        none)

/-- One line. What it opens counts before its assignment, and what it closes after it; an assignment
counts only outside parentheses and on a line that starts outside comments. -/
def advance (s : State) (line : Text) : State × Option Diagnostic :=
  let strip := stripLine s.inBlock line
  let working := strip.text
  let opened := openBraces (working.count '{')
    { s with
      line := s.line + 1
      inBlock := strip.inBlock
      pending := s.pending || isSignature working }
  let checked :=
    if s.parens == 0 && !strip.startedInBlock then
      match assignment? working with
      | some a => opened.assign a
      | none => (opened, none)
    else (opened, none)
  -- Parentheses are counted behind the assignment: those on its own line do not hide it.
  let closed := closeBraces (working.count '}') (checked.1.countParens working)
  ({ closed with offset := closed.offset + line.length + 1 }, checked.2)

def advanceAll : State → List Text → State × List Diagnostic
  | s, [] => (s, [])
  | s, line :: rest =>
    let next := s.advance line
    let tail := advanceAll next.1 rest
    (tail.1, next.2.toList ++ tail.2)

end State

end ScadAdvisor.Reassignment

namespace ScadAdvisor

def findReassignments (text : Text) : List Diagnostic := (Reassignment.State.advanceAll {} text.lines).2

end ScadAdvisor
