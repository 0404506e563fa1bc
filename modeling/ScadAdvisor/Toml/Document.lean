import ScadAdvisor.Toml.Item

/-! # TOML documents -/

namespace ScadAdvisor.Toml

inductive Statement where
  | assign (key : List Text) (value : Value)
  | table (key : List Text)
  | tables (key : List Text)
deriving Repr

namespace Statement

def assignment (most size : Nat) (text : Text) : Except Fault (Statement × Text) := do
  let (name, rest) ← required (key text)
  match rest with
  | '=' :: rest =>
    let (value, rest) ← item most size (skipGap rest)
    return (.assign name value, rest)
  | _ => throw .malformed

/-- A header in single or double brackets; `text` starts behind the first of them. -/
def header (text : Text) : Except Fault (Statement × Text) := do
  match text with
  | '[' :: text =>
    match ← required (key (skipGap text)) with
    | (name, ']' :: ']' :: rest) => return (.tables name, rest)
    | _ => throw .malformed
  | _ =>
    match ← required (key (skipGap text)) with
    | (name, ']' :: rest) => return (.table name, rest)
    | _ => throw .malformed

/-- The statement at the start of a line, if the line has one; the text has at most `size` characters. -/
def read (most size : Nat) (text : Text) : Except Fault (Option Statement × Text) :=
  match text with
  | [] => .ok (none, [])
  | '[' :: rest => (header rest).map fun (s, rest) => (some s, rest)
  | c :: rest =>
    if c == '\n' || c == '#' then .ok (none, c :: rest)
    else (assignment most size text).map fun (s, rest) => (some s, rest)

/-- The end of a line, with a comment before it if there is one. -/
def lineEnd (text : Text) : Except Fault Text := do
  match ← required (skipComment (skipGap text)) with
  | [] => return []
  | '\n' :: rest => return rest
  | _ => throw .malformed

/-- The statements of a text of at most `fuel` characters, up to the first fault. Each line has at least
one. -/
def readLines (most : Nat) : Nat → Text → List Statement × Option Fault
  | 0, _ => ([], none)
  | _, [] => ([], none)
  | fuel + 1, text =>
    match read most (fuel + 1) (skipGap text) with
    | .error fault => ([], some fault)
    | .ok (statement, rest) =>
      match lineEnd rest with
      | .error fault => (statement.toList, some fault)
      | .ok rest =>
        let (more, fault) := readLines most fuel rest
        (statement.toList ++ more, fault)

end Statement

structure Document where
  entries : Table Node := []
  /-- The key of the header that the assignments stand under. -/
  header : List Text := []
  current : Nat := 0
deriving Repr

namespace Document

/-- Changes the document by one statement, unless it contradicts an earlier one. -/
def apply (document : Document) : Statement → Option Document
  | .assign key value => do
    let entries ← Node.inside (Node.assign document.current value key) document.header document.entries
    return { document with entries }
  | .table key => do
    let name ← key.getLast?
    let entries ← Node.inside (Node.openTable (document.current + 1) name) key.dropLast document.entries
    return { entries, header := key, current := document.current + 1 }
  | .tables key => do
    let name ← key.getLast?
    let entries ← Node.inside (Node.appendTable name) key.dropLast document.entries
    return { entries, header := key, current := document.current + 1 }

end Document

/-- A carriage return before a newline does not count. -/
def dropReturns : Text → Text
  | '\r' :: '\n' :: rest => '\n' :: dropReturns rest
  | c :: rest => c :: dropReturns rest
  | [] => []

/-- The table that a document describes, with values that take at most `most` levels. The first fault
counts, wherever it is. -/
def parse (most : Nat) (text : Text) : Except Fault (Table Value) := do
  let text := dropReturns text
  let (statements, fault) := Statement.readLines most (text.length + 1) text
  let document ← required (statements.foldlM Document.apply {})
  match fault with
  | some fault => throw fault
  | none => return Node.entryValues document.entries

end ScadAdvisor.Toml
