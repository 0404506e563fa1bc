import ScadAdvisor.Value.Basic

/-! # The tree of a TOML document

A table that only leads to another one may still be opened by a header or a dotted key. Once a section
has fixed it, no later section may open it again.
-/

namespace ScadAdvisor.Toml

inductive Node where
  | leaf (value : Value)
  /-- A table and the section that fixed it, if one has. -/
  | table (section? : Option Nat) (entries : List (Text × Node))
  /-- An array of tables, the last of which is open. -/
  | tables (earlier : List (List (Text × Node))) (last : List (Text × Node))
deriving Repr, Inhabited

namespace Node

mutual

def toValue : Node → Value
  | .leaf value => value
  | .table _ entries => .mapping (entryValues entries)
  | .tables earlier last => .list (tableValues earlier ++ [.mapping (entryValues last)])

def entryValues : List (Text × Node) → Table Value
  | [] => []
  | (name, node) :: rest => (name, toValue node) :: entryValues rest

def tableValues : List (List (Text × Node)) → List Value
  | [] => []
  | entries :: rest => .mapping (entryValues entries) :: tableValues rest

end

/-! ## Changes at a place -/

/-- Changes the table that a header leads to, and makes the tables on the way. An array of tables is
entered at its last one. -/
def inside (change : Table Node → Option (Table Node)) : List Text → Table Node → Option (Table Node)
  | [], entries => change entries
  | name :: rest, entries =>
    match Table.get? name entries with
    | none => do
      let below ← inside change rest []
      return Table.put name (.table none below) entries
    | some (.table fixed below) => do
      let below ← inside change rest below
      return Table.put name (.table fixed below) entries
    | some (.tables earlier last) => do
      let last ← inside change rest last
      return Table.put name (.tables earlier last) entries
    | some (.leaf _) => none

def openTable (current : Nat) (name : Text) (entries : Table Node) : Option (Table Node) :=
  match Table.get? name entries with
  | none => some (Table.put name (.table (some current) []) entries)
  | some (.table none below) => some (Table.put name (.table (some current) below) entries)
  | some _ => none

def appendTable (name : Text) (entries : Table Node) : Option (Table Node) :=
  match Table.get? name entries with
  | none => some (Table.put name (.tables [] []) entries)
  | some (.tables earlier last) => some (Table.put name (.tables (earlier ++ [last]) []) entries)
  | some _ => none

/-- Gives a dotted key its value. The tables on the way belong to the current section from then on, and
must not belong to another one. -/
def assign (current : Nat) (value : Value) : List Text → Table Node → Option (Table Node)
  | [], _ => none
  | [name], entries =>
    if (Table.get? name entries).isSome then none else some (Table.put name (.leaf value) entries)
  | name :: rest, entries =>
    match Table.get? name entries with
    | none => do
      let below ← assign current value rest []
      return Table.put name (.table (some current) below) entries
    | some (.table fixed below) =>
      if fixed.all (· == current) then do
        let below ← assign current value rest below
        return Table.put name (.table (some current) below) entries
      else none
    | some _ => none

end Node

end ScadAdvisor.Toml
