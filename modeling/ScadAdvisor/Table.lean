import ScadAdvisor.Text.Basic

/-! # Ordered tables

Entries stand in the order in which their keys were first put. Putting a key again keeps its place.
-/

namespace ScadAdvisor

/-- Keys with what they stand for; a table built by `put` has each key once. -/
abbrev Table (α : Type) := List (Text × α)

namespace Table

variable {α : Type}

def get? (key : Text) : Table α → Option α
  | [] => none
  | (k, v) :: rest => if k == key then some v else get? key rest

def put (key : Text) (value : α) : Table α → Table α
  | [] => [(key, value)]
  | (k, v) :: rest => if k == key then (k, value) :: rest else (k, v) :: put key value rest

def keys (table : Table α) : List Text := table.map (·.1)

end Table

end ScadAdvisor
