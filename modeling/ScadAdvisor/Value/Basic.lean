import ScadAdvisor.Table
import ScadAdvisor.Value.Binary

/-! # Values of a settings document -/

namespace ScadAdvisor

/-- A value as it is read, before anything is known about what it is for. -/
inductive Value where
  | null
  | bool (b : Bool)
  | int (n : Int)
  | real (x : Binary64)
  | string (text : Text)
  /-- A date, a time or both, in their standard form. -/
  | moment (text : Text)
  | list (items : List Value)
  | mapping (entries : List (Text × Value))
deriving Repr, Inhabited

namespace Value

def isMapping : Value → Bool
  | .mapping _ => true
  | _ => false

def kind : Value → Text
  | .null => "NoneType".toList
  | .bool _ => "bool".toList
  | .int _ => "int".toList
  | .real _ => "float".toList
  | .string _ => "str".toList
  | .moment _ => "datetime".toList
  | .list _ => "list".toList
  | .mapping _ => "dict".toList

/-! ## Merging

The later mapping wins, except where both have a mapping: those are merged in turn. A key keeps the
place that it had first.
-/

mutual

def mergeOver (before : Option Value) : Value → Value
  | .mapping later =>
    match before with
    | some (.mapping earlier) => .mapping (mergeEntries earlier later)
    | _ => .mapping later
  | v => v

def mergeEntries (earlier : Table Value) : List (Text × Value) → Table Value
  | [] => earlier
  | (key, value) :: rest =>
    mergeEntries (Table.put key (mergeOver (Table.get? key earlier) value) earlier) rest

end

mutual

/-- How many mappings lie inside each other both in a value and in what was there before. -/
def overlapOver (before : Option Value) : Value → Nat
  | .mapping later =>
    match before with
    | some (.mapping earlier) => overlapEntries earlier later + 1
    | _ => 0
  | _ => 0

def overlapEntries (earlier : Table Value) : List (Text × Value) → Nat
  | [] => 0
  | (key, value) :: rest =>
    max (overlapOver (Table.get? key earlier) value) (overlapEntries earlier rest)

end

/-- Whether two layers share more than `most` mappings inside each other. -/
def overlapsTooDeep (most : Nat) (earlier later : Table Value) : Bool :=
  most < overlapEntries earlier later

def merge (earlier later : Table Value) : Table Value := mergeEntries earlier later

/-- All layers over each other, the first one lowest. -/
def mergeAll (layers : List (Table Value)) : Table Value := layers.foldl merge []

end Value

end ScadAdvisor
