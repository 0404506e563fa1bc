import ScadAdvisor.Text.Basic

/-! # What can be wrong with a value -/

namespace ScadAdvisor

inductive PathStep where
  | key (name : Text)
  | index (n : Nat)
deriving DecidableEq, Repr

inductive Fault where
  | missing
  | notBool
  | unclearBool
  | notInt
  | unclearInt
  | fractionalInt
  | hugeInt
  | infiniteInt
  | negative
  | notString
  | notList
  | notMapping
  | notRecord (record : Text)
  | notMember (members : List Text)
  | notChoice (choices : List Text)
  /-- Well formed, but refused for the reason given. -/
  | refused (reason : Text)
  | frozen
  | unknownField (name : Text)
deriving DecidableEq, Repr

namespace Fault

/-- The choices in quotes, the last one behind an "or". -/
def alternatives : List Text → Text
  | [] => []
  | [a] => '\'' :: a ++ ['\'']
  | [a, b] => '\'' :: a ++ "' or '".toList ++ b ++ ['\'']
  | a :: rest => '\'' :: a ++ "', ".toList ++ alternatives rest

def tag : Fault → Text
  | .missing => "missing".toList
  | .notBool => "bool_type".toList
  | .unclearBool => "bool_parsing".toList
  | .notInt => "int_type".toList
  | .unclearInt => "int_parsing".toList
  | .fractionalInt => "int_from_float".toList
  | .hugeInt => "int_parsing_size".toList
  | .infiniteInt => "finite_number".toList
  | .negative => "greater_than_equal".toList
  | .notString => "string_type".toList
  | .notList => "list_type".toList
  | .notMapping => "dict_type".toList
  | .notRecord _ => "model_type".toList
  | .notMember _ => "enum".toList
  | .notChoice _ => "literal_error".toList
  | .refused _ => "value_error".toList
  | .frozen => "frozen_instance".toList
  | .unknownField _ => "no_such_attribute".toList

def message : Fault → Text
  | .missing => "Field required".toList
  | .notBool => "Input should be a valid boolean".toList
  | .unclearBool => "Input should be a valid boolean, unable to interpret input".toList
  | .notInt => "Input should be a valid integer".toList
  | .unclearInt =>
    "Input should be a valid integer, unable to parse string as an integer".toList
  | .fractionalInt =>
    "Input should be a valid integer, got a number with a fractional part".toList
  | .hugeInt => "Unable to parse input string as an integer, exceeded maximum size".toList
  | .infiniteInt => "Input should be a finite number".toList
  | .negative => "Input should be greater than or equal to 0".toList
  | .notString => "Input should be a valid string".toList
  | .notList => "Input should be a valid list".toList
  | .notMapping => "Input should be a valid dictionary".toList
  | .notRecord record => "Input should be a valid dictionary or instance of ".toList ++ record
  | .notMember members => "Input should be ".toList ++ alternatives members
  | .notChoice choices => "Input should be ".toList ++ alternatives choices
  | .refused reason => "Value error, ".toList ++ reason
  | .frozen => "Instance is frozen".toList
  | .unknownField name => "Object has no attribute '".toList ++ name ++ ['\'']

end Fault

structure Problem where
  path : List PathStep
  fault : Fault
deriving DecidableEq, Repr

/-- A value that was read, or all problems that were met. -/
abbrev Checked (α : Type) := Except (List Problem) α

namespace Checked

variable {α β : Type}

def fail (fault : Fault) : Checked α := .error [⟨[], fault⟩]

def under (step : PathStep) : Checked α → Checked α
  | .ok a => .ok a
  | .error problems => .error (problems.map fun p => { p with path := step :: p.path })

def both : Checked α → Checked β → Checked (α × β)
  | .ok a, .ok b => .ok (a, b)
  | .ok _, .error q => .error q
  | .error p, .ok _ => .error p
  | .error p, .error q => .error (p ++ q)

def all : List (Checked α) → Checked (List α)
  | [] => .ok []
  | a :: rest => (both a (all rest)).map fun (a, rest) => a :: rest

end Checked

end ScadAdvisor
