import ScadAdvisor.Text.Integer
import ScadAdvisor.Validation.Problem
import ScadAdvisor.Value.Basic

/-! # Reading values

Reading is lenient: words and numbers that clearly mean a truth value or an integer are taken as one.
-/

namespace ScadAdvisor.Read

/-! ## Integers -/

/-- One more than the greatest signed word of 64 bits. -/
def wordBound : Nat := 0x8000000000000000

def fitsWord (n : Int) : Bool := -(wordBound : Int) ≤ n && n < wordBound

def intOfText (text : Text) : Checked Int :=
  match IntegerText.read text with
  | .ok n => .ok n
  | .error .unclear => Checked.fail .unclearInt
  | .error .tooLong => Checked.fail .hugeInt

/-- A number without a fraction, if it is below the size of a word. -/
def intOfReal (x : Binary64) : Checked Int :=
  if !x.isFinite then Checked.fail .infiniteInt
  else
    match x.toInt? with
    | none => Checked.fail .fractionalInt
    | some n => if n.natAbs < wordBound then .ok n else Checked.fail .hugeInt

def int : Value → Checked Int
  | .int n => .ok n
  | .bool b => .ok (if b then 1 else 0)
  | .real x => intOfReal x
  | .string text => intOfText text
  | _ => Checked.fail .notInt

def offset (v : Value) : Checked Nat :=
  match int v with
  | .ok n => if n < 0 then Checked.fail .negative else .ok n.toNat
  | .error problems => .error problems

/-! ## Truth values -/

def trueWords : List Text :=
  ["1".toList, "on".toList, "t".toList, "true".toList, "y".toList, "yes".toList]

def falseWords : List Text :=
  ["0".toList, "off".toList, "f".toList, "false".toList, "n".toList, "no".toList]

/-- A word in any case, with nothing around it. -/
def wordBool? (text : Text) : Option Bool :=
  let word := text.map Ascii.toLower
  if trueWords.contains word then some true
  else if falseWords.contains word then some false
  else none

/-- Zero and one; another integer is unclear as long as it fits a word. -/
def boolOfInt (n : Int) : Checked Bool :=
  if n == 0 then .ok false
  else if n == 1 then .ok true
  else if fitsWord n then Checked.fail .unclearBool
  else Checked.fail .notBool

def bool : Value → Checked Bool
  | .bool b => .ok b
  | .int n => boolOfInt n
  | .real x =>
    match intOfReal x with
    | .ok n => boolOfInt n
    | .error _ => Checked.fail .notBool
  | .string text =>
    match wordBool? text with
    | some b => .ok b
    | none => Checked.fail .unclearBool
  | _ => Checked.fail .notBool

/-! ## Texts -/

def string : Value → Checked Text
  | .string text => .ok text
  | _ => Checked.fail .notString

def stringOrNull : Value → Checked (Option Text)
  | .null => .ok none
  | v => (string v).map some

def stringsFrom (n : Nat) : List Value → List (Checked Text)
  | [] => []
  | v :: rest => (string v).under (.index n) :: stringsFrom (n + 1) rest

def strings : Value → Checked (List Text)
  | .list items => Checked.all (stringsFrom 0 items)
  | _ => Checked.fail .notList

def table : Value → Checked (Table Text)
  | .mapping entries =>
    Checked.all (entries.map fun (key, v) => Checked.under (.key key) ((string v).map (key, ·)))
  | _ => Checked.fail .notMapping

/-! ## Choices -/

def member {α : Type} (all : List α) (name : α → Text) : Value → Checked α
  | .string text =>
    match all.find? (name · == text) with
    | some a => .ok a
    | none => Checked.fail (.notMember (all.map name))
  | _ => Checked.fail (.notMember (all.map name))

def choice {α : Type} (all : List α) (name : α → Text) : Value → Checked α
  | .string text =>
    match all.find? (name · == text) with
    | some a => .ok a
    | none => Checked.fail (.notChoice (all.map name))
  | _ => Checked.fail (.notChoice (all.map name))

/-! ## Records -/

/-- Whether a name is kept apart from the fields of a record. -/
def isPrivate (name : Text) : Bool := name.head? == some '_'

def entries (record : Text) : Value → Checked (Table Value)
  | .mapping entries => .ok entries
  | _ => Checked.fail (.notRecord record)

def optional {α : Type} (fields : Table Value) (name : Text) (default : α) (read : Value → Checked α) :
    Checked α :=
  match Table.get? name fields with
  | some v => (read v).under (.key name)
  | none => .ok default

def required {α : Type} (fields : Table Value) (name : Text) (read : Value → Checked α) : Checked α :=
  match Table.get? name fields with
  | some v => (read v).under (.key name)
  | none => (Checked.fail .missing).under (.key name)

end ScadAdvisor.Read
