import ScadAdvisor.Toml.Lexical
import ScadAdvisor.Value.Basic

/-! # Numbers of a TOML document -/

namespace ScadAdvisor.Toml

inductive Fault where
  | malformed
  | longNumber (digits : Nat)
  | tooDeep
deriving DecidableEq, Repr

def mostDigits : Nat := 4300

namespace Number

/-! ## Digits

One underscore may stand between two digits.
-/

/-- The digits that go on a run, and the rest. -/
def moreDigits (p : Char → Bool) : Text → Text × Text
  | [] => ([], [])
  | [c] => if p c then ([c], []) else ([], [c])
  | c :: d :: rest =>
    if p c then
      let (digits, rest) := moreDigits p (d :: rest)
      (c :: digits, rest)
    else if c == '_' && p d then
      let (digits, rest) := moreDigits p rest
      (d :: digits, rest)
    else ([], c :: d :: rest)

def digits (p : Char → Bool) : Reader Text
  | [] => none
  | c :: rest =>
    if p c then
      let (more, rest) := moreDigits p rest
      some (c :: more, rest)
    else none

/-! ## Whole numbers in other bases -/

def baseOf : Char → Option (Nat × (Char → Bool))
  | 'x' => some (16, Ascii.isHexDigit)
  | 'o' => some (8, fun c => '0' ≤ c && c ≤ '7')
  | 'b' => some (2, fun c => c == '0' || c == '1')
  | _ => none

def based : Reader Value
  | '0' :: letter :: rest => do
    let (base, p) ← baseOf letter
    let (ds, rest) ← digits p rest
    return (.int (Text.digitsValue base ds), rest)
  | _ => none

/-! ## Decimal numbers -/

/-- The whole part: a lone zero, or digits that start with no zero. -/
def whole : Reader Text
  | '0' :: rest => some (['0'], rest)
  | text => digits Ascii.isDigit text

def fraction : Reader Text
  | '.' :: rest => digits Ascii.isDigit rest
  | _ => none

/-- The sign of a number, true for a minus. -/
def sign : Text → Bool × Text
  | '-' :: rest => (true, rest)
  | '+' :: rest => (false, rest)
  | rest => (false, rest)

def exponent : Reader Int
  | c :: rest =>
    if c == 'e' || c == 'E' then do
      let (negative, rest) := sign rest
      let (ds, rest) ← digits Ascii.isDigit rest
      let size : Int := Text.digitsValue 10 ds
      return (if negative then -size else size, rest)
    else none
  | [] => none

/-- A decimal number: whole unless a fraction or an exponent follows. -/
def decimal (text : Text) : Option (Except Fault Value × Text) := do
  let (negative, rest) := sign text
  let (head, rest) ← whole rest
  let (tail, rest, pointed) := match fraction rest with
    | some (tail, rest) => (tail, rest, true)
    | none => ([], rest, false)
  let (power, rest, raised) := match exponent rest with
    | some (power, rest) => (power, rest, true)
    | none => (0, rest, false)
  if pointed || raised then
    let size := Text.digitsValue 10 (head ++ tail)
    return (.ok (.real (.ofDecimal negative size (power - tail.length))), rest)
  else if head.length > mostDigits then return (.error (.longNumber head.length), rest)
  else
    let size : Int := Text.digitsValue 10 head
    return (.ok (.int (if negative then -size else size)), rest)

/-- The words for numbers that are not finite, with an optional sign. -/
def special (text : Text) : Option (Value × Text) :=
  let (negative, rest) := sign text
  if "inf".toList.isPrefixOf rest then some (.real (.infinite negative), rest.drop 3)
  else if "nan".toList.isPrefixOf rest then some (.real .undefined, rest.drop 3)
  else none

def read (text : Text) : Option (Except Fault Value × Text) :=
  match based text with
  | some (value, rest) => some (.ok value, rest)
  | none =>
    match decimal text with
    | some found => some found
    | none => (special text).map fun (value, rest) => (.ok value, rest)

end Number

end ScadAdvisor.Toml
