import ScadAdvisor.Table
import ScadAdvisor.Text.Basic

/-! # Reading JSON

Any document can be read, not only one that was written here. A text is first cut into tokens, and these
drive a machine that keeps what it is inside of.
-/

namespace ScadAdvisor

/-- A JSON value as it is read. A number is its digits, with the sign, times a power of ten. -/
inductive JsonTerm where
  | null
  | bool (b : Bool)
  | number (digits exponent : Int)
  | string (text : Text)
  | array (items : List JsonTerm)
  | object (fields : List (Text × JsonTerm))

namespace JsonReader

/-! ## Strings -/

def escaped? : Char → Option Char
  | '"' => some '"'
  | '\\' => some '\\'
  | '/' => some '/'
  | 'b' => some '\x08'
  | 'f' => some '\x0c'
  | 'n' => some '\n'
  | 'r' => some '\r'
  | 't' => some '\t'
  | _ => none

/-- The numbers of the characters up to the quote that closes a string, and the rest. An escape with
four digits may be half of a character. -/
def codes : Text → Option (List Nat × Text)
  | [] => none
  | '"' :: rest => some ([], rest)
  | '\\' :: 'u' :: a :: b :: c :: d :: rest =>
    if [a, b, c, d].all Ascii.isHexDigit then
      (codes rest).map fun (more, rest) => (Text.digitsValue 16 [a, b, c, d] :: more, rest)
    else none
  | '\\' :: letter :: rest => do
    let c ← escaped? letter
    let (more, rest) ← codes rest
    return (c.toNat :: more, rest)
  | c :: rest =>
    if c < ' ' then none else (codes rest).map fun (more, rest) => (c.toNat :: more, rest)

def isHighHalf (n : Nat) : Bool := 0xD800 ≤ n && n < 0xDC00

def isLowHalf (n : Nat) : Bool := 0xDC00 ≤ n && n < 0xE000

/-- The text of these characters. Two halves make one character, and none stands alone. -/
def textOf : List Nat → Option Text
  | [] => some []
  | n :: rest =>
    if isHighHalf n then
      match rest with
      | m :: rest =>
        if isLowHalf m then
          (textOf rest).map (Char.ofNat (0x10000 + (n - 0xD800) * 0x400 + (m - 0xDC00)) :: ·)
        else none
      | [] => none
    else if isLowHalf n then none
    else (textOf rest).map (Char.ofNat n :: ·)

/-- The string whose opening quote stands before the text. -/
def string (text : Text) : Option (Text × Text) := do
  let (numbers, rest) ← codes text
  let body ← textOf numbers
  return (body, rest)

/-! ## Numbers -/

def digits (text : Text) : Option (Text × Text) :=
  let run := text.takeWhile Ascii.isDigit
  if run.isEmpty then none else some (run, text.drop run.length)

/-- The digits before the point: a lone zero, or digits that start with no zero. -/
def whole (text : Text) : Option (Text × Text) := do
  let (run, rest) ← digits text
  if run.head? == some '0' && run != ['0'] then none else return (run, rest)

def fraction : Text → Option (Text × Text)
  | '.' :: rest => digits rest
  | rest => some ([], rest)

def exponent : Text → Option (Int × Text)
  | c :: rest =>
    if c == 'e' || c == 'E' then do
      let (negative, rest) := match rest with
        | '-' :: rest => (true, rest)
        | '+' :: rest => (false, rest)
        | rest => (false, rest)
      let (run, rest) ← digits rest
      let n : Int := Text.digitsValue 10 run
      return (if negative then -n else n, rest)
    else some (0, c :: rest)
  | [] => some (0, [])

def magnitude (text : Text) : Option (Nat × Int × Text) := do
  let (before, rest) ← whole text
  let (behind, rest) ← fraction rest
  let (power, rest) ← exponent rest
  return (Text.digitsValue 10 (before ++ behind), power - behind.length, rest)

def number : Text → Option (JsonTerm × Text)
  | '-' :: rest => (magnitude rest).map fun (n, power, rest) => (.number (-n) power, rest)
  | text => (magnitude text).map fun (n, power, rest) => (.number n power, rest)

/-! ## Tokens -/

inductive Mark where
  | openArray
  | closeArray
  | openObject
  | closeObject
  | colon
  | comma
deriving DecidableEq

inductive Token where
  | mark (m : Mark)
  | scalar (value : JsonTerm)

def mark? : Char → Option Mark
  | '[' => some .openArray
  | ']' => some .closeArray
  | '\x7b' => some .openObject
  | '\x7d' => some .closeObject
  | ':' => some .colon
  | ',' => some .comma
  | _ => none

def words : List (Text × JsonTerm) :=
  [("null".toList, .null), ("true".toList, .bool true), ("false".toList, .bool false)]

def scalar (text : Text) : Option (JsonTerm × Text) :=
  match text with
  | '"' :: rest => (string rest).map fun (body, rest) => (.string body, rest)
  | _ =>
    match words.find? fun (word, _) => word.isPrefixOf text with
    | some (word, value) => some (value, text.drop word.length)
    | none => number text

def isGap (c : Char) : Bool := c == ' ' || c == '\t' || c == '\n' || c == '\r'

def tokens : Text → Option (List Token)
  | [] => some []
  | c :: cs =>
    if isGap c then tokens cs
    else
      match mark? c with
      | some m => (tokens cs).map (.mark m :: ·)
      | none =>
        match scalar (c :: cs) with
        | some (value, rest) =>
          -- A value that is read takes up some of the text, so this never fails.
          if rest.length < (c :: cs).length then (tokens rest).map (.scalar value :: ·) else none
        | none => none
termination_by text => text.length
decreasing_by
  · simp
  · simp
  · assumption

/-! ## Values -/

/-- An array or an object that is not closed yet, with what has been read of it. -/
inductive Frame where
  | array (items : List JsonTerm)
  /-- The value of the field `name` comes next. -/
  | object (fields : List (Text × JsonTerm)) (name : Text)

/-- What has to come next, inside the frames, the innermost first. -/
inductive State where
  | beforeValue (frames : List Frame)
  | firstItem (frames : List Frame)
  | firstField (frames : List Frame)
  | beforeName (fields : List (Text × JsonTerm)) (frames : List Frame)
  | beforeColon (fields : List (Text × JsonTerm)) (name : Text) (frames : List Frame)
  /-- A comma, or the end of the array. -/
  | behindItem (items : List JsonTerm) (frames : List Frame)
  /-- A comma, or the end of the object. -/
  | behindField (fields : List (Text × JsonTerm)) (frames : List Frame)
  | done (result : JsonTerm)

namespace State

def deliver (value : JsonTerm) : List Frame → State
  | [] => .done value
  | .array items :: frames => .behindItem (items ++ [value]) frames
  | .object fields name :: frames => .behindField (fields ++ [(name, value)]) frames

def begin (frames : List Frame) : Token → Option State
  | .scalar value => some (deliver value frames)
  | .mark .openArray => some (.firstItem frames)
  | .mark .openObject => some (.firstField frames)
  | _ => none

def step : State → Token → Option State
  | .beforeValue frames, token => begin frames token
  | .firstItem frames, .mark .closeArray => some (deliver (.array []) frames)
  | .firstItem frames, token => begin (.array [] :: frames) token
  | .firstField frames, .mark .closeObject => some (deliver (.object []) frames)
  | .firstField frames, .scalar (.string name) => some (.beforeColon [] name frames)
  | .beforeName fields frames, .scalar (.string name) => some (.beforeColon fields name frames)
  | .beforeColon fields name frames, .mark .colon => some (.beforeValue (.object fields name :: frames))
  | .behindItem items frames, .mark .comma => some (.beforeValue (.array items :: frames))
  | .behindItem items frames, .mark .closeArray => some (deliver (.array items) frames)
  | .behindField fields frames, .mark .comma => some (.beforeName fields frames)
  | .behindField fields frames, .mark .closeObject => some (deliver (.object fields) frames)
  | _, _ => none

def run (state : State) (tokens : List Token) : Option State := tokens.foldlM step state

def result? : State → Option JsonTerm
  | .done value => some value
  | _ => none

end State

def read (text : Text) : Option JsonTerm := do
  let state ← State.run (.beforeValue []) (← tokens text)
  state.result?

end JsonReader

end ScadAdvisor
