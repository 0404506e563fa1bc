import ScadAdvisor.Text.Basic

/-! # JSON

A document is written in ASCII, with two spaces of indentation for every level.
-/

namespace ScadAdvisor

inductive JsonValue where
  | null
  | bool (b : Bool)
  | int (n : Int)
  | string (text : Text)
  | array (items : List JsonValue)
  | object (fields : List (Text × JsonValue))
deriving Repr, Inhabited

namespace JsonValue

/-! ## Strings -/

def unitEscape (n : Nat) : Text := '\\' :: 'u' :: Text.hex 4 n

/-- The escape of a character by its number: one unit of 16 bits, or two of them beyond the first
plane. -/
def codeEscape (n : Nat) : Text :=
  if n < 0x10000 then unitEscape n
  else unitEscape (0xD800 + (n - 0x10000) / 0x400) ++ unitEscape (0xDC00 + (n - 0x10000) % 0x400)

/-- What is neither printable nor ASCII is escaped, and so are the quote and the backslash. -/
def escapeChar (c : Char) : Text :=
  if c == '"' then ['\\', '"']
  else if c == '\\' then ['\\', '\\']
  else if c == '\n' then ['\\', 'n']
  else if c == '\r' then ['\\', 'r']
  else if c == '\t' then ['\\', 't']
  else if c == '\x08' then ['\\', 'b']
  else if c == '\x0c' then ['\\', 'f']
  else if ' ' ≤ c && c ≤ '~' then [c]
  else codeEscape c.toNat

def renderString (text : Text) : Text := '"' :: text.flatMap escapeChar ++ ['"']

/-! ## Documents -/

def newline (depth : Nat) : Text := '\n' :: Text.blank (2 * depth)

mutual

/-- A value that stands at a level. Empty arrays and objects take no lines of their own. -/
def renderAt (depth : Nat) : JsonValue → Text
  | .null => "null".toList
  | .bool b => if b then "true".toList else "false".toList
  | .int n => Text.ofInt n
  | .string text => renderString text
  | .array [] => ['[', ']']
  | .array (first :: rest) =>
    '[' :: newline (depth + 1) ++ renderAt (depth + 1) first ++ renderItems (depth + 1) rest ++
      newline depth ++ [']']
  | .object [] => ['\x7b', '\x7d']
  | .object ((name, first) :: rest) =>
    '\x7b' :: newline (depth + 1) ++ renderString name ++ [':', ' '] ++ renderAt (depth + 1) first ++
      renderFields (depth + 1) rest ++ newline depth ++ ['\x7d']

def renderItems (depth : Nat) : List JsonValue → Text
  | [] => []
  | item :: rest => ',' :: newline depth ++ renderAt depth item ++ renderItems depth rest

def renderFields (depth : Nat) : List (Text × JsonValue) → Text
  | [] => []
  | (name, value) :: rest =>
    ',' :: newline depth ++ renderString name ++ [':', ' '] ++ renderAt depth value ++
      renderFields depth rest

end

def render (value : JsonValue) : Text := renderAt 0 value

end JsonValue

end ScadAdvisor
