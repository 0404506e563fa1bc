import ScadAdvisor.Text.Basic

/-! # Blanking comments and strings

The masker replaces what stands in comments, and in strings if it is asked to, by spaces. The result
has the length of the text, so an offset means the same place in both.
-/

namespace ScadAdvisor

/-- What part of the source the next character belongs to. The three short regions hold the second
character of a pair: the star that opens a block comment, the slash that closes it, and the
character behind a backslash. -/
inductive Region where
  | code
  | lineComment
  | blockOpening
  | blockComment
  | blockClosing
  | string (quote : Char)
  | escape (quote : Char)
deriving DecidableEq, Repr

namespace Mask

def isQuote (c : Char) : Bool := c == '"' || c == '\''

/-- Newlines stay, so that lines keep their numbers. -/
def blanked (c : Char) : Char := if c == '\n' then c else ' '

/-- The image of one character and the region of the next one. -/
def step (strings : Bool) (region : Region) (c : Char) (next : Option Char) : Char × Region :=
  match region with
  | .code =>
    if c == '/' && next == some '*' then (' ', .blockOpening)
    else if c == '/' && next == some '/' then (' ', .lineComment)
    else if strings && isQuote c then (' ', .string c)
    else (c, .code)
  | .lineComment => if c == '\n' then (c, .code) else (' ', .lineComment)
  | .blockOpening => (' ', .blockComment)
  | .blockComment =>
    if c == '*' && next == some '/' then (' ', .blockClosing) else (blanked c, .blockComment)
  | .blockClosing => (' ', .code)
  | .string quote =>
    -- A backslash at the very end of the text escapes nothing.
    if c == '\\' && next.isSome then (' ', .escape quote)
    else (blanked c, if c == quote then .code else .string quote)
  | .escape quote => (' ', .string quote)

/-- The image of a text whose first character belongs to `region`. -/
def run (strings : Bool) : Region → Text → Text
  | _, [] => []
  | region, c :: cs =>
    let out := step strings region c cs.head?
    out.1 :: run strings out.2 cs

/-- The regions of the characters of a text, and of what would follow it. -/
def regions (strings : Bool) : Region → Text → List Region
  | region, [] => [region]
  | region, c :: cs => region :: regions strings (step strings region c cs.head?).2 cs

end Mask

/-- The text with comments blanked, and strings as well if `strings` holds. Without `strings` a quote
is a character like any other. -/
def mask (strings : Bool) (text : Text) : Text := Mask.run strings .code text

def maskComments (text : Text) : Text := mask false text

def maskCommentsAndStrings (text : Text) : Text := mask true text

end ScadAdvisor
