import ScadAdvisor.Text.Basic

/-! # Gaps, comments, strings and keys of a TOML document

A reader takes a text and gives what stands at its start together with the rest.
-/

namespace ScadAdvisor.Toml

abbrev Reader (α : Type) := Text → Option (α × Text)

/-! ## Character classes -/

def isGap (c : Char) : Bool := c == ' ' || c == '\t'

def isGapOrNewline (c : Char) : Bool := isGap c || c == '\n'

/-- The controls other than the tab, which a line of a document may not have. -/
def isControl (c : Char) : Bool := (c < ' ' && c != '\t') || c == '\x7f'

/-- The characters of a key without quotes. -/
def isBare (c : Char) : Bool := Ascii.isWord c || c == '-'

/-! ## Gaps -/

def skipGap (text : Text) : Text := text.dropWhile isGap

/-- Without the comment at the start, if there is one. -/
def skipComment : Text → Option Text
  | '#' :: rest =>
    if (rest.takeWhile (· != '\n')).any isControl then none else some (rest.dropWhile (· != '\n'))
  | text => some text

/-- Without the gaps, the newlines and the comments at the start; `inComment` says that a comment is
open. -/
def skipLines (inComment : Bool) : Text → Option Text
  | [] => some []
  | c :: rest =>
    if inComment then
      if c == '\n' then skipLines false rest
      else if isControl c then none
      else skipLines true rest
    else if isGapOrNewline c then skipLines false rest
    else if c == '#' then skipLines true rest
    else some (c :: rest)

def skipBlankLines (text : Text) : Option Text := skipLines false text

/-! ## Strings -/

/-- The character with a number of `count` digits in hexadecimal, and the rest. Surrogates are no
characters. -/
def hexChar (count : Nat) (text : Text) : Option (Char × Text) :=
  let digits := text.take count
  let n := Text.digitsValue 16 digits
  if digits.length == count && digits.all Ascii.isHexDigit && n.isValidChar then
    some (Char.ofNat n, text.drop count)
  else none

def escapeChar : Char → Option Char
  | 'b' => some '\x08'
  | 't' => some '\t'
  | 'n' => some '\n'
  | 'f' => some '\x0c'
  | 'r' => some '\r'
  | '"' => some '"'
  | '\\' => some '\\'
  | _ => none

/-- What follows a backslash at the end of a line: the text from the next character that is neither a
gap nor a newline. -/
def continueLine (rest : Text) : Option Text :=
  match skipGap rest with
  | '\n' :: next => some (next.dropWhile isGapOrNewline)
  | [] => some []
  | _ => none

/-- What an escape stands for; `rest` starts behind the backslash. Only in a string of several lines
may the line end there. -/
def escape (multiline : Bool) (rest : Text) : Option (Text × Text) :=
  match rest with
  | [] => none
  | 'u' :: more => (hexChar 4 more).map fun (c, rest) => ([c], rest)
  | 'U' :: more => (hexChar 8 more).map fun (c, rest) => ([c], rest)
  | c :: more =>
    if multiline && isGapOrNewline c then (continueLine rest).map fun next => ([], next)
    else (escapeChar c).map fun e => ([e], more)

def startsTriple (quote : Char) (text : Text) : Bool := [quote, quote, quote].isPrefixOf text

def isIllegal (multiline : Bool) (c : Char) : Bool := isControl c && !(multiline && c == '\n')

/-- The rest of a string with escapes, up to the quotes that close it, in at most `fuel` steps. -/
def escapedBody (multiline : Bool) : Nat → Reader Text
  | 0, _ => none
  | _, [] => none
  | fuel + 1, '"' :: rest =>
    if !multiline then some ([], rest)
    else if startsTriple '"' ('"' :: rest) then some ([], rest.drop 2)
    else (escapedBody multiline fuel rest).map fun (body, rest) => ('"' :: body, rest)
  | fuel + 1, '\\' :: rest => do
    let (piece, rest) ← escape multiline rest
    let (body, rest) ← escapedBody multiline fuel rest
    return (piece ++ body, rest)
  | fuel + 1, c :: rest =>
    if isIllegal multiline c then none
    else (escapedBody multiline fuel rest).map fun (body, rest) => (c :: body, rest)

def escaped (multiline : Bool) (text : Text) : Option (Text × Text) :=
  escapedBody multiline (text.length + 1) text

/-- The rest of a string without escapes, up to the quotes that close it. -/
def literal (multiline : Bool) : Reader Text
  | [] => none
  | c :: rest =>
    if c == '\'' && !multiline then some ([], rest)
    else if multiline && startsTriple '\'' (c :: rest) then some ([], rest.drop 2)
    else if isIllegal multiline c then none
    else (literal multiline rest).map fun (body, rest) => (c :: body, rest)

/-- One or two quotes before the three that close a string belong to it. -/
def extraQuotes (quote : Char) (body rest : Text) : Text × Text :=
  let extra := (rest.take 2).takeWhile (· == quote)
  (body ++ extra, rest.drop extra.length)

/-- A newline right behind the opening quotes does not count. -/
def skipFirstNewline : Text → Text
  | '\n' :: rest => rest
  | rest => rest

def string : Reader Text
  | '"' :: rest =>
    if startsTriple '"' ('"' :: rest) then
      (escaped true (skipFirstNewline (rest.drop 2))).map fun (body, rest) => extraQuotes '"' body rest
    else escaped false rest
  | '\'' :: rest =>
    if startsTriple '\'' ('\'' :: rest) then
      (literal true (skipFirstNewline (rest.drop 2))).map fun (body, rest) => extraQuotes '\'' body rest
    else literal false rest
  | _ => none

/-! ## Keys -/

def keyPart (text : Text) : Option (Text × Text) :=
  let part := match text with
    | '"' :: rest => escaped false rest
    | '\'' :: rest => literal false rest
    | _ =>
      let name := text.takeWhile isBare
      if name.isEmpty then none else some (name, text.drop name.length)
  part.map fun (name, rest) => (name, skipGap rest)

/-- At most `fuel` parts of a key, with points between them. -/
def keyParts : Nat → Reader (List Text)
  | 0, _ => none
  | fuel + 1, text => do
    let (name, rest) ← keyPart text
    match rest with
    | '.' :: next =>
      let (names, rest) ← keyParts fuel (skipGap next)
      return (name :: names, rest)
    | _ => return ([name], rest)

/-- A key, which stands on one line. -/
def key (text : Text) : Option (List Text × Text) :=
  keyParts ((text.takeWhile (· != '\n')).length + 1) text

end ScadAdvisor.Toml
