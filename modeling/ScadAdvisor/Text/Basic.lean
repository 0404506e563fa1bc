/-! # Text

Source text is the list of its code points, so that an offset is an index into the list.
-/

namespace ScadAdvisor

/-- A text as its code points: offsets, lengths and columns count these. -/
abbrev Text := List Char

/-! ## ASCII classes -/

namespace Ascii

def isDigit (c : Char) : Bool := '0' ≤ c && c ≤ '9'

def isLetter (c : Char) : Bool := ('a' ≤ c && c ≤ 'z') || ('A' ≤ c && c ≤ 'Z')

def isWord (c : Char) : Bool := isLetter c || isDigit c || c == '_'

/-- The space, and the controls from the tab to the carriage return. -/
def isSpace (c : Char) : Bool := c == ' ' || ('\t' ≤ c && c ≤ '\r')

def isHexDigit (c : Char) : Bool :=
  isDigit c || ('a' ≤ c && c ≤ 'f') || ('A' ≤ c && c ≤ 'F')

def toLower (c : Char) : Char :=
  if 'A' ≤ c && c ≤ 'Z' then Char.ofNat (c.toNat + 32) else c

end Ascii

namespace Text

/-! ## Cutting and joining -/

/-- The pieces between the occurrences of `sep`: one more than there are occurrences. -/
def splitOn (sep : Char) : Text → List Text
  | [] => [[]]
  | c :: cs =>
    match splitOn sep cs with
    | [] => [[c]]
    | piece :: rest => if c == sep then [] :: piece :: rest else (c :: piece) :: rest

/-- The lines of a text, without the newlines that end them. -/
def lines (text : Text) : List Text := splitOn '\n' text

def join (sep : Text) : List Text → Text
  | [] => []
  | [piece] => piece
  | piece :: rest => piece ++ sep ++ join sep rest

/-- The characters at the offsets from `start` up to `stop`, as far as there are any. -/
def slice (text : Text) (start stop : Nat) : Text := (text.drop start).take (stop - start)

/-- Without the characters of the class `p` at both ends. -/
def trim (p : Char → Bool) (text : Text) : Text :=
  ((text.dropWhile p).reverse.dropWhile p).reverse

def blank (n : Nat) : Text := List.replicate n ' '

/-- The offset of the first place where `a` is followed by `b`. -/
def findPair (a b : Char) : Text → Option Nat
  | [] => none
  | c :: cs =>
    if c == a && cs.head? == some b then some 0 else (findPair a b cs).map (· + 1)

def less : Text → Text → Bool
  | _, [] => false
  | [], _ :: _ => true
  | a :: as, b :: bs => a < b || (a == b && less as bs)

/-! ## Numbers -/

def ofNat (n : Nat) : Text := Nat.toDigits 10 n

def ofInt : Int → Text
  | .ofNat n => ofNat n
  | .negSucc n => '-' :: ofNat (n + 1)

/-- The value of a digit in a base of at most sixteen; other characters count as zero. -/
def digitValue (c : Char) : Nat :=
  if Ascii.isDigit c then c.toNat - '0'.toNat
  else if Ascii.isHexDigit c then (Ascii.toLower c).toNat - 'a'.toNat + 10
  else 0

def digitsValue (base : Nat) (digits : Text) : Nat :=
  digits.foldl (fun n c => n * base + digitValue c) 0

/-- `n` in hexadecimal, with leading zeros up to `width` digits. -/
def hex (width n : Nat) : Text :=
  let digits := Nat.toDigits 16 n
  List.replicate (width - digits.length) '0' ++ digits

end Text

end ScadAdvisor
