import ScadAdvisor.Text.Blank

/-! # Integers in text

An integer may have blanks around it, a sign, leading zeros, single underscores between its digits, and a
point with nothing but zeros behind it. Without all these a plain integer is left.
-/

namespace ScadAdvisor.IntegerText

inductive Fault where
  | unclear
  /-- The text starts with more digits of a plain integer than are read. -/
  | tooLong
deriving DecidableEq, Repr

def maxDigits : Nat := 4300

/-! ## Plain integers -/

def sign (text : Text) : Text := if text.head? == some '-' then ['-'] else []

def digits (text : Text) : Text := (text.drop (sign text).length).takeWhile Ascii.isDigit

/-- Whether the text goes on as a plain integer for too long, whatever follows. -/
def isTooLong (text : Text) : Bool :=
  (digits text).head? != some '0' && (digits text).length > maxDigits

/-- An integer of a minus sign, if there is one, and digits without a leading zero. -/
def plain? (text : Text) : Option Int :=
  let ds := digits text
  let n : Int := Text.digitsValue 10 ds
  if sign text ++ ds != text || ds.isEmpty || ds.length > maxDigits then none
  else if ds.head? == some '0' && ds.length > 1 then none
  else some (if (sign text).isEmpty then n else -n)

/-! ## What stands around the digits -/

/-- What follows leading zeros and the underscores among them; `last` is the character before. A minus
sign may follow. The last character stays if the text ends there, or if it goes on with a point. -/
def afterZeros (last : Char) : Text → Option Text
  | [] => some [last]
  | c :: rest =>
    if c == '0' || c == '_' then afterZeros c rest
    else if c == '.' then some (last :: c :: rest)
    else if c == '-' || Ascii.isDigit c then some (c :: rest)
    else none

def withoutZeros : Text → Option Text
  | [] => none
  | c :: rest =>
    if c == '0' then afterZeros c rest
    else if Ascii.isDigit c then some (c :: rest)
    else none

def withoutFraction (text : Text) : Option Text :=
  match text.dropWhile (· != '.') with
  | [] => some text
  | _ :: zeros =>
    if !zeros.isEmpty && zeros.all (· == '0') then some (text.takeWhile (· != '.')) else none

/-- Without underscores, of which none may stand at an end or behind another. -/
def withoutUnderscores (text : Text) : Option Text :=
  if text.head? == some '_' || text.getLast? == some '_' || (Text.findPair '_' '_' text).isSome then none
  else some (text.filter (· != '_'))

def clean (text : Text) : Option Text := do
  let trimmed := Text.trim Text.isWhiteSpace text
  let minus := sign trimmed
  let unsigned := if trimmed.head? == some '+' then trimmed.tail else trimmed.drop minus.length
  let whole ← (← withoutZeros unsigned) |> withoutFraction
  return minus ++ (← withoutUnderscores whole)

def read (text : Text) : Except Fault Int :=
  if isTooLong text then .error .tooLong
  else
    match (clean text).bind plain? with
    | some n => .ok n
    | none => .error .unclear

end ScadAdvisor.IntegerText
