import ScadAdvisor.Toml.Lexical

/-! # Dates and times of a TOML document

What is read is given in its standard form: a `T` between date and time, six digits of a second if
there are any, and a numeric offset.
-/

namespace ScadAdvisor.Toml.Moment

/-- A number of exactly `width` digits between two bounds. -/
def bounded (width low high : Nat) : Reader Nat := fun text =>
  let ds := text.take width
  let n := Text.digitsValue 10 ds
  if ds.length == width && ds.all Ascii.isDigit && low ≤ n && n ≤ high then some (n, text.drop width)
  else none

def mark (c : Char) : Reader Unit
  | d :: rest => if d == c then some ((), rest) else none
  | [] => none

def padded (width n : Nat) : Text :=
  let ds := Text.ofNat n
  List.replicate (width - ds.length) '0' ++ ds

def isLeap (year : Nat) : Bool := year % 4 == 0 && (year % 100 != 0 || year % 400 == 0)

def daysIn (year month : Nat) : Nat :=
  match month with
  | 2 => if isLeap year then 29 else 28
  | 4 | 6 | 9 | 11 => 30
  | _ => 31

structure Date where
  year : Nat
  month : Nat
  day : Nat
deriving DecidableEq, Repr

/-- There is no year zero, and the day is one of its month. -/
def Date.isValid (date : Date) : Bool := 1 ≤ date.year && date.day ≤ daysIn date.year date.month

def Date.toText (date : Date) : Text :=
  padded 4 date.year ++ '-' :: padded 2 date.month ++ '-' :: padded 2 date.day

def date : Reader Date := fun text => do
  let (year, rest) ← bounded 4 0 9999 text
  let (_, rest) ← mark '-' rest
  let (month, rest) ← bounded 2 1 12 rest
  let (_, rest) ← mark '-' rest
  let (day, rest) ← bounded 2 1 31 rest
  return (⟨year, month, day⟩, rest)

/-- The digits of a second behind the point, of which six count, as text. -/
def secondFraction : Text → Text × Text
  | '.' :: rest =>
    let ds := rest.takeWhile Ascii.isDigit
    if ds.isEmpty then ([], '.' :: rest)
    else
      let six := ds.take 6
      let six := six ++ List.replicate (6 - six.length) '0'
      (if six.all (· == '0') then [] else '.' :: six, rest.drop ds.length)
  | rest => ([], rest)

def time : Reader Text := fun text => do
  let (hour, rest) ← bounded 2 0 23 text
  let (_, rest) ← mark ':' rest
  let (minute, rest) ← bounded 2 0 59 rest
  let (_, rest) ← mark ':' rest
  let (second, rest) ← bounded 2 0 59 rest
  let (fraction, rest) := secondFraction rest
  return (padded 2 hour ++ ':' :: padded 2 minute ++ ':' :: padded 2 second ++ fraction, rest)

/-- A signed offset of hours and minutes, as text. No offset is written with a plus. -/
def signedOffset (sign : Char) : Reader Text := fun text => do
  let (hour, rest) ← bounded 2 0 23 text
  let (_, rest) ← mark ':' rest
  let (minute, rest) ← bounded 2 0 59 rest
  let sign := if hour == 0 && minute == 0 then '+' else sign
  return (sign :: padded 2 hour ++ ':' :: padded 2 minute, rest)

/-- The offset behind a time, as text; none is empty. -/
def offset (text : Text) : Text × Text :=
  match text with
  | [] => ([], [])
  | c :: rest =>
    if c == 'Z' || c == 'z' then ("+00:00".toList, rest)
    else if c == '+' || c == '-' then (signedOffset c rest).getD ([], text)
    else ([], text)

/-- The time and the offset behind a date, with the letter between. -/
def timeBehindDate : Reader Text
  | c :: rest =>
    if c == 'T' || c == 't' || c == ' ' then do
      let (t, rest) ← time rest
      let (o, rest) := offset rest
      return ('T' :: t ++ o, rest)
    else none
  | [] => none

/-- A date, a time or both: the text of it, or nothing inside if the date is not in the calendar. -/
def read (text : Text) : Option (Option Text × Text) :=
  match date text with
  | some (d, rest) =>
    -- Without a time behind it, the space behind a date is none of it.
    let (t, rest) := (timeBehindDate rest).getD ([], rest)
    some (if d.isValid then some (d.toText ++ t) else none, rest)
  | none => (time text).map fun (t, rest) => (some t, rest)

end ScadAdvisor.Toml.Moment
