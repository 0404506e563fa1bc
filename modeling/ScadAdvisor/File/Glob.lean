import ScadAdvisor.Text.Basic

/-! # Name patterns

In a pattern for one name a star stands for any text, a question mark for any character, and a pair
of brackets for one character of a set.
-/

namespace ScadAdvisor

inductive GlobPiece where
  | star
  | anyChar
  | literal (c : Char)
  /-- A character in one of the ranges, or in none of them. -/
  | set (negated : Bool) (ranges : List (Char × Char))
deriving DecidableEq, Repr

namespace Glob

/-! ## Sets -/

/-- The length of what brackets enclose, from the text behind the opening one. A closing bracket in
the first place belongs to the set. -/
def setLength (rest : Text) : Option Nat :=
  let bang := if rest.head? == some '!' then 1 else 0
  let first := bang + if (rest.drop bang).head? == some ']' then 1 else 0
  let inner := (rest.drop first).takeWhile (· != ']')
  if (rest.drop (first + inner.length)).isEmpty then none else some (first + inner.length)

/-- Cuts at the hyphens that make ranges: the first `least` characters of a piece are never one. -/
def chunksFrom : (least : Nat) → (piece : Text) → Text → List Text
  | _, piece, [] => [piece.reverse]
  | least + 1, piece, c :: cs => chunksFrom least (c :: piece) cs
  | 0, piece, c :: cs =>
    if c == '-' then piece.reverse :: chunksFrom 2 [] cs else chunksFrom 0 (c :: piece) cs

/-- A hyphen at the very end is a character of the set. -/
def closeLast : List Text → List Text
  | [] => []
  | [a, []] => [a ++ ['-']]
  | a :: rest => a :: closeLast rest

/-- Drops the ranges whose ends are the wrong way round, both ends included. -/
def dropEmptyRanges : List Text → List Text
  | [] => []
  | a :: rest =>
    match dropEmptyRanges rest with
    | b :: more =>
      match a.getLast?, b.head? with
      | some x, some y => if x > y then (a.dropLast ++ b.tail) :: more else a :: b :: more
      | _, _ => a :: b :: more
    | [] => [a]

/-- The ranges between neighbours; a hyphen with nothing before it stands for itself. -/
def rangesBetween : List Text → List (Char × Char)
  | a :: b :: rest =>
    (match a.getLast?, b.head? with
      | some x, some y => (x, y)
      | _, _ => ('-', '-')) :: rangesBetween (b :: rest)
  | _ => []

/-- The set that brackets enclose. An exclamation mark in front turns it round. -/
def setOf (inner : Text) : GlobPiece :=
  -- The first hyphen that can make a range has a character of the set before it, and the exclamation
  -- mark is none.
  let least := if inner.head? == some '!' then 2 else 1
  let chunks := dropEmptyRanges (closeLast (chunksFrom least [] inner))
  let negated := (chunks.head?.getD []).head? == some '!'
  let chunks := if negated then (chunks.head?.getD []).tail :: chunks.tail else chunks
  .set negated (chunks.flatten.map (fun c => (c, c)) ++ rangesBetween chunks)

/-! ## Patterns -/

def piecesFrom : (skip : Nat) → Text → List GlobPiece
  | _, [] => []
  | skip + 1, _ :: cs => piecesFrom skip cs
  | 0, c :: cs =>
    if c == '*' then .star :: piecesFrom 0 cs
    else if c == '?' then .anyChar :: piecesFrom 0 cs
    else if c == '[' then
      match setLength cs with
      | some n => setOf (cs.take n) :: piecesFrom (n + 1) cs
      | none => .literal '[' :: piecesFrom 0 cs
    else .literal c :: piecesFrom 0 cs

def pieces (pattern : Text) : List GlobPiece := piecesFrom 0 pattern

def isWild (pattern : Text) : Bool := pattern.any fun c => c == '*' || c == '?' || c == '['

/-! ## Matching

All ends of a name are looked at together, so that the work is the length of the pattern times that of
the name, however many stars there are.
-/

/-- Whether a piece takes a character. A star takes any, as often as it likes. -/
def takes : GlobPiece → Char → Bool
  | .star, _ => true
  | .anyChar, _ => true
  | .literal p, c => p == c
  | .set negated ranges, c => (ranges.any fun (low, high) => low ≤ c && c ≤ high) != negated

/-- For each place of a list, whether it or a later one is true. -/
def hereOrLater : List Bool → List Bool
  | [] => []
  | b :: rest =>
    let later := hereOrLater rest
    (b || later.head?.getD false) :: later

/-- For a name and each of its ends, down to the empty one, whether the pieces describe it. -/
def described : List GlobPiece → Text → List Bool
  | [], name => name.map (fun _ => false) ++ [true]
  | .star :: rest, name => hereOrLater (described rest name)
  | piece :: rest, name =>
    List.zipWith (fun c behind => takes piece c && behind) name (described rest name).tail ++ [false]

/-- Whether a name fits a pattern. Upper and lower case differ, and a leading dot is nothing special. -/
def fits (pattern name : Text) : Bool := (described (pieces pattern) name).head?.getD false

end Glob

end ScadAdvisor
