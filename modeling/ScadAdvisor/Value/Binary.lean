import ScadAdvisor.Text.Basic

/-! # Binary numbers of 64 bits

A number is a mantissa of at most 53 bits times a power of two. A decimal is read as the nearest of
them, and a number is written with as few digits as lead back to it.
-/

namespace ScadAdvisor

inductive Binary64 where
  | finite (negative : Bool) (mantissa : Nat) (exponent : Int)
  | infinite (negative : Bool)
  | undefined
deriving DecidableEq, Repr

namespace Binary64

def two (n : Nat) : Nat := Nat.pow 2 n

def ten (n : Nat) : Nat := Nat.pow 10 n

/-! ## Reading -/

/-- The whole number next to a fraction; a half goes to the even one. -/
def roundDiv (n d : Nat) : Nat :=
  let floor := n / d
  let twice := 2 * (n % d)
  if twice > d || (twice == d && floor % 2 == 1) then floor + 1 else floor

/-- The fraction `n / d` divided by a power of two. -/
def scaleDown (n d : Nat) (q : Int) : Nat × Nat := (n * two (-q).toNat, d * two q.toNat)

/-- The least power of two that a mantissa is multiplied with. -/
def leastExponent : Int := -1074

def greatestExponent : Int := 971

/-- Mantissa and exponent of the nearest number to a positive fraction, however large. -/
def nearest (n d : Nat) : Nat × Int :=
  let low : Int := n.log2 - d.log2 - 53
  let (a, b) := scaleDown n d low
  let q := max (if a / b < two 53 then low else low + 1) leastExponent
  let (a, b) := scaleDown n d q
  let m := roundDiv a b
  if m == two 53 then (two 52, q + 1) else (m, q)

def ofDecimal (negative : Bool) (digits : Nat) (exponent : Int) : Binary64 :=
  -- Beyond these sizes the result is zero or infinite, whatever the digits are.
  let size := (Nat.toDigits 10 digits).length + exponent
  if digits == 0 || size < -340 then .finite negative 0 0
  else if size > 320 then .infinite negative
  else
    let (m, q) := nearest (digits * ten exponent.toNat) (ten (-exponent).toNat)
    if q > greatestExponent then .infinite negative else .finite negative m q

def toInt? : Binary64 → Option Int
  | .finite negative m q =>
    let below := two (-q).toNat
    if m % below == 0 then
      let size : Int := (m / below * two q.toNat : Nat)
      some (if negative then -size else size)
    else none
  | _ => none

def isFinite : Binary64 → Bool
  | .finite _ _ _ => true
  | _ => false

/-! ## Writing -/

/-- Whether a decimal lies so near that it is read as the number. All three are in the same unit; the
ends count if the mantissa is even. -/
def isNear (even : Bool) (low high candidate : Nat) : Bool :=
  (low < candidate && candidate < high) || (even && (candidate == low || candidate == high))

/-- The multiple of ten to the `p` that is read as the number, if there is one; of two the nearer, and
of two equally near ones the even one. -/
def onGrid (m : Nat) (q p : Int) : Option Nat :=
  -- In quarters of the last place, times a factor that makes a step of the grid whole.
  let factor := two (q - 2).toNat * ten (-p).toNat
  let step := two (2 - q).toNat * ten p.toNat
  let low := if m == two 52 && q > leastExponent then 4 * m - 1 else 4 * m - 2
  let near := isNear (m % 2 == 0) (low * factor) ((4 * m + 2) * factor)
  let value := 4 * m * factor
  let c := value / step
  match near (c * step), near ((c + 1) * step) with
  | true, true => some (roundDiv value step)
  | true, false => some c
  | false, true => some (c + 1)
  | false, false => none

/-- The hit on the first of `n` grids, each ten times finer than the one before. -/
def firstHit (m : Nat) (q : Int) : Nat → Int → Nat × Int
  | 0, p => (m, p)
  | n + 1, p =>
    match onGrid m q p with
    | some c => (c, p)
    | none => firstHit m q n (p - 1)

/-- The fewest digits that are read as the number, with their power of ten. -/
def shortest (m : Nat) (q : Int) : Nat × Int := if m == 0 then (0, 0) else firstHit m q 634 309

/-- The exponent of ten in a written number: a sign and at least two digits. -/
def exponentText (e : Int) : Text :=
  let digits := Text.ofNat e.natAbs
  (if e < 0 then '-' else '+') :: (if digits.length < 2 then '0' :: digits else digits)

/-- Positional from a ten-thousandth up to ten to the sixteenth, with an exponent otherwise. -/
def decimalText (digits : Nat) (exponent : Int) : Text :=
  let ds := Text.ofNat digits
  -- The place of the point, counted from the first digit.
  let point := ds.length + exponent
  if point > 16 || point < -3 then
    let tail := if ds.tail.isEmpty then [] else '.' :: ds.tail
    ds.take 1 ++ tail ++ 'e' :: exponentText (point - 1)
  else if point ≤ 0 then '0' :: '.' :: (List.replicate point.natAbs '0' ++ ds)
  else
    let whole := ds.take point.toNat ++ List.replicate (point.toNat - ds.length) '0'
    let part := ds.drop point.toNat
    whole ++ '.' :: (if part.isEmpty then ['0'] else part)

def toText : Binary64 → Text
  | .undefined => "nan".toList
  | .infinite negative => if negative then "-inf".toList else "inf".toList
  | .finite negative m q =>
    let (digits, exponent) := shortest m q
    (if negative then ['-'] else []) ++ decimalText digits exponent

end Binary64

end ScadAdvisor
