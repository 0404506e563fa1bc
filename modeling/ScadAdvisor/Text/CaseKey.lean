import ScadAdvisor.Text.Lowercase

/-! # Comparison without regard to case

Two characters are alike if their lower cases are, or share an upper case: the two small sigmas are
alike, the dotless i and the i, the micro sign and the mu.
-/

namespace ScadAdvisor.Text

/-- Small letters that share an upper case with another one, and the one that stands for both. -/
def alikeTable : List (Nat × Nat) :=
  [(0x131, 0x69), (0x17F, 0x73), (0x3B9, 0x345), (0x3BC, 0xB5), (0x3C3, 0x3C2), (0x3D0, 0x3B2),
   (0x3D1, 0x3B8), (0x3D5, 0x3C6), (0x3D6, 0x3C0), (0x3F0, 0x3BA), (0x3F1, 0x3C1), (0x3F5, 0x3B5),
   (0x1C80, 0x432), (0x1C81, 0x434), (0x1C82, 0x43E), (0x1C83, 0x441), (0x1C84, 0x442), (0x1C85, 0x442),
   (0x1C86, 0x44A), (0x1C87, 0x463), (0x1E9B, 0x1E61), (0x1FBE, 0x345), (0x1FD3, 0x390), (0x1FE3, 0x3B0),
   (0xA64B, 0x1C88), (0xFB06, 0xFB05)]

/-- A character that stands for all that are alike to `c`. The dotted capital I counts as an i. -/
def caseKey (c : Char) : Char :=
  let low := if c == 'İ' then 'i' else lowerChar c
  if low.toNat < 0x80 then low
  else
    match alikeTable.lookup low.toNat with
    | some n => Char.ofNat n
    | none => low

def startsAlike : Text → Text → Bool
  | [], _ => true
  | _ :: _, [] => false
  | p :: ps, c :: cs => caseKey p == caseKey c && startsAlike ps cs

end ScadAdvisor.Text
