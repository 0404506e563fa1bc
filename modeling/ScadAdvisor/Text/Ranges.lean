import ScadAdvisor.Text.Basic

/-! # Sets of characters given as ranges of code points -/

namespace ScadAdvisor

/-- Closed ranges of code points. -/
abbrev Ranges := List (Nat × Nat)

def Ranges.holds (ranges : Ranges) (c : Char) : Bool :=
  ranges.any fun r => r.1 ≤ c.toNat && c.toNat ≤ r.2

end ScadAdvisor
