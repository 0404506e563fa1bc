import ScadAdvisor.Text.Basic

/-! # Search from left to right

A recogniser is asked at every position in turn. Where it finds something the search goes on behind
it, so that what is found never overlaps.
-/

namespace ScadAdvisor.Text

/-- From the character before a position and the text that starts there: what stands there, and how
many characters it takes up, at least one. -/
abbrev Recogniser (α : Type) := Option Char → Text → Option (α × Nat)

/-- The finds from `pos` on with their offsets, the first `skip` positions passed over. -/
def searchFrom {α : Type} (r : Recogniser α) : Nat → Option Char → Nat → Text → List (Nat × α)
  | _, _, _, [] => []
  | skip + 1, _, pos, c :: cs => searchFrom r skip (some c) (pos + 1) cs
  | 0, before, pos, c :: cs =>
    match r before (c :: cs) with
    | some (found, taken) => (pos, found) :: searchFrom r (taken - 1) (some c) (pos + 1) cs
    | none => searchFrom r 0 (some c) (pos + 1) cs

def search {α : Type} (r : Recogniser α) (text : Text) : List (Nat × α) :=
  searchFrom r 0 none 0 text

end ScadAdvisor.Text
