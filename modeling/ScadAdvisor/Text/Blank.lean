import ScadAdvisor.Text.Ranges

/-! # Blank characters -/

namespace ScadAdvisor.Text

/-- The Unicode property White_Space. -/
def whiteSpaceRanges : Ranges :=
  [(0x09, 0x0D), (0x20, 0x20), (0x85, 0x85), (0xA0, 0xA0), (0x1680, 0x1680), (0x2000, 0x200A),
   (0x2028, 0x2029), (0x202F, 0x202F), (0x205F, 0x205F), (0x3000, 0x3000)]

def isWhiteSpace (c : Char) : Bool := whiteSpaceRanges.holds c

/-- White space, and the four information separators, which end a paragraph or a segment. -/
def isBlank (c : Char) : Bool := isWhiteSpace c || (0x1C ≤ c.toNat && c.toNat ≤ 0x1F)

def strip (text : Text) : Text := trim isBlank text

end ScadAdvisor.Text
