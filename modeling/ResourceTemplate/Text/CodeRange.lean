/-!
# Ranges of code points

A property of characters is given by the ranges of code points that have it, in increasing order.
-/

namespace ResourceTemplate.Text

/-- Ranges of code points, first and last included. -/
abbrev CodeRanges := List (Nat × Nat)

/-- Whether a character lies in one of the ranges.  The ranges stand in increasing order, so the
search stops at the first range that begins behind the character. -/
def CodeRanges.contains (ranges : CodeRanges) (c : Char) : Bool :=
  match ranges with
  | [] => false
  | (first, last) :: rest =>
      if c.toNat < first then false
      else if c.toNat ≤ last then true
      else CodeRanges.contains rest c

end ResourceTemplate.Text
