/-!
# Character Ranges

Properties of characters are kept as tables of code point ranges. A table is
a list of first and last code points, in increasing order and without
overlap, so a search may stop at the first range that ends beyond the code
point it looks for.

## Main definitions

* `CharRanges`: A table of ranges.
* `CharRanges.contains`: Whether a character is in the table.
-/

namespace Manuscript

/-- Inclusive ranges of code points in increasing order. -/
abbrev CharRanges := List (Nat × Nat)

namespace CharRanges

/-- Whether the code point lies in one of the ranges. -/
def containsCode : CharRanges → Nat → Bool
  | [], _ => false
  | (lo, hi) :: rest, n => if n ≤ hi then decide (lo ≤ n) else containsCode rest n

/-- Whether the character lies in one of the ranges. -/
def contains (t : CharRanges) (c : Char) : Bool := t.containsCode c.toNat

end CharRanges

end Manuscript
