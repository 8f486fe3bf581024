import QueryScan.Text.RangeMap

/-!
# Blank characters

A blank is a character with the property White_Space: the plain space, the ASCII controls
from tab to carriage return, and the spaces and separators of other blocks.

## Main results

* `blanks_ordered`: the ranges are listed in order.
* `isBlank_of_isWhitespace`: the ASCII white space is among them.
-/

namespace QueryScan

/-- The ranges of code points with the property White_Space. -/
def blankRanges : List (Nat × Nat) :=
  [(0x9, 0xD), (0x20, 0x20), (0x85, 0x85), (0xA0, 0xA0), (0x1680, 0x1680), (0x2000, 0x200A),
  (0x2028, 0x2029), (0x202F, 0x202F), (0x205F, 0x205F), (0x3000, 0x3000)]

/-- The blanks, indexed for lookup. -/
def blanks : RangeMap Unit :=
  .ofRanges blankRanges

/-- The character is white space. -/
def isBlank (c : Char) : Bool :=
  blanks.contains c.toNat

/-- The ranges of the blanks stand in increasing order and do not meet. -/
theorem blanks_ordered : Span.ordered 0 blanks.toList = true := by
  decide +kernel

/-- The ASCII white space is blank. -/
theorem isBlank_of_isWhitespace {c : Char} (h : c.isWhitespace = true) : isBlank c = true := by
  simp only [Char.isWhitespace, Bool.or_eq_true, decide_eq_true_eq] at h
  rcases h with ((rfl | rfl) | rfl) | rfl <;> decide +kernel

end QueryScan
