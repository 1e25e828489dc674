/-!
# Tables of code points

A class of characters is kept as an increasing list of ranges of code points, ends included.

Main definitions:

* `Text.rangeOf?` — the range that holds a code point;
* `Text.inRanges` — whether there is one.
-/

set_option autoImplicit false

namespace Admission.Text

/-- The range that holds the code point.  The list is increasing, so the search stops at the first
range that begins beyond it. -/
def rangeOf? : List (Nat × Nat) → Nat → Option (Nat × Nat)
  | [], _ => none
  | (low, high) :: rest, c =>
    if c < low then none
    else if c ≤ high then some (low, high)
    else rangeOf? rest c

/-- Some range holds the code point. -/
def inRanges (table : List (Nat × Nat)) (c : Nat) : Bool := (rangeOf? table c).isSome

end Admission.Text
