import Admission.Text.Range

/-!
# Blanks

The blanks of Unicode 14: the characters that separate words in some script, and the line and
paragraph separators among the control characters.

Main definitions:

* `Text.isBlank` — the characters that trimming removes and that the class of blanks matches;
* `Text.isAsciiBlank` — the six blanks of a text in ASCII numerals;
* `Text.trim` — a text without the blanks at both ends.
-/

set_option autoImplicit false

namespace Admission.Text

/-- The code points of the blanks. -/
def blankRanges : List (Nat × Nat) := [
  (0x9, 0xd), (0x1c, 0x20), (0x85, 0x85), (0xa0, 0xa0), (0x1680, 0x1680), (0x2000, 0x200a),
  (0x2028, 0x2029), (0x202f, 0x202f), (0x205f, 0x205f), (0x3000, 0x3000)]

def isBlank (c : Char) : Bool := inRanges blankRanges c.toNat

/-- A blank of ASCII: the space and the five format effectors from the tab to the return. -/
def isAsciiBlank (c : Char) : Bool :=
  c == ' ' || (9 ≤ c.toNat && c.toNat ≤ 13)

/-- A list without the elements that satisfy the test at both ends. -/
def trimBy {α : Type} (drop : α → Bool) (xs : List α) : List α :=
  ((xs.dropWhile drop).reverse.dropWhile drop).reverse

/-- A text without the blanks at both ends. -/
def trim (s : String) : String := String.ofList (trimBy isBlank s.toList)

end Admission.Text
