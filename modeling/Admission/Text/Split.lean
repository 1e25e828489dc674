/-!
# Splitting and searching

Main definitions:

* `Text.splitBy` — the parts of a text between separators;
* `Text.containsPart` — whether a text holds another one.
-/

set_option autoImplicit false

namespace Admission.Text

/-- The parts between the separators, one more than there are separators. -/
def splitBy (isSeparator : Char → Bool) : List Char → List (List Char)
  | [] => [[]]
  | c :: rest =>
    if isSeparator c then [] :: splitBy isSeparator rest
    else
      match splitBy isSeparator rest with
      | [] => [[c]]
      | part :: parts => (c :: part) :: parts

/-- The part occurs in the text as a run of consecutive characters. -/
def containsPart (part : List Char) : List Char → Bool
  | [] => part.isEmpty
  | c :: rest => part.isPrefixOf (c :: rest) || containsPart part rest

end Admission.Text
