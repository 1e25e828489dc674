import Admission.Text.Split
import Mathlib.Data.List.Basic

/-!
# Split texts

Splitting at separators is what the standard library knows as splitting a list wherever a test
holds, so a separator divides the parts of a text into those before and those after it.

Main results:

* `Text.splitBy_eq_splitOnP` — the two ways of splitting are one;
* `Text.splitBy_append_cons` — the parts before and after a separator;
* `Text.splitBy_of_forall` — a text without separators is one part.
-/

set_option autoImplicit false

namespace Admission.Text

theorem splitBy_eq_splitOnP (isSeparator : Char → Bool) (text : List Char) :
    splitBy isSeparator text = text.splitOnP isSeparator := by
  induction text with
  | nil => rfl
  | cons c rest ih =>
      rw [splitBy, ih, List.splitOnP_cons_eq_if_modifyHead]
      cases isSeparator c with
      | true => rfl
      | false =>
          have hparts := List.splitOnP_ne_nil isSeparator rest
          cases hsplit : rest.splitOnP isSeparator with
          | nil => exact absurd hsplit hparts
          | cons part parts => rfl

theorem splitBy_append_cons {isSeparator : Char → Bool} {c : Char} (hc : isSeparator c = true)
    (before after : List Char) :
    splitBy isSeparator (before ++ c :: after) =
      splitBy isSeparator before ++ splitBy isSeparator after := by
  simp only [splitBy_eq_splitOnP, List.splitOnP_append_cons before after hc]

theorem splitBy_of_forall {isSeparator : Char → Bool} {text : List Char}
    (h : ∀ c ∈ text, isSeparator c = false) : splitBy isSeparator text = [text] := by
  rw [splitBy_eq_splitOnP, List.splitOnP_eq_singleton h]

end Admission.Text
