import Admission.Text.Blank
import Mathlib.Data.List.DropRight

/-!
# Trimmed texts

Trimming removes the blanks at both ends, so a trimmed text neither begins nor ends with one, and
trimming it again changes nothing.

Main results:

* `Text.trim_trim` — trimming again changes nothing;
* `Text.trimBy_eq_self_iff` — what trimming leaves alone;
* `Text.trimBy_append_append`, `Text.exists_append_trimBy_append` — what trimming removes.
-/

set_option autoImplicit false

namespace Admission.Text

theorem trimBy_eq {α : Type} (drop : α → Bool) (xs : List α) :
    trimBy drop xs = (xs.dropWhile drop).rdropWhile drop := rfl

/-- What is left after dropping at both ends does not begin with anything to drop. -/
theorem dropWhile_trimBy {α : Type} (drop : α → Bool) (xs : List α) :
    (trimBy drop xs).dropWhile drop = trimBy drop xs := by
  rw [trimBy_eq, List.dropWhile_eq_self_iff]
  intro hl
  have hfront := List.dropWhile_eq_self_iff.1 (List.dropWhile_idempotent drop xs)
  -- dropping at the end leaves the front as it is
  have htrimmed : (xs.dropWhile drop).rdropWhile drop <+: xs.dropWhile drop :=
    List.rdropWhile_prefix drop _
  rw [htrimmed.getElem hl]
  exact hfront (Nat.lt_of_lt_of_le hl htrimmed.length_le)

theorem trimBy_trimBy {α : Type} (drop : α → Bool) (xs : List α) :
    trimBy drop (trimBy drop xs) = trimBy drop xs := by
  rw [trimBy_eq drop (trimBy drop xs), dropWhile_trimBy, trimBy_eq, List.rdropWhile_idempotent]

theorem dropWhile_eq_self_iff_head {α : Type} {drop : α → Bool} {xs : List α} :
    xs.dropWhile drop = xs ↔ ∀ a ∈ xs.head?, drop a = false := by
  cases xs with
  | nil => simp
  | cons a rest => rw [List.dropWhile_eq_self_iff]; simp

/-- Trimming leaves a list alone when there is nothing to drop at its ends. -/
theorem trimBy_eq_self_iff {α : Type} {drop : α → Bool} {xs : List α} :
    trimBy drop xs = xs ↔
      (∀ a ∈ xs.head?, drop a = false) ∧ ∀ a ∈ xs.getLast?, drop a = false := by
  have hback : xs.rdropWhile drop = xs ↔ ∀ a ∈ xs.getLast?, drop a = false := by
    rw [← List.head?_reverse, ← dropWhile_eq_self_iff_head, List.rdropWhile, List.reverse_eq_iff]
  rw [← dropWhile_eq_self_iff_head, ← hback]
  constructor
  · intro h
    have hfront : xs.dropWhile drop = xs := by rw [← h, dropWhile_trimBy]
    refine ⟨hfront, ?_⟩
    rwa [trimBy_eq, hfront] at h
  · rintro ⟨hfront, hend⟩
    rw [trimBy_eq, hfront, hend]

/-- What is dropped anyway may stand at both ends. -/
theorem trimBy_append_append {α : Type} {drop : α → Bool} {before after : List α}
    (hbefore : ∀ a ∈ before, drop a = true) (hafter : ∀ a ∈ after, drop a = true) (xs : List α) :
    trimBy drop (before ++ xs ++ after) = trimBy drop xs := by
  have hend : after.dropWhile drop = [] := List.dropWhile_eq_nil_iff.2 hafter
  rw [trimBy_eq, trimBy_eq, List.append_assoc, List.dropWhile_append_of_pos hbefore,
    List.dropWhile_append, hend]
  split
  · next hnone => rw [List.isEmpty_iff.1 hnone]
  · rw [List.rdropWhile, List.reverse_append,
      List.dropWhile_append_of_pos (by simpa using hafter), List.rdropWhile]

/-- Nothing is lost but what is to be dropped, and that at the ends alone. -/
theorem exists_append_trimBy_append {α : Type} (drop : α → Bool) (xs : List α) :
    ∃ before after, (∀ a ∈ before, drop a = true) ∧ (∀ a ∈ after, drop a = true) ∧
      xs = before ++ trimBy drop xs ++ after := by
  refine ⟨xs.takeWhile drop, (xs.dropWhile drop).rtakeWhile drop,
    fun a ha => List.mem_takeWhile_imp ha, fun a ha => List.mem_rtakeWhile_imp ha, ?_⟩
  rw [trimBy_eq, List.append_assoc, List.rdropWhile_append_rtakeWhile,
    List.takeWhile_append_dropWhile]

@[simp] theorem trim_trim (s : String) : trim (trim s) = trim s := by
  simp only [trim, String.toList_ofList, trimBy_trimBy]

end Admission.Text
