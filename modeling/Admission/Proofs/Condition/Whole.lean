import Admission.Condition.Evaluate
import Admission.Proofs.Number.Integer
import Admission.Proofs.Number.Rounding

/-!
# Whole numbers compared

Scalars are compared by their texts.  For whole numbers this comes to the same as comparing the
numbers: a whole number has the same text however it is given, as an integer or as a double that is
exactly that number, and different whole numbers have different texts.  It makes no difference how
large the numbers are, whether they have a decimal form, and with which sign a zero is given.

Main definition: `Value.IsWhole` — a value is a whole number, exactly.

Main results:

* `Double.isIntegral_truncate_iff` — which doubles are whole numbers;
* `Value.IsWhole.scalarText_eq` — a whole number has one text;
* `Expr.evaluate_compare_whole` — **whole numbers are compared as numbers**.
-/

set_option autoImplicit false

namespace Admission

namespace Double

/-- The value of a sign and a rank, in grains. -/
def signedGrains (negative : Bool) (rank : Nat) : Int :=
  if negative then -(grains rank : Int) else grains rank

/-- A finite double has nothing after the point and an integer before it exactly when it is that
many ones. -/
theorem isIntegral_truncate_iff {negative : Bool} {rank : Fin ranks} {i : Int} :
    (finite negative rank).isIntegral = true ∧ (finite negative rank).truncate = i ↔
      signedGrains negative rank = i * grainsPerOne := by
  have hpos := grainsPerOne_pos
  rw [isIntegral, truncate, signedGrains, beq_iff_eq]
  generalize grains rank = magnitude
  generalize grainsPerOne = one at hpos ⊢
  have hplain : ∀ j : Int, magnitude % one = 0 ∧ ((magnitude / one : Nat) : Int) = j ↔
      (magnitude : Int) = j * one := by
    intro j
    rw [← Nat.dvd_iff_mod_eq_zero, ← Int.natCast_dvd_natCast, Int.natCast_ediv]
    constructor
    · rintro ⟨hdvd, rfl⟩
      exact (Int.ediv_mul_cancel hdvd).symm
    · intro h
      exact ⟨Dvd.intro_left j h.symm, Int.ediv_eq_of_eq_mul_left (by omega) h⟩
  cases negative with
  | false => exact hplain i
  | true =>
      simp only [if_true]
      rw [neg_eq_iff_eq_neg, hplain (-i), neg_mul, neg_eq_iff_eq_neg]

end Double

namespace Value

/-- The value is the whole number: it is given as that integer, or as a finite double that is
exactly that many ones.  Both zeros are zero. -/
inductive IsWhole : Value → Int → Prop where
  | int (i : Int) : IsWhole (.int i) i
  | double {negative : Bool} {rank : Fin Double.ranks} {i : Int}
      (hvalue : Double.signedGrains negative rank = i * Double.grainsPerOne) :
      IsWhole (.float (.finite negative rank)) i

/-- A whole number is compared by the text of the integer, however it is given. -/
theorem IsWhole.scalarText_eq {v : Value} {i : Int} (h : v.IsWhole i) :
    v.scalarText = some (Integer.text i) := by
  cases h with
  | int => rfl
  | double hvalue =>
      obtain ⟨hintegral, htruncate⟩ := Double.isIntegral_truncate_iff.2 hvalue
      rw [scalarText, if_pos hintegral, htruncate]

theorem IsWhole.normalized_eq {v : Value} {i : Int} (h : v.IsWhole i) :
    v.normalized = .str (Integer.text i) := by
  rw [normalized, h.scalarText_eq]

/-- Two whole numbers are the same in comparisons when they are the same number. -/
theorem IsWhole.same_iff {v w : Value} {i j : Int} (hv : v.IsWhole i) (hw : w.IsWhole j) :
    v.normalized.same w.normalized = decide (i = j) := by
  rw [hv.normalized_eq, hw.normalized_eq, same, Bool.eq_iff_iff, beq_iff_eq, decide_eq_true_iff]
  exact Integer.text_injective.eq_iff

end Value

theorem Expr.evaluate_compare {vars left : Value} {field : String}
    (hfield : vars.lookup field = .ok (some left)) (operator : String) (right : Value) :
    (compare field operator right).evaluate vars =
      Comparison.namedHolds operator (some left) right := by
  rw [evaluate, hfield]
  rfl

/-- An attribute that is a whole number equals another whole number exactly when they are the same
number, each of them given as an integer of any size or as a double.  The texts by which they are
compared are different for different numbers. -/
theorem Expr.evaluate_compare_whole {vars left right : Value} {field : String} {m n : Int}
    (hfield : vars.lookup field = .ok (some left)) (hleft : left.IsWhole m)
    (hright : right.IsWhole n) :
    (compare field "eq" right).evaluate vars = .ok (decide (m = n)) ∧
      (compare field "ne" right).evaluate vars = .ok (decide (m ≠ n)) ∧
      ∃ s t, left.scalarText = some s ∧ right.scalarText = some t ∧ (s = t ↔ m = n) := by
  have hequal : Comparison.ofName? "eq" = some .equal := by decide
  have hnotEqual : Comparison.ofName? "ne" = some .notEqual := by decide
  refine ⟨?_, ?_, _, _, hleft.scalarText_eq, hright.scalarText_eq, Integer.text_injective.eq_iff⟩
  · rw [evaluate_compare hfield, Comparison.namedHolds, hequal, ← hleft.same_iff hright]
    rfl
  · rw [evaluate_compare hfield, Comparison.namedHolds, hnotEqual, decide_not,
      ← hleft.same_iff hright]
    rfl

/-- Attributes that hold the smallest integer without a decimal form, and a negative zero. -/
def Value.atLimit : Value :=
  .ofFields [("most", .int Integer.writeLimit), ("zero", .float (.finite true ⟨0, by decide⟩))]

/-- The smallest integer without a decimal form is not the largest one with such a form, and a
negative zero is zero. -/
theorem Expr.evaluate_compare_whole_atLimit :
    Value.atLimit.lookup "most" = .ok (some (.int Integer.writeLimit)) ∧
      Value.atLimit.lookup "zero" = .ok (some (.float (.finite true ⟨0, by decide⟩))) ∧
      (Value.float (.finite true ⟨0, by decide⟩)).IsWhole 0 ∧
      (compare "most" "eq" (.int (Integer.writeLimit - 1))).evaluate .atLimit = .ok false ∧
      (compare "zero" "eq" (.int 0)).evaluate .atLimit = .ok true := by
  have hmost : Value.atLimit.lookup "most" = .ok (some (.int Integer.writeLimit)) := rfl
  have hzero : (Value.float (.finite true ⟨0, by decide⟩)).IsWhole 0 :=
    .double (by rw [Int.zero_mul]; decide)
  have hlimit := (evaluate_compare_whole hmost (.int _) (.int (Integer.writeLimit - 1))).1
  rw [decide_eq_false (sub_one_lt _).ne'] at hlimit
  exact ⟨hmost, rfl, hzero, hlimit, (evaluate_compare_whole rfl hzero (.int 0)).1⟩

end Admission
