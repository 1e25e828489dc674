import Admission.Condition.Normal
import Admission.Proofs.Value.Copy

/-!
# Conditions that are settled

Every value has a canonical condition, and a canonical condition that holds copies only is settled:
making it canonical again, from itself or from its mapping, changes nothing at any depth.

Main definition: `Expr.Settled` — a canonical condition that is its own copy.

Main results:

* `Expr.ofValue_settled` — **the canonical condition of any value is settled**;
* `Expr.ofValue_toValue` — a condition read back from its mapping is its canonical form;
* `Expr.Settled.normalized_eq` — **a settled condition is its own canonical form**.
-/

set_option autoImplicit false

namespace Admission

theorem Expr.joinName_eq (operator : String) :
    joinName operator = "and" ∨ joinName operator = "or" := by
  unfold joinName
  split
  · exact .inr rfl
  · exact .inl rfl

theorem Expr.joinName_of_join {operator : String} (h : operator = "and" ∨ operator = "or") :
    joinName operator = operator := by
  rcases h with rfl | rfl
  · rfl
  · rfl

theorem Expr.isName_compareName (operator : String) :
    Comparison.isName (compareName operator) = true := by
  unfold compareName
  split
  · assumption
  · decide

/-! ### Settled conditions -/

/-- The condition is canonical, and it has no part that a copy would make anew. -/
structure Expr.Settled (e : Expr) : Prop where
  canonical : e.isCanonical = true
  copied_eq : e.copied = e

/-- All the conditions are settled. -/
structure Expr.AllSettled (children : List Expr) : Prop where
  canonical : Expr.areCanonical children = true
  copied_eq : Expr.copiedAll children = children

namespace Expr

theorem AllSettled.nil : AllSettled [] := ⟨rfl, rfl⟩

theorem AllSettled.cons {e : Expr} {rest : List Expr} (he : e.Settled) (hrest : AllSettled rest) :
    AllSettled (e :: rest) where
  canonical := by rw [areCanonical, he.canonical, hrest.canonical, Bool.and_self]
  copied_eq := by rw [copiedAll, he.copied_eq, hrest.copied_eq]

theorem Settled.group {operator : String} {children : List Expr}
    (hop : operator = "and" ∨ operator = "or") (h : AllSettled children) :
    (group operator children).Settled where
  canonical := by simpa [isCanonical, h.canonical] using hop
  copied_eq := by rw [copied, h.copied_eq]

theorem Settled.negation {child : Expr} (h : child.Settled) : (negation child).Settled where
  canonical := by rw [isCanonical, h.canonical]
  copied_eq := by rw [copied, h.copied_eq]

theorem Settled.compare {field operator : String} {value : Value}
    (hop : Comparison.isName operator = true) (hvalue : value.copied = value) :
    (compare field operator value).Settled where
  canonical := by rw [isCanonical, hop]
  copied_eq := by rw [copied, hvalue]

theorem starting_settled : starting.Settled := ⟨by decide, rfl⟩

/-! ### Canonical conditions are settled -/

mutual

/-- The canonical form of a ready-made condition is settled. -/
theorem normalized_settled : ∀ e : Expr, e.normalized.Settled
  | .group operator children => by
      rw [normalized]
      exact .group (joinName_eq operator) (normalizedAll_settled children)
  | .negation child => by
      rw [normalized]
      exact .negation (normalized_settled child)
  | .compare field operator value => by
      rw [normalized]
      exact .compare (isName_compareName operator) value.copied_copied

theorem normalizedAll_settled : ∀ children : List Expr, AllSettled (normalizedAll children)
  | [] => .nil
  | e :: rest => .cons (normalized_settled e) (normalizedAll_settled rest)

end

mutual

/-- The canonical condition of any value is settled. -/
theorem ofValue_settled : ∀ v : Value, (ofValue v).Settled
  | .mapping _ entries _ => by
      rw [ofValue]
      split
      · exact .group (joinName_eq _) (childrenIn_settled entries)
      · exact .negation (childIn_settled entries)
      · exact .compare (isName_compareName _) (Value.copied_copied _)
      · exact starting_settled
  | .expr e => by
      rw [ofValue]
      exact normalized_settled e
  | .null => starting_settled
  | .bool _ => starting_settled
  | .int _ => starting_settled
  | .float _ => starting_settled
  | .str _ => starting_settled
  | .list _ _ => starting_settled
  | .tuple _ _ => starting_settled
  | .object _ _ _ => starting_settled
  | .target _ => starting_settled
  | .rule .. => starting_settled

theorem childrenIn_settled : ∀ entries : List (String × Value), AllSettled (childrenIn entries)
  | [] => .nil
  | (key, v) :: rest => by
      unfold childrenIn
      split
      · exact .nil
      · next items _ heq =>
          cases heq
          split
          · exact ofValues_settled items
          · exact childrenIn_settled rest
      · next heq =>
          cases heq
          split
          · exact .nil
          · exact childrenIn_settled rest

theorem childIn_settled : ∀ entries : List (String × Value), (childIn entries).Settled
  | [] => starting_settled
  | (key, v) :: rest => by
      rw [childIn]
      split
      · exact ofValue_settled v
      · exact childIn_settled rest

theorem ofValues_settled : ∀ items : List Value, AllSettled (ofValues items)
  | [] => .nil
  | v :: rest => .cons (ofValue_settled v) (ofValues_settled rest)

end

/-! ### Settled conditions do not change -/

mutual

/-- What is read back from the mapping of a condition is its canonical form. -/
theorem ofValue_toValue : ∀ e : Expr, ofValue e.toValue = e.normalized
  | .group operator children => by
      have h : ofValue (group operator children).toValue
          = group (joinName operator) (ofValues (toValues children)) := rfl
      rw [h, normalized, ofValues_toValues children]
  | .negation child => by
      have h : ofValue (negation child).toValue = negation (ofValue child.toValue) := rfl
      rw [h, normalized, ofValue_toValue child]
  | .compare field operator value => by
      have h : ofValue (compare field operator value).toValue
          = compare field (compareName operator) value.copied.copied := rfl
      rw [h, normalized, Value.copied_copied]

theorem ofValues_toValues :
    ∀ children : List Expr, ofValues (toValues children) = normalizedAll children
  | [] => rfl
  | e :: rest => by
      rw [toValues, ofValues, normalizedAll, ofValue_toValue e, ofValues_toValues rest]

end

mutual

/-- A settled condition is its own canonical form. -/
theorem Settled.normalized_eq : ∀ {e : Expr}, e.Settled → e.normalized = e
  | .group operator children, ⟨hcanonical, hcopied⟩ => by
      simp only [isCanonical, Bool.and_eq_true, Bool.or_eq_true, beq_iff_eq] at hcanonical
      rw [copied, group.injEq] at hcopied
      rw [normalized, joinName_of_join hcanonical.1,
        AllSettled.normalizedAll_eq ⟨hcanonical.2, hcopied.2⟩]
  | .negation child, ⟨hcanonical, hcopied⟩ => by
      rw [isCanonical] at hcanonical
      rw [copied, negation.injEq] at hcopied
      rw [normalized, Settled.normalized_eq ⟨hcanonical, hcopied⟩]
  | .compare field operator value, ⟨hcanonical, hcopied⟩ => by
      rw [isCanonical] at hcanonical
      rw [copied] at hcopied
      rw [normalized, compareName, if_pos hcanonical, hcopied]

theorem AllSettled.normalizedAll_eq :
    ∀ {children : List Expr}, AllSettled children → normalizedAll children = children
  | [], _ => rfl
  | e :: rest, ⟨hcanonical, hcopied⟩ => by
      rw [areCanonical, Bool.and_eq_true] at hcanonical
      rw [copiedAll, List.cons.injEq] at hcopied
      rw [normalizedAll, Settled.normalized_eq ⟨hcanonical.1, hcopied.1⟩,
        AllSettled.normalizedAll_eq ⟨hcanonical.2, hcopied.2⟩]

end

theorem Settled.ofValue_toValue_eq {e : Expr} (h : e.Settled) : ofValue e.toValue = e := by
  rw [ofValue_toValue, h.normalized_eq]

end Expr

end Admission
