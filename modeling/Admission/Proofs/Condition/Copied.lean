import Admission.Condition.Evaluate
import Admission.Proofs.Rule.Fixed
import Admission.Proofs.Value.Origin

/-!
# One outcome in every form

A condition can be given ready-made or as a mapping, and be made canonical first or not.  What comes
to the evaluation in the end is either the condition itself or a condition whose values are copies.
Copies are compared as the values are, as long as they share no container with the attributes: such
a container would be the same as itself, and not the same as its copy.

Main results:

* `Comparison.holdsFor_copied` — comparing with a copy;
* `Expr.evaluate_copied` — evaluating a copy;
* `Value.evaluate_every_form` — **a canonical condition, its mapping and its canonical forms have
  one outcome**.
-/

set_option autoImplicit false

namespace Admission

/-! ### Comparing with a copy -/

namespace Value

variable {left right : Value} {candidates : List Value}

theorem any_congr_of_mem {items : List Value} {p q : Value → Bool} (h : ∀ v ∈ items, p v = q v) :
    items.any p = items.any q := by
  have hmap : items.map p = items.map q := List.map_congr_left h
  simpa [List.any_map] using congrArg (List.any · id) hmap

/-- A value is among copies when it is among the values. -/
theorem any_same_copied (h : ∀ c ∈ candidates, List.Disjoint left.origins c.origins) :
    ((candidates.map copied).any fun c => left.normalized.same c.normalized) =
      candidates.any fun c => left.normalized.same c.normalized := by
  rw [List.any_map]
  exact any_congr_of_mem fun c hc => same_copied (h c hc)

theorem mapM_searchText_copied (candidates : List Value) :
    (candidates.map copied).mapM searchText = candidates.mapM searchText := by
  rw [List.mapM_map]
  exact congrArg (List.mapM · candidates) (funext searchText_copied)

/-- A value contains copies when it contains the values. -/
theorem containment_copied (h : ∀ c ∈ candidates, List.Disjoint left.origins c.origins) :
    left.containment (candidates.map copied) = left.containment candidates := by
  have hitems : ∀ items, left.items? = some items →
      ((candidates.map copied).map fun c => items.any fun i => same i.normalized c.normalized) =
        candidates.map fun c => items.any fun i => same i.normalized c.normalized := by
    intro items hitems
    rw [List.map_map]
    refine List.map_congr_left fun c hc => any_congr_of_mem fun i hi => same_copied ?_
    exact fun _ ho => h c hc (items?_origins hitems (origins_subset_of_mem hi ho))
  rw [containment, containment, mapM_searchText_copied]
  split
  · rfl
  · split
    · next items hfound => rw [hitems items hfound]
    · rfl

theorem patternText_copied (candidates : List Value) :
    patternText (candidates.map copied) = patternText candidates := by
  cases candidates with
  | nil => rfl
  | cons v rest => exact searchText_copied v

theorem boundOf_copied (candidates : List Value) :
    boundOf (candidates.map copied) = boundOf candidates := by
  cases candidates with
  | nil => rfl
  | cons v rest => exact number?_normalized_copied v

end Value

namespace Comparison

variable {left right : Value}

/-- **A value compares with a copy as with the value that was copied**, if it shares no container
with that. -/
theorem holdsFor_copied (op : Comparison) (h : List.Disjoint left.origins right.origins) :
    op.holdsFor left right.copied = op.holdsFor left right := by
  have hcandidates : ∀ c ∈ right.alternatives, List.Disjoint left.origins c.origins :=
    fun c hc _ hl hr => h hl (Value.alternatives_origins hc hr)
  have hsame := Value.same_copied h
  have hamong := Value.any_same_copied hcandidates
  have hcontains := Value.containment_copied hcandidates
  cases op with
  | present => rfl
  | equal | notEqual => simp only [holdsFor, hsame]
  | member => simp only [holdsFor, Value.alternatives_copied, hamong]
  | notMember =>
      simp only [holdsFor, Value.alternatives_copied, List.all_eq_not_any_not, Bool.not_not, hamong]
  | includes | notIncludes => simp only [holdsFor, Value.alternatives_copied, hcontains]
  | pattern => simp only [holdsFor, Value.alternatives_copied, Value.patternText_copied]
  | greater | atLeast | less | atMost =>
      simp only [holdsFor, Value.alternatives_copied, Value.boundOf_copied]

theorem namedHolds_copied (operator : String) {found : Option Value}
    (h : ∀ left, found = some left → List.Disjoint left.origins right.origins) :
    namedHolds operator found right.copied = namedHolds operator found right := by
  rw [namedHolds, namedHolds]
  cases ofName? operator with
  | none => rfl
  | some op =>
      cases found with
      | none => rfl
      | some left => exact holdsFor_copied op (h left rfl)

end Comparison

/-! ### Evaluating a copy -/

namespace Expr

variable {vars : Value}

theorem isEmpty_copiedAll (children : List Expr) :
    (copiedAll children).isEmpty = children.isEmpty := by
  cases children <;> rfl

mutual

/-- **A copy of a condition has the outcome of the condition**, if no value in it shares a container
with the attributes. -/
theorem evaluate_copied : ∀ e : Expr, List.Disjoint e.origins vars.origins →
    e.copied.evaluate vars = e.evaluate vars
  | .group operator children, h => by
      rw [origins] at h
      rw [copied, evaluate, evaluate, isEmpty_copiedAll, allHold_copied children h,
        someHolds_copied children h]
  | .negation child, h => by
      rw [origins] at h
      rw [copied, evaluate, evaluate, evaluate_copied child h]
  | .compare field operator value, h => by
      rw [origins] at h
      rw [copied, evaluate, evaluate]
      cases hfound : vars.lookup field with
      | error fault => rfl
      | ok found =>
          refine Comparison.namedHolds_copied operator ?_
          rintro left rfl
          exact fun _ hl hr => h hr (Value.lookup_origins hfound hl)

theorem allHold_copied : ∀ children : List Expr,
    List.Disjoint (originsIn children) vars.origins →
      allHold vars (copiedAll children) = allHold vars children
  | [], _ => rfl
  | e :: rest, h => by
      rw [originsIn, List.disjoint_append_left] at h
      rw [copiedAll, allHold, allHold, evaluate_copied e h.1, allHold_copied rest h.2]

theorem someHolds_copied : ∀ children : List Expr,
    List.Disjoint (originsIn children) vars.origins →
      someHolds vars (copiedAll children) = someHolds vars children
  | [], _ => rfl
  | e :: rest, h => by
      rw [originsIn, List.disjoint_append_left] at h
      rw [copiedAll, someHolds, someHolds, evaluate_copied e h.1, someHolds_copied rest h.2]

end

mutual

/-- The canonical form of a canonical condition is its copy. -/
theorem normalized_of_isCanonical : ∀ e : Expr, e.isCanonical = true → e.normalized = e.copied
  | .group operator children, h => by
      simp only [isCanonical, Bool.and_eq_true, Bool.or_eq_true, beq_iff_eq] at h
      rw [normalized, copied, joinName_of_join h.1, normalizedAll_of_areCanonical children h.2]
  | .negation child, h => by
      rw [isCanonical] at h
      rw [normalized, copied, normalized_of_isCanonical child h]
  | .compare field operator value, h => by
      rw [isCanonical] at h
      rw [normalized, copied, compareName, if_pos h]

theorem normalizedAll_of_areCanonical : ∀ children : List Expr, areCanonical children = true →
    normalizedAll children = copiedAll children
  | [], _ => rfl
  | e :: rest, h => by
      rw [areCanonical, Bool.and_eq_true] at h
      rw [normalizedAll, copiedAll, normalized_of_isCanonical e h.1,
        normalizedAll_of_areCanonical rest h.2]

end

end Expr

/-! ### Every form of a condition -/

namespace Value

theorem evaluate_toValue (vars : Value) (e : Expr) :
    vars.evaluate e.toValue = e.normalized.evaluate vars := by
  have hform : vars.evaluate e.toValue = (Expr.ofValue e.toValue).evaluate vars := by
    cases e <;> rfl
  rw [hform, Expr.ofValue_toValue]

/-- A condition whose groups are joined by `and` or `or` and whose comparisons use known operators
has one outcome, a truth value or a fault, in every form: ready-made, as its mapping, and made
canonical from either.  The values that it compares with may be anything that shares no container
with the attributes. -/
theorem evaluate_every_form (vars : Value) (e : Expr) (hcanonical : e.isCanonical = true)
    (hapart : List.Disjoint e.origins vars.origins) :
    vars.evaluate e.toValue = vars.evaluate (.expr e) ∧
      vars.evaluate (.expr (Expr.ofValue (.expr e))) = vars.evaluate (.expr e) ∧
      vars.evaluate (.expr (Expr.ofValue e.toValue)) = vars.evaluate (.expr e) := by
  have hcopy : e.normalized.evaluate vars = e.evaluate vars := by
    rw [Expr.normalized_of_isCanonical e hcanonical, Expr.evaluate_copied e hapart]
  have hready : vars.evaluate (.expr (Expr.ofValue (.expr e))) = e.normalized.evaluate vars := by
    rw [Expr.ofValue]
    rfl
  have hmapping : vars.evaluate (.expr (Expr.ofValue e.toValue)) = e.normalized.evaluate vars := by
    rw [Expr.ofValue_toValue]
    rfl
  exact ⟨(evaluate_toValue vars e).trans hcopy, hready.trans hcopy, hmapping.trans hcopy⟩

/-- A group in a group, one of them empty, a negation, and a list that is searched for a text and
for a list. -/
def taggedCondition : Expr :=
  .group "and" [.group "or" [],
    .negation (.compare "tags.1" "regex" (.tuple (some 3) [.list (some 4) [.int 1], .str "a"])),
    .compare "tags" "includes"
      (.list (some 2) [.mapping none [("a", .null)] [], .float (.ofDecimal false 7 0)])]

/-- Attributes with a list that holds a list. -/
def taggedVars : Value := .ofFields [("tags", .list (some 0) [.list (some 1) [], .int 7])]

theorem evaluate_every_form_tagged :
    taggedCondition.isCanonical = true ∧
      List.Disjoint taggedCondition.origins taggedVars.origins ∧
      taggedVars.evaluate (.expr taggedCondition) = .ok true ∧
      taggedVars.evaluate taggedCondition.toValue = .ok true ∧
      taggedVars.evaluate (.expr (Expr.ofValue (.expr taggedCondition))) = .ok true ∧
      taggedVars.evaluate (.expr (Expr.ofValue taggedCondition.toValue)) = .ok true := by
  have hcanonical : taggedCondition.isCanonical = true := by decide +kernel
  have hapart : List.Disjoint taggedCondition.origins taggedVars.origins :=
    List.disjoint_left.2 (by decide +kernel)
  have houtcome : taggedVars.evaluate (.expr taggedCondition) = .ok true := by decide +kernel
  obtain ⟨hmapping, hready, hboth⟩ :=
    evaluate_every_form taggedVars taggedCondition hcanonical hapart
  exact ⟨hcanonical, hapart, houtcome, hmapping.trans houtcome, hready.trans houtcome,
    hboth.trans houtcome⟩

/-- A container that is shared makes a difference: it is the same as itself, not as its copy. -/
example :
    let vars := ofFields [("tags", .list (some 0) [])]
    let e := Expr.compare "tags" "eq" (.list (some 0) [])
    vars.evaluate (.expr e) = .ok true ∧ vars.evaluate e.toValue = .ok false := by
  decide +kernel

end Value

end Admission
