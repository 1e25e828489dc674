import Admission.Proofs.Decision

/-!
# One rule more

Asking a rule ends the search for a decision when its condition holds, and also when it raises a
fault.  The decision is what comes of the first rule in the order of evaluation that applies and
ends the search; no other rule plays a part.  So it can be said what a rule does to a decision when
it is put among others, wherever in the list that is: it decides, or the decision stays as it was.
Ids need not be distinct; where two rules have the same priority and the same id, the one that
comes first in the list is asked first.

Main definitions:

* `Rule.settles`, `Rule.decides` — rules that end the search, and those that are asked as well;
* `Rule.decisive?` — the rule that ends the search;
* `Rule.Forestalled` — a rule that is not reached, because another one ends the search before.

Main results:

* `Decision.forEvent_snd` — the decision is what comes of the decisive rule;
* `Rule.decisive?_insert_of_forestalled`, `Rule.decisive?_insert_of_not_forestalled` — **what one
  rule more does to a decision**.
-/

set_option autoImplicit false

namespace Admission

/-! ### The rule that ends the search -/

namespace Rule

/-- Asking the rule ends the search: its condition holds, or a fault is raised. -/
def settles (vars : Fields) (r : Rule) : Bool :=
  match r.matchesEvent vars with
  | .ok b => b
  | .error _ => true

/-- What comes of a rule that ends the search. -/
def outcome (vars : Fields) (r : Rule) : Except Fault Decision :=
  (r.matchesEvent vars).map fun _ => .ofRule r

/-- The rule is asked about the event, and asking it ends the search. -/
def decides (kind : TargetKind) (vars : Fields) (r : Rule) : Bool :=
  r.applies kind vars && r.settles vars

/-- The one among several rules that ends the search. -/
def decisive? (rules : List Rule) (kind : TargetKind) (vars : Fields) : Option Rule :=
  (sort (rules.filter (decides kind vars))).head?

/-- The rule at a place in a list is not reached, because another one ends the search before. -/
def Forestalled (before : List Rule) (r : Rule) (after : List Rule) (kind : TargetKind)
    (vars : Fields) : Prop :=
  (∃ q ∈ before, q.decides kind vars = true ∧ q.precedes r = true) ∨
    ∃ q ∈ after, q.decides kind vars = true ∧ r.precedes q = false

section Insert

variable {before after : List Rule} {r : Rule} {kind : TargetKind} {vars : Fields}

/-- A rule that is not asked or does not end the search plays no part. -/
theorem decisive?_insert_of_not_decides (h : r.decides kind vars = false) :
    decisive? (before ++ r :: after) kind vars = decisive? (before ++ after) kind vars := by
  simp [decisive?, h]

/-- The rules that end the search are sorted around one of them. -/
theorem exists_decisive?_insert (before after : List Rule) (h : r.decides kind vars = true) :
    ∃ front back, decisive? (before ++ r :: after) kind vars = (front ++ r :: back).head? ∧
      decisive? (before ++ after) kind vars = (front ++ back).head? ∧
      (front ≠ [] ↔ Forestalled before r after kind vars) := by
  obtain ⟨front, back, hwith, hwithout, hmem⟩ := exists_sort_insert
    (before.filter (decides kind vars)) r (after.filter (decides kind vars))
  refine ⟨front, back, ?_, ?_, ?_⟩
  · rw [decisive?, List.filter_append, List.filter_cons_of_pos h, hwith]
  · rw [decisive?, List.filter_append, hwithout]
  · rw [Forestalled, Ne, List.eq_nil_iff_forall_not_mem]
    simp only [not_forall, not_not, hmem, List.mem_filter, and_assoc, exists_or]

theorem decisive?_insert_of_forestalled (h : r.decides kind vars = true)
    (hfirst : Forestalled before r after kind vars) :
    decisive? (before ++ r :: after) kind vars = decisive? (before ++ after) kind vars := by
  obtain ⟨front, back, hwith, hwithout, hiff⟩ := exists_decisive?_insert before after h
  rw [hwith, hwithout, List.head?_append_of_ne_nil _ (hiff.2 hfirst),
    List.head?_append_of_ne_nil _ (hiff.2 hfirst)]

theorem decisive?_insert_of_not_forestalled (h : r.decides kind vars = true)
    (hfirst : ¬ Forestalled before r after kind vars) :
    decisive? (before ++ r :: after) kind vars = some r := by
  obtain ⟨front, back, hwith, -, hiff⟩ := exists_decisive?_insert before after h
  have hnil : front = [] := not_not.1 (mt hiff.1 hfirst)
  rw [hwith, hnil, List.nil_append, List.head?_cons]

end Insert

end Rule

/-- The first rule that ends the search decides. -/
theorem firstMatch_snd (stage : String) (vars : Fields) (rules : List Rule) :
    (firstMatch stage vars rules).2 =
      ((rules.filter (Rule.settles vars)).head?.map (Rule.outcome vars)).getD (.ok .allowed) := by
  induction rules with
  | nil => rfl
  | cons r rest ih =>
      rw [firstMatch]
      cases hr : r.matchesEvent vars with
      | error fault => simp [Rule.settles, Rule.outcome, hr, Except.map]
      | ok b =>
          cases b with
          | true => simp [Rule.settles, Rule.outcome, hr, Except.map]
          | false => simpa [Rule.settles, hr] using ih

theorem Decision.forEvent_snd (rules : List Rule) (vars : Fields) (kind : TargetKind)
    (stage : String) :
    (forEvent rules vars kind stage).2 =
      ((Rule.decisive? rules kind vars).map (Rule.outcome vars)).getD (.ok .allowed) := by
  have hkept : (rules.filter fun r => r.settles vars && r.applies kind vars)
      = rules.filter (Rule.decides kind vars) :=
    List.filter_congr fun r _ => Bool.and_comm _ _
  rw [forEvent, firstMatch_snd, List.filter_filter, Rule.filter_sort, hkept, Rule.decisive?]

end Admission
