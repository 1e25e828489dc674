import Admission.Host.Guards
import Admission.Proofs.Rule.Order
import Admission.Store

/-!
# Rules in force

A rule that is switched off has no part in anything: not in the order of evaluation, not in the
search for the first rule that decides, and not in the keys of plugins that need a guard.  So rules
of which the same ones are enabled, in the same order, decide alike, and need the same guards.  A
list in which a rule was switched off and the list in which it was removed are such rules.

Main definitions:

* `Rule.inForce` — the rules that are enabled;
* `Rule.off` — a rule, switched off.

Main results:

* `Decision.forEvent_of_inForce`, `activeKeys_congr` — **only the rules in force matter**;
* `Predicate.ask_congr`, `Ledger.sync_congr` — and so for replies and guards;
* `Store.inForce_putFirst_off` — **switching a rule off is removing it**.
-/

set_option autoImplicit false

namespace Admission

/-- The rules that are enabled. -/
def Rule.inForce (rules : List Rule) : List Rule := rules.filter (·.enabled)

def Rule.off (r : Rule) : Rule := { r with enabled := false }

@[simp] theorem Rule.off_id (r : Rule) : r.off.id = r.id := rfl

/-- The keys that need a guard are those of the rules in force. -/
theorem activeKeys_inForce (rules : List Rule) :
    activeKeys (Rule.inForce rules) = activeKeys rules := by
  unfold activeKeys
  congr 1
  induction rules with
  | nil => rfl
  | cons r rest ih =>
      rw [Rule.inForce, List.filter_cons]
      cases henabled : r.enabled with
      | false =>
          rw [if_neg (by simp), List.flatMap_cons, henabled]
          exact ih
      | true =>
          rw [if_pos rfl, List.flatMap_cons, List.flatMap_cons]
          congr 1

section Congr

variable {rules others : List Rule} (h : Rule.inForce rules = Rule.inForce others)

include h

/-- The rules that apply to an event are in force. -/
theorem Rule.filter_applies_congr (kind : TargetKind) (vars : Fields) :
    (sort rules).filter (applies kind vars) = (sort others).filter (applies kind vars) := by
  have hsplit : ∀ rules : List Rule, rules.filter (applies kind vars) =
      (inForce rules).filter fun r => r.target.kind == kind && r.target.covers vars := by
    intro rules
    rw [inForce, List.filter_filter]
    refine List.filter_congr fun r _ => ?_
    rw [applies, Bool.and_assoc, Bool.and_comm]
  rw [filter_sort, filter_sort, hsplit, hsplit, h]

/-- **Rules decide alike when the same ones are in force.** -/
theorem Decision.forEvent_of_inForce (vars : Fields) (kind : TargetKind) (stage : String) :
    forEvent rules vars kind stage = forEvent others vars kind stage := by
  rw [forEvent, forEvent, Rule.filter_applies_congr h]

theorem admits_congr (key : String) (session : Session) :
    admits key rules session = admits key others session := by
  rw [admits, admits]
  cases session.varsWith [("pluginKey", .str key)] with
  | error fault => rfl
  | ok vars =>
      dsimp only
      rw [Decision.forEvent_of_inForce h]

theorem admitsAll_congr (session : Session) (keys : List String) :
    admitsAll rules session keys = admitsAll others session keys := by
  induction keys with
  | nil => rfl
  | cons key rest ih => rw [admitsAll, admitsAll, admits_congr h, ih]

/-- The same keys need a guard for rules of which the same ones are in force. -/
theorem activeKeys_congr : activeKeys rules = activeKeys others := by
  rw [← activeKeys_inForce, h, activeKeys_inForce]

/-- The same guards are put for rules of which the same ones are in force. -/
theorem Ledger.sync_congr (l : Ledger) (host : Host) (forks : Table (Option String)) :
    l.sync host rules forks = l.sync host others forks := by
  rw [sync, sync, activeKeys_congr h]

end Congr

/-- A predicate replies alike when, for every owner of guards, the same rules are in force. -/
theorem Predicate.ask_congr {rulesOf othersOf : Nat → List Rule}
    (h : ∀ owner, Rule.inForce (rulesOf owner) = Rule.inForce (othersOf owner))
    (session : Session) (p : Predicate) : p.ask rulesOf session = p.ask othersOf session := by
  induction p with
  | plain answer => rfl
  | layered answer below ih => rw [ask, ask, ih]
  | guarded guard base ih =>
      rw [ask, ask, ih, guardReply, guardReply, admitsAll_congr (h guard.owner)]

/-- **Switching a rule off is removing it**, as far as the rules in force are concerned. -/
theorem Store.inForce_putFirst_off (r : Rule) (rules : List Rule) :
    Rule.inForce (putFirst r.off rules) =
      Rule.inForce (rules.eraseP (·.id == r.id)) := by
  induction rules with
  | nil => rfl
  | cons q rest ih =>
      rw [putFirst, List.eraseP_cons, Rule.off_id]
      cases hq : q.id == r.id with
      | true => rfl
      | false =>
          rw [if_neg Bool.false_ne_true, cond_false, Rule.inForce, Rule.inForce, List.filter_cons,
            List.filter_cons]
          rw [Rule.inForce, Rule.inForce] at ih
          rw [ih]

end Admission
