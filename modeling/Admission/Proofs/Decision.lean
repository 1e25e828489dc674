import Admission.Decision
import Admission.Proofs.Rule.Order

/-!
# The rule that decides

The decision about an event is found by trying rules one after the other, and everything depends
on the order in which they are tried.  Here it is described without any order of trying: among the
rules that apply to the event and whose condition holds of it, the least one decides.  The trace
names the rules that apply, in order, up to the one that decides.  Neither depends on the order in
which the rules are kept, or on rules that do not apply.

A condition may raise a fault.  What matters is only that this does not happen on the way to the
rule that decides; conditions behind it are never looked at.

Main definitions:

* `matching` — the rules that apply and whose condition holds;
* `OnTheWay` — the rules that come no later than any matching one;
* `Rule.Ascending` — rules in order, each once.

Main results:

* `firstMatch_of_forall_false`, `firstMatch_append` — a run through the rules, without and with a
  rule that decides;
* `Decision.forEvent_congr` — only the rules that apply count, in any order;
* `Decision.forEvent_least` — **the least matching rule decides, and the trace leads up to it**.
-/

set_option autoImplicit false

namespace Admission

namespace Rule

/-- The condition of the rule holds of the attributes.  A fault counts as not holding. -/
def holds (vars : Fields) (r : Rule) : Bool :=
  match r.matchesEvent vars with
  | .ok b => b
  | .error _ => false

theorem holds_of_ok {vars : Fields} {r : Rule} {b : Bool} (h : r.matchesEvent vars = .ok b) :
    r.holds vars = b := by
  rw [holds, h]

/-- Each rule comes strictly before all that follow it. -/
def Ascending (rules : List Rule) : Prop :=
  rules.Pairwise fun a b => a.precedes b = true ∧ b.precedes a = false

theorem ascending_of_nodup {rules : List Rule} (hids : (rules.map (·.id)).Nodup)
    (h : rules.Pairwise fun a b => a.precedes b = true) : Ascending rules := by
  have hne : rules.Pairwise fun a b => a.id ≠ b.id := List.pairwise_map.1 hids
  refine (h.and hne).imp ?_
  rintro a b ⟨hab, hid⟩
  refine ⟨hab, Bool.eq_false_iff.2 fun hba => hid (id_eq_of_precedes hab hba)⟩

end Rule

/-! ### A run through the rules -/

section Run

variable (stage : String) (vars : Fields)

theorem firstMatch_of_forall_false (rules : List Rule)
    (h : ∀ r ∈ rules, r.matchesEvent vars = .ok false) :
    firstMatch stage vars rules
      = (rules.map (·.evaluateEvent stage false) ++ [passEvent stage], .ok .allowed) := by
  induction rules with
  | nil => rfl
  | cons r rest ih =>
      have hr := h r List.mem_cons_self
      have hrest := ih fun q hq => h q (List.mem_cons_of_mem r hq)
      simp [firstMatch, hr, hrest]

/-- Rules that do not hold are passed over, and what follows the first one that holds does not
matter. -/
theorem firstMatch_append (before : List Rule) (r : Rule) (after : List Rule)
    (hbefore : ∀ q ∈ before, q.matchesEvent vars = .ok false)
    (hr : r.matchesEvent vars = .ok true) :
    firstMatch stage vars (before ++ r :: after)
      = (before.map (·.evaluateEvent stage false)
          ++ [r.evaluateEvent stage true, r.actionEvent stage], .ok (.ofRule r)) := by
  induction before with
  | nil => simp [firstMatch, hr]
  | cons q rest ih =>
      have hq := hbefore q List.mem_cons_self
      have hrest := ih fun p hp => hbefore p (List.mem_cons_of_mem q hp)
      simp [firstMatch, hq, hrest]

/-- Either no rule holds, or there is a first one that does not simply fail to hold. -/
theorem forall_false_or_exists_first (rules : List Rule) :
    (∀ r ∈ rules, r.matchesEvent vars = .ok false) ∨
      ∃ before r after, rules = before ++ r :: after ∧
        (∀ q ∈ before, q.matchesEvent vars = .ok false) ∧ r.matchesEvent vars ≠ .ok false := by
  induction rules with
  | nil => exact .inl (by simp)
  | cons r rest ih =>
      by_cases hr : r.matchesEvent vars = .ok false
      · rcases ih with h | ⟨before, q, after, rfl, hbefore, hq⟩
        · exact .inl (List.forall_mem_cons.2 ⟨hr, h⟩)
        · exact .inr ⟨r :: before, q, after, rfl, List.forall_mem_cons.2 ⟨hr, hbefore⟩, hq⟩
      · exact .inr ⟨[], r, rest, rfl, by simp, hr⟩

end Run

/-! ### The rules that count -/

/-- The rules that apply to an event and whose condition holds of it. -/
def matching (rules : List Rule) (vars : Fields) (kind : TargetKind) : List Rule :=
  rules.filter fun r => r.applies kind vars && r.holds vars

theorem mem_matching {rules : List Rule} {vars : Fields} {kind : TargetKind} {r : Rule} :
    r ∈ matching rules vars kind ↔
      r ∈ rules ∧ r.applies kind vars = true ∧ r.holds vars = true := by
  simp [matching]

/-- The rule applies to the event, and it comes no later than any matching rule. -/
def OnTheWay (rules : List Rule) (vars : Fields) (kind : TargetKind) (r : Rule) : Prop :=
  r ∈ rules ∧ r.applies kind vars = true ∧
    ∀ q ∈ matching rules vars kind, r.precedes q = true

namespace Decision

/-- The decision depends only on the rules that apply, and not on their order. -/
theorem forEvent_congr {rules others : List Rule} {vars : Fields} {kind : TargetKind}
    (stage : String) (hids : (rules.map (·.id)).Nodup)
    (hperm : (others.filter (Rule.applies kind vars)).Perm
      (rules.filter (Rule.applies kind vars))) :
    forEvent others vars kind stage = forEvent rules vars kind stage := by
  have hkept : ((rules.filter (Rule.applies kind vars)).map (·.id)).Nodup :=
    hids.sublist (List.filter_sublist.map _)
  rw [forEvent, forEvent, Rule.filter_sort_eq_of_perm hkept hperm]

/-- The rules that are tried, in the order in which they are tried. -/
def tried (rules : List Rule) (vars : Fields) (kind : TargetKind) : List Rule :=
  (Rule.sort rules).filter (Rule.applies kind vars)

theorem forEvent_eq_firstMatch (rules : List Rule) (vars : Fields) (kind : TargetKind)
    (stage : String) :
    forEvent rules vars kind stage = firstMatch stage vars (tried rules vars kind) := rfl

section Tried

variable {rules : List Rule} {vars : Fields} {kind : TargetKind}

theorem mem_tried {r : Rule} :
    r ∈ tried rules vars kind ↔ r ∈ rules ∧ r.applies kind vars = true := by
  simp [tried]

theorem ascending_tried (hids : (rules.map (·.id)).Nodup) :
    Rule.Ascending (tried rules vars kind) := by
  have hsorted : ((Rule.sort rules).map (·.id)).Nodup :=
    ((Rule.sort_perm rules).map _).nodup_iff.2 hids
  refine Rule.ascending_of_nodup (hsorted.sublist (List.filter_sublist.map _)) ?_
  exact (Rule.pairwise_sort rules).filter _

/-- A matching rule with only rules before it that do not hold is the least one. -/
theorem precedes_of_tried_eq {before after : List Rule} {w : Rule}
    (hids : (rules.map (·.id)).Nodup) (htried : tried rules vars kind = before ++ w :: after)
    (hbefore : ∀ q ∈ before, q.holds vars = false) {q : Rule}
    (hq : q ∈ matching rules vars kind) :
    w.precedes q = true ∧ (q = w ∨ q.precedes w = false) := by
  obtain ⟨hmem, happlies, hholds⟩ := mem_matching.1 hq
  have hqtried : q ∈ before ++ w :: after := htried ▸ mem_tried.2 ⟨hmem, happlies⟩
  have hasc : Rule.Ascending (before ++ w :: after) := htried ▸ ascending_tried hids
  rcases List.mem_append.1 hqtried with hqb | hqw
  · rw [hbefore q hqb] at hholds
    contradiction
  · rcases List.mem_cons.1 hqw with rfl | hqa
    · exact ⟨q.precedes_refl, .inl rfl⟩
    · have hstrict := List.rel_of_pairwise_cons (List.pairwise_append.1 hasc).2.1 hqa
      exact ⟨hstrict.1, .inr hstrict.2⟩

/-- The rules tried up to a rule are those that come no later than it. -/
theorem mem_take_tried {before after : List Rule} {w : Rule}
    (hids : (rules.map (·.id)).Nodup) (htried : tried rules vars kind = before ++ w :: after)
    (r : Rule) :
    r ∈ before ++ [w] ↔ r ∈ rules ∧ r.applies kind vars = true ∧ r.precedes w = true := by
  have hasc : Rule.Ascending (before ++ w :: after) := htried ▸ ascending_tried hids
  obtain ⟨_, hafter, hbefore⟩ := List.pairwise_append.1 hasc
  have hmem : r ∈ before ++ w :: after ↔ r ∈ rules ∧ r.applies kind vars = true :=
    htried ▸ mem_tried
  rw [← and_assoc, ← hmem]
  constructor
  · intro hr
    rcases List.mem_append.1 hr with hr | hr
    · exact ⟨List.mem_append_left _ hr, (hbefore r hr w List.mem_cons_self).1⟩
    · rw [List.mem_singleton.1 hr]
      exact ⟨by simp, w.precedes_refl⟩
  · rintro ⟨hr, hrw⟩
    rcases List.mem_append.1 hr with hr | hr
    · exact List.mem_append_left _ hr
    · rcases List.mem_cons.1 hr with rfl | hr
      · simp
      · have hstrict := (List.rel_of_pairwise_cons hafter hr).2
        rw [hrw] at hstrict
        contradiction

end Tried

/-- The trace of the rules that were asked. -/
def askedEvents (stage : String) (vars : Fields) (asked : List Rule) : List TraceEvent :=
  asked.map fun r => r.evaluateEvent stage (r.holds vars)

theorem askedEvents_of_forall_false (stage : String) {vars : Fields} {asked : List Rule}
    (h : ∀ r ∈ asked, r.matchesEvent vars = .ok false) :
    askedEvents stage vars asked = asked.map (·.evaluateEvent stage false) := by
  refine List.map_congr_left ?_
  intro r hr
  rw [Rule.holds_of_ok (h r hr)]

/-! ### The least matching rule -/

section Least

variable {rules : List Rule} {vars : Fields} {kind : TargetKind} (stage : String)
  (hids : (rules.map (·.id)).Nodup)

include hids

/-- An event that no rule matches is allowed, after all rules that apply were asked. -/
theorem forEvent_of_matching_eq_nil
    (hway : ∀ r, OnTheWay rules vars kind r → ∃ b, r.matchesEvent vars = .ok b)
    (hnil : matching rules vars kind = []) :
    ∃ asked, Rule.Ascending asked ∧
      (∀ r, r ∈ asked ↔ r ∈ rules ∧ r.applies kind vars = true) ∧
      forEvent rules vars kind stage
        = (askedEvents stage vars asked ++ [passEvent stage], .ok .allowed) := by
  have hfalse : ∀ r ∈ tried rules vars kind, r.matchesEvent vars = .ok false := by
    intro r hr
    obtain ⟨hmem, happlies⟩ := mem_tried.1 hr
    obtain ⟨b, hb⟩ := hway r ⟨hmem, happlies, by simp [hnil]⟩
    cases b with
    | false => exact hb
    | true =>
        have hr : r ∈ matching rules vars kind :=
          mem_matching.2 ⟨hmem, happlies, Rule.holds_of_ok hb⟩
        simp [hnil] at hr
  refine ⟨tried rules vars kind, ascending_tried hids, fun r => mem_tried, ?_⟩
  rw [forEvent_eq_firstMatch, firstMatch_of_forall_false stage vars _ hfalse,
    askedEvents_of_forall_false stage hfalse]

/-- When some rule matches, trying the rules ends at one that holds. -/
theorem exists_first_holding
    (hway : ∀ r, OnTheWay rules vars kind r → ∃ b, r.matchesEvent vars = .ok b)
    (hne : matching rules vars kind ≠ []) :
    ∃ before w after, tried rules vars kind = before ++ w :: after ∧
      (∀ q ∈ before, q.matchesEvent vars = .ok false) ∧ w.matchesEvent vars = .ok true := by
  rcases forall_false_or_exists_first vars (tried rules vars kind) with
    hnone | ⟨before, w, after, htried, hbefore, hw⟩
  · obtain ⟨q, hq⟩ := List.exists_mem_of_ne_nil _ hne
    obtain ⟨hmem, happlies, hholds⟩ := mem_matching.1 hq
    rw [Rule.holds_of_ok (hnone q (mem_tried.2 ⟨hmem, happlies⟩))] at hholds
    contradiction
  · -- the first rule that does not simply fail to hold is on the way, so it raises no fault
    have hwtried : w ∈ tried rules vars kind := by rw [htried]; simp
    obtain ⟨hmem, happlies⟩ := mem_tried.1 hwtried
    have hholds : ∀ q ∈ before, q.holds vars = false :=
      fun q hq => Rule.holds_of_ok (hbefore q hq)
    obtain ⟨b, hb⟩ := hway w ⟨hmem, happlies,
      fun q hq => (precedes_of_tried_eq hids htried hholds hq).1⟩
    cases b with
    | true => exact ⟨before, w, after, htried, hbefore, hb⟩
    | false => exact absurd hb hw

/-- When some rule matches, the least one decides, after the rules that come before it were
asked. -/
theorem forEvent_of_matching_ne_nil
    (hway : ∀ r, OnTheWay rules vars kind r → ∃ b, r.matchesEvent vars = .ok b)
    (hne : matching rules vars kind ≠ []) :
    ∃ w ∈ matching rules vars kind,
      (∀ q ∈ matching rules vars kind,
        w.precedes q = true ∧ (q = w ∨ q.precedes w = false)) ∧
      ∃ asked, Rule.Ascending asked ∧
        (∀ r, r ∈ asked ↔ r ∈ rules ∧ r.applies kind vars = true ∧ r.precedes w = true) ∧
        forEvent rules vars kind stage
          = (askedEvents stage vars asked ++ [w.actionEvent stage], .ok (.ofRule w)) := by
  obtain ⟨before, w, after, htried, hbefore, hw⟩ := exists_first_holding hids hway hne
  have hholds : ∀ q ∈ before, q.holds vars = false :=
    fun q hq => Rule.holds_of_ok (hbefore q hq)
  have hwtried : w ∈ tried rules vars kind := by rw [htried]; simp
  obtain ⟨hmem, happlies⟩ := mem_tried.1 hwtried
  have hasc : Rule.Ascending (before ++ [w] ++ after) := by
    rw [← List.append_cons, ← htried]
    exact ascending_tried hids
  refine ⟨w, mem_matching.2 ⟨hmem, happlies, Rule.holds_of_ok hw⟩,
    fun q hq => precedes_of_tried_eq hids htried hholds hq,
    before ++ [w], (List.pairwise_append.1 hasc).1, mem_take_tried hids htried, ?_⟩
  -- the rules that were asked are those in front of the one that decides, and that one
  have hasked : askedEvents stage vars (before ++ [w])
      = before.map (·.evaluateEvent stage false) ++ [w.evaluateEvent stage true] := by
    rw [← askedEvents_of_forall_false stage hbefore]
    simp [askedEvents, Rule.holds_of_ok hw]
  rw [forEvent_eq_firstMatch, htried, firstMatch_append stage vars before w after hbefore hw,
    hasked]
  simp

end Least

theorem ofRule_eq (w : Rule) :
    ofRule w
      = ⟨w.action.verdict, if w.action = .block then w.response else "", w.id, w.name⟩ := by
  cases haction : w.action <;> simp [ofRule, haction]

/-- When no condition on the way raises a fault, the least matching rule decides, and an event that
no rule matches is allowed.  The trace has the rules that apply and come no later than the one that
decides, in order, and then the outcome.  Neither the order of the rules nor rules that do not
apply play a part. -/
theorem forEvent_least (rules : List Rule) (vars : Fields) (kind : TargetKind) (stage : String)
    (hids : (rules.map (·.id)).Nodup)
    (hway : ∀ r, OnTheWay rules vars kind r → ∃ b, r.matchesEvent vars = .ok b) :
    (∃ d, (forEvent rules vars kind stage).2 = .ok d ∧
      (d.verdict = .allow ↔ matching rules vars kind = [])) ∧
    (matching rules vars kind = [] →
      ∃ asked, Rule.Ascending asked ∧
        (∀ r, r ∈ asked ↔ r ∈ rules ∧ r.applies kind vars = true) ∧
        forEvent rules vars kind stage
          = (askedEvents stage vars asked ++ [passEvent stage], .ok ⟨.allow, "", "", ""⟩)) ∧
    (matching rules vars kind ≠ [] →
      ∃ w ∈ matching rules vars kind,
        (∀ q ∈ matching rules vars kind,
          w.precedes q = true ∧ (q = w ∨ q.precedes w = false)) ∧
        ∃ asked, Rule.Ascending asked ∧
          (∀ r, r ∈ asked ↔ r ∈ rules ∧ r.applies kind vars = true ∧ r.precedes w = true) ∧
          forEvent rules vars kind stage
            = (askedEvents stage vars asked ++ [w.actionEvent stage],
                .ok ⟨w.action.verdict, if w.action = .block then w.response else "", w.id,
                  w.name⟩)) ∧
    (∀ others : List Rule, others.Perm rules →
      forEvent others vars kind stage = forEvent rules vars kind stage) ∧
    (∀ before r after, rules = before ++ r :: after → r.applies kind vars = false →
      forEvent (before ++ after) vars kind stage = forEvent rules vars kind stage) := by
  refine ⟨?_, forEvent_of_matching_eq_nil stage hids hway, ?_, ?_, ?_⟩
  · by_cases hnil : matching rules vars kind = []
    · obtain ⟨asked, _, _, heq⟩ := forEvent_of_matching_eq_nil stage hids hway hnil
      exact ⟨.allowed, by rw [heq], by simp [hnil, allowed]⟩
    · obtain ⟨w, _, _, asked, _, _, heq⟩ := forEvent_of_matching_ne_nil stage hids hway hnil
      refine ⟨.ofRule w, by rw [heq], ?_⟩
      cases haction : w.action <;> simp [hnil, ofRule, Action.verdict, haction]
  · intro hne
    obtain ⟨w, hw, hleast, h⟩ := forEvent_of_matching_ne_nil stage hids hway hne
    exact ⟨w, hw, hleast, by rwa [ofRule_eq] at h⟩
  · intro others hperm
    exact forEvent_congr stage hids (hperm.filter _)
  · rintro before r after rfl happlies
    refine forEvent_congr stage hids (List.Perm.of_eq ?_)
    simp [happlies]

/-- Two rules that match with the same priority, one in front of them that does not match, and one
behind them whose pattern asks for too many repetitions. -/
def rulesInDispute : List Rule :=
  [{ Rule.blank "b" with priority := 1, action := .bypass, condition := .group "and" [] },
   { Rule.blank "a" with
      priority := 1, condition := .compare "content" "eq" (.str "spam"), response := "no" },
   { Rule.blank "d" with
      priority := 7, condition := .compare "content" "regex" (.str "a{4294967295}") },
   { Rule.blank "c" with condition := .negation (.compare "content" "eq" (.str "spam")) }]

theorem forEvent_least_dispute :
    (rulesInDispute.map (·.id)).Nodup ∧
      (∀ r, OnTheWay rulesInDispute [("content", .str "spam")] .everything r →
        ∃ b, r.matchesEvent [("content", .str "spam")] = .ok b) ∧
      ∃ d, (forEvent rulesInDispute [("content", .str "spam")] .everything "message").2 = .ok d ∧
        (d.verdict = .allow ↔
          matching rulesInDispute [("content", .str "spam")] .everything = []) := by
  have hids : (rulesInDispute.map (·.id)).Nodup := by decide
  have hway : ∀ r, OnTheWay rulesInDispute [("content", .str "spam")] .everything r →
      ∃ b, r.matchesEvent [("content", .str "spam")] = .ok b := by
    rintro r ⟨hmem, -, hleast⟩
    have hb := hleast (rulesInDispute.head (by decide)) (mem_matching.2 ⟨by simp, rfl, rfl⟩)
    simp only [rulesInDispute, List.mem_cons, List.not_mem_nil, or_false] at hmem
    rcases hmem with rfl | rfl | rfl | rfl
    · exact ⟨true, rfl⟩
    · exact ⟨true, rfl⟩
    · -- the rule with the large pattern comes after one that matches
      exact absurd hb (by decide)
    · exact ⟨false, rfl⟩
  exact ⟨hids, hway, (forEvent_least _ _ _ _ hids hway).1⟩

end Decision

end Admission
