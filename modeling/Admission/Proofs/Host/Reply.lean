import Admission.Host.Predicate
import Admission.Proofs.Decision
import Admission.Proofs.Table

/-!
# What a guard replies

A guard lets a session through when the predicate behind it does and the rules for each of its keys
do.  The rules for a plugin let a session through unless one of them refuses it, so a plugin that no
rule names is open to everyone, and where a guard says no although the predicate behind it says yes,
there is a rule to blame.

Main definitions:

* `Reply.Affirms` — the reply lets the session through;
* `Rule.Refuses` — the rule keeps a session away from a plugin.

Main results:

* `admits_of_not_mem_activeKeys` — plugins that no rule names are let through;
* `exists_refuses_of_admits` — nothing is refused without a rule that refuses it;
* `Predicate.ask_guarded` — **what a guard replies**.
-/

set_option autoImplicit false

namespace Admission

/-! ### Rules for plugins -/

/-- All keys are let through when each of them is. -/
theorem admitsAll_eq_true_iff (rules : List Rule) (session : Session) (keys : List String) :
    (admitsAll rules session keys).2 = .ok true ↔
      ∀ key ∈ keys, (admits key rules session).2 = .ok true := by
  induction keys with
  | nil => simp [admitsAll]
  | cons key rest ih =>
      rw [List.forall_mem_cons, ← ih, admitsAll]
      rcases admits key rules session with ⟨events, fault | b⟩
      · simp
      · cases b <;> simp

theorem mem_activeKeys {rules : List Rule} {key : String} :
    key ∈ activeKeys rules ↔
      ∃ r ∈ rules, r.enabled = true ∧ ∃ keys, r.target = .plugins keys ∧ key ∈ keys := by
  rw [activeKeys, List.mem_eraseDups, List.mem_flatMap]
  constructor
  · rintro ⟨r, hr, hkey⟩
    split at hkey
    · next keys henabled htarget => exact ⟨r, hr, henabled, keys, htarget, hkey⟩
    · cases hkey
  · rintro ⟨r, hr, henabled, keys, htarget, hkey⟩
    exact ⟨r, hr, by rw [henabled, htarget]; exact hkey⟩

/-- No rule is asked about a plugin that no enabled rule names. -/
theorem tried_of_not_mem_activeKeys {rules : List Rule} {key : String} {vars : Fields}
    (hkey : key ∉ activeKeys rules) (hvars : vars.getD "pluginKey" = .str key) :
    Decision.tried rules vars .plugins = [] := by
  rw [List.eq_nil_iff_forall_not_mem]
  intro r hr
  obtain ⟨hmem, happlies⟩ := Decision.mem_tried.1 hr
  simp only [Rule.applies, Bool.and_eq_true] at happlies
  obtain ⟨⟨henabled, hkind⟩, hcovers⟩ := happlies
  refine hkey (mem_activeKeys.2 ⟨r, hmem, henabled, ?_⟩)
  cases htarget : r.target with
  | everything =>
      rw [htarget] at hkind
      cases hkind
  | commands names =>
      rw [htarget] at hkind
      cases hkind
  | plugins keys =>
      rw [htarget, Target.covers, hvars, Target.holds, Bool.and_eq_true] at hcovers
      exact ⟨keys, rfl, by simpa using hcovers.2⟩

/-- The rules for a plugin see its key. -/
theorem getD_pluginKey_of_varsWith {session : Session} {key : String} {vars : Fields}
    (h : session.varsWith [("pluginKey", .str key)] = .ok vars) :
    vars.getD "pluginKey" = .str key := by
  unfold Session.varsWith at h
  cases hvars : session.vars with
  | error fault =>
      rw [hvars] at h
      cases h
  | ok base =>
      rw [hvars] at h
      cases h
      exact congrArg (Option.getD · .null) (Table.get?_set base "pluginKey" (.str key) "pluginKey")

/-- The rules let every session through to a plugin that no enabled rule names, if they can speak
about the session at all. -/
theorem admits_of_not_mem_activeKeys {rules : List Rule} {key : String} {session : Session}
    (hkey : key ∉ activeKeys rules) (hspeak : ∃ b, (admits key rules session).2 = .ok b) :
    (admits key rules session).2 = .ok true := by
  obtain ⟨b, hb⟩ := hspeak
  unfold admits at hb ⊢
  cases hvars : session.varsWith [("pluginKey", .str key)] with
  | error fault =>
      rw [hvars] at hb
      cases hb
  | ok vars =>
      have hplugin := getD_pluginKey_of_varsWith hvars
      simp only [Decision.forEvent_eq_firstMatch, tried_of_not_mem_activeKeys hkey hplugin]
      rfl

/-- The rule keeps a session away from a plugin: it is enabled, it names the plugin, its condition
holds and it blocks. -/
def Rule.Refuses (r : Rule) (key : String) (session : Session) : Prop :=
  r.action = .block ∧ ∃ vars, session.varsWith [("pluginKey", .str key)] = .ok vars ∧
    r.applies .plugins vars = true ∧ r.matchesEvent vars = .ok true

/-- A decision is made by a rule whose condition holds, or by none. -/
theorem exists_of_firstMatch {stage : String} {vars : Fields} {rules : List Rule} {d : Decision}
    (h : (firstMatch stage vars rules).2 = .ok d) :
    d = .allowed ∨ ∃ r ∈ rules, r.matchesEvent vars = .ok true ∧ d = .ofRule r := by
  induction rules with
  | nil =>
      cases h
      exact .inl rfl
  | cons r rest ih =>
      unfold firstMatch at h
      cases hmatch : r.matchesEvent vars with
      | error fault =>
          rw [hmatch] at h
          cases h
      | ok b =>
          rw [hmatch] at h
          cases b with
          | true =>
              cases h
              exact .inr ⟨r, List.mem_cons_self, hmatch, rfl⟩
          | false =>
              rcases ih h with hnone | ⟨q, hq, hholds, hd⟩
              · exact .inl hnone
              · exact .inr ⟨q, List.mem_cons_of_mem r hq, hholds, hd⟩

/-- A session is only kept away from a plugin by a rule that refuses it. -/
theorem exists_refuses_of_admits {rules : List Rule} {key : String} {session : Session}
    (h : (admits key rules session).2 = .ok false) : ∃ r ∈ rules, r.Refuses key session := by
  unfold admits at h
  cases hvars : session.varsWith [("pluginKey", .str key)] with
  | error fault =>
      rw [hvars] at h
      cases h
  | ok vars =>
      rw [hvars] at h
      cases hdecision : (Decision.forEvent rules vars .plugins "native-filter").2 with
      | error fault =>
          simp only [hdecision] at h
          cases h
      | ok d =>
          simp only [hdecision] at h
          have hblocked : d.isAllowed = false := Except.ok.inj h
          rw [Decision.forEvent_eq_firstMatch] at hdecision
          rcases exists_of_firstMatch hdecision with rfl | ⟨r, hr, hholds, rfl⟩
          · cases hblocked
          · obtain ⟨hmem, happlies⟩ := Decision.mem_tried.1 hr
            refine ⟨r, hmem, ?_, vars, hvars, happlies, hholds⟩
            cases haction : r.action with
            | block => rfl
            | bypass => simp [Decision.isAllowed, Decision.isBlocked, Decision.ofRule, haction,
                Action.verdict] at hblocked

theorem exists_admits_eq_false {rules : List Rule} {session : Session} {keys : List String}
    (h : (admitsAll rules session keys).2 = .ok false) :
    ∃ key ∈ keys, (admits key rules session).2 = .ok false := by
  induction keys with
  | nil => cases h
  | cons key rest ih =>
      rw [admitsAll] at h
      rcases hone : admits key rules session with ⟨events, fault | b⟩
      · rw [hone] at h
        cases h
      · rw [hone] at h
        cases b with
        | false => exact ⟨key, List.mem_cons_self, by rw [hone]⟩
        | true =>
            obtain ⟨other, hother, hfalse⟩ := ih h
            exact ⟨other, List.mem_cons_of_mem key hother, hfalse⟩

/-! ### The reply of a guard -/

/-- The reply is a value that counts as true: the session is let through. -/
def Reply.Affirms (r : Reply) : Prop := ∃ v, r.outcome = .ok v ∧ v.truthy = true

theorem Reply.affirms_bool_iff {r : Reply} {outcome : Except Fault Bool}
    (h : r.outcome = outcome.map Value.bool) : r.Affirms ↔ outcome = .ok true := by
  unfold Affirms
  rw [h]
  cases outcome with
  | error fault => simp [Except.map]
  | ok b => cases b <;> simp [Except.map, Value.truthy]

namespace Predicate

variable (rules : List Rule) (session : Session) (guard : Guard)

/-- When the guarded predicate lets the session through, the rules speak. -/
theorem guardReply_of_affirms {reply : Reply} (h : reply.Affirms) :
    (guardReply rules session guard reply).outcome =
      (admitsAll rules session guard.keys).2.map .bool := by
  obtain ⟨v, hv, htrue⟩ := h
  simp only [guardReply, hv, htrue, if_true]

/-- When the guarded predicate does not let the session through, the guard does not either, and
nothing more is reported. -/
theorem guardReply_of_not_affirms {reply : Reply} (h : ¬reply.Affirms) :
    ¬(guardReply rules session guard reply).Affirms ∧
      (guardReply rules session guard reply).events = reply.events := by
  cases houtcome : reply.outcome with
  | error fault =>
      have hsame : guardReply rules session guard reply = reply := by
        simp only [guardReply, houtcome]
      rw [hsame]
      exact ⟨h, rfl⟩
  | ok v =>
      have hv : v.truthy = false := Bool.eq_false_iff.2 fun htrue => h ⟨v, houtcome, htrue⟩
      have hsame : guardReply rules session guard reply =
          { reply with outcome := .ok (.bool false) } := by
        simp only [guardReply, houtcome, hv, Bool.false_eq_true, if_false]
      rw [hsame]
      refine ⟨?_, rfl⟩
      rintro ⟨w, hw, htrue⟩
      cases hw
      cases htrue

theorem guardReply_calls (reply : Reply) :
    (guardReply rules session guard reply).calls = reply.calls := by
  unfold guardReply
  split
  · rfl
  · split
    · rfl
    · rfl

/-- A guard lets a session through when the predicate behind it does and the rules for all its keys
do; if not, some rule for its keys refuses the session.  It asks the predicate once, and it asks no
rule when that one does not let the session through. -/
theorem ask_guarded (rulesOf : Nat → List Rule) (session : Session) (guard : Guard)
    (base : Predicate) :
    let behind := base.ask rulesOf session
    let reply := (guarded guard base).ask rulesOf session
    (reply.Affirms ↔ behind.Affirms ∧
        ∀ key ∈ guard.keys, (admits key (rulesOf guard.owner) session).2 = .ok true) ∧
      (behind.Affirms → ∀ v, reply.outcome = .ok v → v.truthy = false →
        ∃ key ∈ guard.keys, ∃ r ∈ rulesOf guard.owner, r.Refuses key session) ∧
      reply.calls = behind.calls ∧
      (¬behind.Affirms → reply.events = behind.events) := by
  intro behind reply
  refine ⟨?_, ?_, guardReply_calls _ session guard behind,
    fun hrefused => (guardReply_of_not_affirms _ session guard hrefused).2⟩
  · by_cases haffirmed : behind.Affirms
    · have hspoken : reply.Affirms ↔ _ :=
        Reply.affirms_bool_iff (guardReply_of_affirms _ session guard haffirmed)
      rw [hspoken, admitsAll_eq_true_iff]
      exact ⟨fun h => ⟨haffirmed, h⟩, fun h => h.2⟩
    · have hrefused := (guardReply_of_not_affirms (rulesOf guard.owner) session guard haffirmed).1
      exact ⟨fun h => absurd h hrefused, fun h => absurd h.1 haffirmed⟩
  · intro haffirmed v hv hfalse
    have hrules : (admitsAll (rulesOf guard.owner) session guard.keys).2.map .bool = .ok v :=
      (guardReply_of_affirms _ session guard haffirmed).symm.trans hv
    -- the predicate let the session through, so that a value that is false comes from the rules
    cases hall : (admitsAll (rulesOf guard.owner) session guard.keys).2 with
    | error fault =>
        rw [hall] at hrules
        cases hrules
    | ok b =>
        rw [hall] at hrules
        cases hrules
        cases b with
        | true => cases hfalse
        | false =>
            obtain ⟨key, hkey, hadmits⟩ := exists_admits_eq_false hall
            exact ⟨key, hkey, exists_refuses_of_admits hadmits⟩

end Predicate

end Admission
