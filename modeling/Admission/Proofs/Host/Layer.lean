import Admission.Proofs.Host.Reply

/-!
# Guards inside predicates

A predicate of the host may ask another one first, and that one may be a guard.  Seen from outside
the guard has disappeared, but it is still asked, and it still asks the rules: whatever is reported
inside is reported by the whole predicate.  Only a predicate in which no guard of an owner stands
anywhere has nothing to do with the rules of that owner.

Main definitions:

* `Predicate.IsGuardOf`, `Predicate.ClearOf` — a guard of an owner stands outermost, or nowhere;
* `Predicate.without` — the predicate as it would be without the guards of an owner;
* `Predicate.Within` — a predicate that is asked by another one;
* `Predicate.Keyed` — the guards of an owner in a predicate are all for some plugin.

Main results:

* `Predicate.ClearOf.ask_congr`, `Predicate.ClearOf.owner_ne` — **where no guard of an owner stands,
  the rules of that owner play no part**;
* `Predicate.exists_within_of_not_clearOf` — otherwise there is an innermost one;
* `Predicate.exists_event_of_within` — **a guard inside still asks its rules**.
-/

set_option autoImplicit false

namespace Admission.Predicate

/-- A guard of the owner stands outermost. -/
def IsGuardOf (owner : Nat) (p : Predicate) : Prop :=
  ∃ guard, p.guard? = some guard ∧ guard.owner = owner

/-- The predicate neither is a guard of the owner nor asks one. -/
def ClearOf (owner : Nat) : Predicate → Prop
  | .plain _ => True
  | .layered _ below => below.ClearOf owner
  | .guarded guard base => guard.owner ≠ owner ∧ base.ClearOf owner

/-- The predicate without the guards of the owner. -/
def without (owner : Nat) : Predicate → Predicate
  | .plain answer => .plain answer
  | .layered answer below => .layered answer (below.without owner)
  | .guarded guard base =>
    if guard.owner = owner then base.without owner else .guarded guard (base.without owner)

/-- The first predicate is the second one, or is asked by it. -/
inductive Within (part : Predicate) : Predicate → Prop where
  | self : Within part part
  | layered {below : Predicate} (answer : Session → Except Fault Value → Except Fault Value)
      (hbelow : Within part below) : Within part (.layered answer below)
  | guarded {base : Predicate} (guard : Guard) (hbase : Within part base) :
      Within part (.guarded guard base)

/-- Every guard of the owner that the predicate is or asks is for some plugin. -/
def Keyed (owner : Nat) (p : Predicate) : Prop :=
  ∀ guard base, (Predicate.guarded guard base).Within p → guard.owner = owner → guard.keys ≠ []

variable {owner : Nat} {p : Predicate}

theorem ClearOf.not_isGuardOf (h : p.ClearOf owner) : ¬p.IsGuardOf owner := by
  rintro ⟨guard, hguard, howner⟩
  cases p with
  | plain answer => cases hguard
  | layered answer below => cases hguard
  | guarded other base =>
      cases hguard
      exact h.1 howner

/-- What is left of a predicate without the guards of an owner is clear of that owner. -/
theorem without_clearOf (owner : Nat) (p : Predicate) : (p.without owner).ClearOf owner := by
  induction p with
  | plain answer => trivial
  | layered answer below ih => exact ih
  | guarded guard base ih =>
      unfold without
      split
      · exact ih
      · next hother => exact ⟨hother, ih⟩

/-- A predicate that is clear of an owner has nothing to lose. -/
theorem ClearOf.without_eq (h : p.ClearOf owner) : p.without owner = p := by
  induction p with
  | plain answer => rfl
  | layered answer below ih => rw [without, ih h]
  | guarded guard base ih => rw [without, if_neg h.1, ih h.2]

/-! ### Where no guard stands -/

/-- No guard of the owner is asked by a predicate that is clear of that owner. -/
theorem ClearOf.owner_ne_of_within (h : p.ClearOf owner) {guard : Guard} {base : Predicate}
    (hwithin : (Predicate.guarded guard base).Within p) : guard.owner ≠ owner := by
  induction hwithin with
  | self => exact h.1
  | layered answer _ ih => exact ih h
  | guarded other _ ih => exact ih h.2

theorem ClearOf.keyed (h : p.ClearOf owner) : p.Keyed owner :=
  fun _ _ hwithin howner => absurd howner (h.owner_ne_of_within hwithin)

/-- The reply of a predicate that is clear of an owner is the same whatever the owner's rules. -/
theorem ClearOf.ask_congr (h : p.ClearOf owner) {rulesOf rulesOf' : Nat → List Rule}
    (hrules : ∀ other, other ≠ owner → rulesOf other = rulesOf' other) (session : Session) :
    p.ask rulesOf session = p.ask rulesOf' session := by
  induction p with
  | plain answer => rfl
  | layered answer below ih => rw [ask, ask, ih h]
  | guarded guard base ih => rw [ask, ask, ih h.2, hrules guard.owner h.1]

/-- What a guard reports comes from the predicate behind it, or is about its own rules. -/
theorem mem_events_guardReply {rules : List Rule} {session : Session} {guard : Guard}
    {reply : Reply} {e : Nat × TraceEvent}
    (he : e ∈ (guardReply rules session guard reply).events) :
    e ∈ reply.events ∨ e.1 = guard.owner := by
  by_cases haffirms : reply.Affirms
  · obtain ⟨v, hv, htrue⟩ := haffirms
    simp only [guardReply, hv, htrue, if_true, List.mem_append, List.mem_map] at he
    rcases he with hbehind | ⟨event, _, rfl⟩
    · exact .inl hbehind
    · exact .inr rfl
  · rw [(guardReply_of_not_affirms rules session guard haffirms).2] at he
    exact .inl he

/-- A predicate that is clear of an owner never reports anything about the owner's rules. -/
theorem ClearOf.owner_ne (h : p.ClearOf owner) {rulesOf : Nat → List Rule} {session : Session}
    {e : Nat × TraceEvent} (he : e ∈ (p.ask rulesOf session).events) : e.1 ≠ owner := by
  induction p with
  | plain answer => cases he
  | layered answer below ih => exact ih h he
  | guarded guard base ih =>
      rcases mem_events_guardReply he with hbehind | howner
      · exact ih h.2 hbehind
      · exact howner ▸ h.1

/-! ### Where a guard stands inside -/

/-- What is laid over a predicate has the guards of that one. -/
theorem Keyed.layered {below : Predicate} (h : below.Keyed owner)
    (answer : Session → Except Fault Value → Except Fault Value) :
    (Predicate.layered answer below).Keyed owner := by
  intro guard base hwithin
  cases hwithin with
  | layered _ hbelow => exact h guard base hbelow

/-- A guarded predicate has the guards of the one behind and the guard in front. -/
theorem Keyed.guarded {base : Predicate} (h : base.Keyed owner) {guard : Guard}
    (hkeys : guard.keys ≠ []) : (Predicate.guarded guard base).Keyed owner := by
  intro other behind hwithin howner
  cases hwithin with
  | self => exact hkeys
  | guarded _ hbase => exact h other behind hbase howner

/-- In a predicate that is not clear of an owner there is an innermost guard of the owner. -/
theorem exists_within_of_not_clearOf (h : ¬p.ClearOf owner) :
    ∃ guard base, (Predicate.guarded guard base).Within p ∧ guard.owner = owner ∧
      base.ClearOf owner := by
  induction p with
  | plain answer => exact absurd trivial h
  | layered answer below ih =>
      obtain ⟨guard, base, hwithin, hguard⟩ := ih h
      exact ⟨guard, base, .layered answer hwithin, hguard⟩
  | guarded outer behind ih =>
      by_cases hclear : behind.ClearOf owner
      · have howner : outer.owner = owner := by
          by_contra hother
          exact h ⟨hother, hclear⟩
        exact ⟨outer, behind, .self, howner, hclear⟩
      · obtain ⟨guard, base, hwithin, hguard⟩ := ih hclear
        exact ⟨guard, base, .guarded outer hwithin, hguard⟩

/-- What a predicate reports is reported by every predicate that asks it. -/
theorem Within.mem_events {part : Predicate} (h : part.Within p) {rulesOf : Nat → List Rule}
    {session : Session} {e : Nat × TraceEvent} (he : e ∈ (part.ask rulesOf session).events) :
    e ∈ (p.ask rulesOf session).events := by
  induction h with
  | self => exact he
  | layered answer _ ih => exact ih
  | guarded guard _ ih =>
      rw [ask]
      unfold guardReply
      split
      · exact ih
      · split
        · exact List.mem_append_left _ ih
        · exact ih

end Admission.Predicate

namespace Admission

/-! ### The rules leave a trace -/

/-- A decision that is made leaves a trace. -/
theorem firstMatch_events_ne_nil {stage : String} {vars : Fields} {rules : List Rule}
    {d : Decision} (h : (firstMatch stage vars rules).2 = .ok d) :
    (firstMatch stage vars rules).1 ≠ [] := by
  cases rules with
  | nil => exact List.cons_ne_nil _ _
  | cons r rest =>
      unfold firstMatch at h ⊢
      rcases hmatch : r.matchesEvent vars with fault | b
      · rw [hmatch] at h
        cases h
      · cases b <;> exact List.cons_ne_nil _ _

/-- Rules that can speak about a session leave a trace when they are asked. -/
theorem admits_events_ne_nil {key : String} {rules : List Rule} {session : Session} {b : Bool}
    (h : (admits key rules session).2 = .ok b) : (admits key rules session).1 ≠ [] := by
  unfold admits at h ⊢
  cases hvars : session.varsWith [("pluginKey", .str key)] with
  | error fault =>
      rw [hvars] at h
      cases h
  | ok vars =>
      rw [hvars] at h
      cases hdecision : (Decision.forEvent rules vars .plugins "native-filter").2 with
      | error fault =>
          simp only [hdecision] at h
          cases h
      | ok d => exact firstMatch_events_ne_nil hdecision

theorem admitsAll_events_ne_nil {rules : List Rule} {session : Session} {keys : List String}
    (hkeys : keys ≠ []) (hspeak : ∀ key ∈ keys, ∃ b, (admits key rules session).2 = .ok b) :
    (admitsAll rules session keys).1 ≠ [] := by
  obtain ⟨key, rest, rfl⟩ := List.exists_cons_of_ne_nil hkeys
  obtain ⟨b, hb⟩ := hspeak key List.mem_cons_self
  have hevents := admits_events_ne_nil hb
  rw [admitsAll]
  rcases hone : admits key rules session with ⟨events, outcome⟩
  rw [hone] at hb hevents
  cases hb
  cases b with
  | true => exact List.append_ne_nil_of_left_ne_nil hevents _
  | false => exact hevents

/-- A guard inside a predicate asks its rules about every session that the predicate behind it lets
through. -/
theorem Predicate.exists_event_of_within {p base : Predicate} {guard : Guard}
    (h : (Predicate.guarded guard base).Within p) (hkeys : guard.keys ≠ [])
    {rulesOf : Nat → List Rule} {session : Session}
    (haffirms : (base.ask rulesOf session).Affirms)
    (hspeak : ∀ key ∈ guard.keys, ∃ b, (admits key (rulesOf guard.owner) session).2 = .ok b) :
    ∃ e ∈ (p.ask rulesOf session).events, e.1 = guard.owner := by
  obtain ⟨event, hevent⟩ := List.exists_mem_of_ne_nil _ (admitsAll_events_ne_nil hkeys hspeak)
  obtain ⟨v, hv, htrue⟩ := haffirms
  refine ⟨(guard.owner, event), h.mem_events ?_, rfl⟩
  simp only [ask, guardReply, hv, htrue, if_true, List.mem_append, List.mem_map]
  exact .inr ⟨event, hevent, rfl⟩

end Admission
