import Admission.Proofs.Engine.Course

/-!
# After the engine was disposed of

Disposing of the engine takes back the guards that stand outermost.  What the host puts in their
place stays, and when it was laid over a guard, that guard is still asked.  A guard does not know
whether its engine was disposed of: it goes on asking the rules in the store about every session
that the predicate behind it lets through.

So the watch tells how things are on a context: where the host has laid nothing over a guard, the
rules play no part any more; where it has, they are enforced as before.

Main definitions:

* `Predicate.Untouched` — the rules of an owner have no part in what a predicate replies;
* `Predicate.Enforces` — a guard inside a predicate goes on asking its rules.

Main results:

* `Predicate.untouched_iff_clearOf`, `Predicate.exists_enforces` — the rules of an owner have no
  part in a predicate, or a guard inside enforces them;
* `Site.Watch.run_disposed_asks` — **what becomes of each context**.
-/

set_option autoImplicit false

namespace Admission

namespace Predicate

/-- The rules of the owner have no part in what the predicate replies: it has nothing of the
owner's in it, replies the same whatever these rules are, and reports nothing about them. -/
structure Untouched (owner : Nat) (p : Predicate) : Prop where
  without_eq : p.without owner = p
  ask_eq : ∀ rulesOf rulesOf' : Nat → List Rule,
    (∀ other, other ≠ owner → rulesOf other = rulesOf' other) →
      ∀ session, p.ask rulesOf session = p.ask rulesOf' session
  owner_ne : ∀ rulesOf session, ∀ e ∈ (p.ask rulesOf session).events, e.1 ≠ owner

/-- The guard stands inside the predicate, before another one.  It lets through what that one and
the rules for its keys let through, and whenever that one lets a session through about which the
rules can speak, they are asked. -/
structure Enforces (p : Predicate) (guard : Guard) (base : Predicate)
    (rulesOf : Nat → List Rule) : Prop where
  within : (Predicate.guarded guard base).Within p
  keys_ne : guard.keys ≠ []
  affirms_iff : ∀ session, (((Predicate.guarded guard base).ask rulesOf session).Affirms ↔
    (base.ask rulesOf session).Affirms ∧
      ∀ key ∈ guard.keys, (admits key (rulesOf guard.owner) session).2 = .ok true)
  exists_event : ∀ session, (base.ask rulesOf session).Affirms →
    (∀ key ∈ guard.keys, ∃ b, (admits key (rulesOf guard.owner) session).2 = .ok b) →
      ∃ e ∈ (p.ask rulesOf session).events, e.1 = guard.owner

variable {owner : Nat} {p : Predicate}

theorem ClearOf.untouched (h : p.ClearOf owner) : p.Untouched owner where
  without_eq := h.without_eq
  ask_eq := fun _ _ hrules session => h.ask_congr hrules session
  owner_ne := fun _ _ _ he => h.owner_ne he

/-- A predicate is untouched by the rules of an owner exactly when it is clear of that owner. -/
theorem untouched_iff_clearOf : p.Untouched owner ↔ p.ClearOf owner :=
  ⟨fun h => h.without_eq ▸ without_clearOf owner p, ClearOf.untouched⟩

/-- A predicate that is not clear of an owner enforces the owner's rules, by its innermost guard. -/
theorem exists_enforces (h : ¬p.ClearOf owner) (hkeyed : p.Keyed owner)
    (rulesOf : Nat → List Rule) :
    ∃ guard base, guard.owner = owner ∧ base.ClearOf owner ∧ p.Enforces guard base rulesOf := by
  obtain ⟨guard, base, hwithin, howner, hclear⟩ := exists_within_of_not_clearOf h
  have hkeys : guard.keys ≠ [] := hkeyed guard base hwithin howner
  refine ⟨guard, base, howner, hclear, hwithin, hkeys, fun session => ?_, ?_⟩
  · exact (ask_guarded rulesOf session guard base).1
  · exact fun session haffirms hspeak => exists_event_of_within hwithin hkeys haffirms hspeak

end Predicate

namespace Site

/-- After the engine was disposed of, whatever has happened and whatever follows, every context has
the predicate that the host last put there.  The rules of the engine have no part in what it replies
exactly when it was not laid over a guard of the engine.  When it was, a guard of the engine stands
inside, before a predicate of the host, and enforces the rules that are in the store. -/
theorem Watch.run_disposed_asks {s : Site} (hfresh : s.Fresh) {deeds : List Deed}
    (hdeeds : ∀ d ∈ deeds, d.Fair s.engine.number)
    (hdisposes : ∃ d ∈ deeds, d.disposes = true) :
    let w := (Watch.start s).run deeds
    w.site.engine.disposed = true ∧ w.site.rulesOf s.engine.number = w.site.rules ∧
      ∀ context, w.site.host.predicate? context = w.put context ∧
        ∀ p, w.put context = some p →
          (p.Untouched s.engine.number ↔ w.laid context = false) ∧
          (w.laid context = true → ∃ guard base, guard.owner = s.engine.number ∧
            base.ClearOf s.engine.number ∧ p.Enforces guard base w.site.rulesOf) := by
  intro w
  have hsound : w.Sound s.engine.number := hfresh.sound.run hdeeds
  have hdisposed : w.site.engine.disposed = true := Watch.run_disposed (.inr hdisposes)
  have hrules : w.site.rulesOf s.engine.number = w.site.rules := by
    rw [← hsound.number, rulesOf_number]
  refine ⟨hdisposed, hrules, fun context => ⟨hsound.accounted.eq_put hdisposed context, ?_⟩⟩
  intro p hp
  have hclear := hsound.clearOf_iff context p hp
  refine ⟨Predicate.untouched_iff_clearOf.trans hclear, fun hlaid => ?_⟩
  have hasks : ¬p.ClearOf s.engine.number := by
    rw [hclear, hlaid]
    exact Bool.noConfusion
  exact Predicate.exists_enforces hasks (hsound.keyed context p hp) w.site.rulesOf

/-- What the host lays over a predicate to refuse one user. -/
def refusesBad (session : Session) (outcome : Except Fault Value) : Except Fault Value :=
  outcome.map fun v => if v.truthy then Predicate.isOther (.str "bad") session else v

/-- What this makes of the guard of a site that blocks one of its plugins. -/
def overGuard (serial : Nat) : Predicate :=
  .layered refusesBad
    (.guarded ⟨openSite.engine.number, serial, ["echo"]⟩ (.answers (.bool true)))

/-- Guards are put, the host lays a predicate over what is there, and the engine is disposed of. -/
def overlaid : List Deed := guardsPut ++ [.layer "root" refusesBad, .event .dispose none]

theorem fair_overlaid : ∀ d ∈ overlaid, d.Fair openSite.engine.number := by
  simp [overlaid, guardsPut, Deed.Fair]

/-- The guard is still there, below what the host has laid over it, and so is the rule. -/
theorem exists_guard_overlaid : ∃ serial,
    let w := (Watch.start openSite).run overlaid
    w.put "root" = some (overGuard serial) ∧ w.laid "root" = true ∧
      w.site.host.predicate? "root" = some (overGuard serial) ∧ w.site.engine.disposed = true ∧
      w.site.rulesOf openSite.engine.number = [noEcho] := by
  obtain ⟨serial, hguard⟩ := exists_guard_openSite
  let before : Watch := (Watch.start openSite).run guardsPut
  have hnumber : openSite.engine.number = before.site.engine.number :=
    (run_number openSite (echoBlocked ++ [Move.sync])).symm
  have hstands : before.guards "root" = true := (Watch.guards_iff hguard).2 ⟨_, rfl, hnumber⟩
  have hrun : (Watch.start openSite).run overlaid =
      (before.step (.layer "root" refusesBad)).step (.event .dispose none) := rfl
  have hlayer : before.step (.layer "root" refusesBad) =
      before.puts "root" (some (overGuard serial)) (before.laid "root" || before.guards "root") :=
    Watch.step_layer hguard refusesBad
  have hsound : ((Watch.start openSite).run overlaid).Sound openSite.engine.number :=
    fresh_openSite.sound.run fair_overlaid
  have hrules := rulesOf_number ((Watch.start openSite).run overlaid).site
  rw [hsound.number] at hrules
  have haccounted := hsound.accounted
  rw [hrun, hlayer, hstands, Bool.or_true] at hrules haccounted ⊢
  have hput : (before.puts "root" (some (overGuard serial)) true).put "root" =
      some (overGuard serial) :=
    (before.puts_put_self "root" (some (overGuard serial)) true).trans
      (Host.predicate?_setPredicate_self hguard (overGuard serial))
  refine ⟨serial, hput, ?_, ?_, rfl, hrules⟩
  · exact before.puts_laid_self "root" (some (overGuard serial)) true
  · exact (haccounted.eq_put rfl "root").trans hput

theorem Watch.run_disposed_asks_overlaid :
    let w := (Watch.start openSite).run overlaid
    ∃ p, w.site.host.predicate? "root" = some p ∧
      ∃ e ∈ (p.ask w.site.rulesOf {}).events, e.1 = openSite.engine.number := by
  intro w
  obtain ⟨serial, hput, hlaid, -, -, hrules⟩ := exists_guard_overlaid
  have hdisposes : ∃ d ∈ overlaid, d.disposes = true :=
    ⟨.event .dispose none, by simp [overlaid], rfl⟩
  obtain ⟨-, -, hcontexts⟩ := Watch.run_disposed_asks fresh_openSite fair_overlaid hdisposes
  obtain ⟨hhost, hasks⟩ := hcontexts "root"
  obtain ⟨guard, base, howner, -, henforces⟩ := (hasks (overGuard serial) hput).2 hlaid
  -- the guard is the one below the layer: what is behind that one is a predicate of the host
  have hguard : guard.keys = ["echo"] ∧ base = .answers (.bool true) := by
    cases henforces.within with
    | layered _ hbelow =>
        cases hbelow with
        | self => exact ⟨rfl, rfl⟩
        | guarded _ hbase => cases hbase
  obtain ⟨hkeys, rfl⟩ := hguard
  have hspeak : ∀ key ∈ guard.keys,
      ∃ b, (admits key (w.site.rulesOf guard.owner) {}).2 = .ok b := by
    intro key hkey
    rw [hkeys, List.mem_singleton] at hkey
    rw [hkey, howner, hrules]
    exact ⟨false, admits_noEcho.1⟩
  have hevent := henforces.exists_event {} ⟨.bool true, rfl, rfl⟩ hspeak
  rw [howner] at hevent
  exact ⟨overGuard serial, hhost.trans hput, hevent⟩

/-- Although the engine was disposed of, its rule keeps a session away that the predicates of the
host alone let through. -/
theorem overlaid_refuses :
    let w := (Watch.start openSite).run overlaid
    w.site.engine.disposed = true ∧ ∃ p, w.site.host.predicate? "root" = some p ∧
      (p.ask w.site.rulesOf {}).outcome = .ok (.bool false) ∧
      ((p.without openSite.engine.number).ask w.site.rulesOf {}).outcome = .ok (.bool true) ∧
      ∃ e ∈ (p.ask w.site.rulesOf {}).events, e.1 = openSite.engine.number := by
  intro w
  obtain ⟨serial, -, -, hhost, hdisposed, hrules⟩ := exists_guard_overlaid
  have haffirms : ((Predicate.answers (.bool true)).ask w.site.rulesOf {}).Affirms :=
    ⟨.bool true, rfl, rfl⟩
  have hrefused : (admitsAll [noEcho] {} ["echo"]).2 = .ok false := by
    simp only [admitsAll, admits_noEcho.1]
  refine ⟨hdisposed, overGuard serial, hhost, ?_, ?_, ?_⟩
  · have hguard := Predicate.guardReply_of_affirms (w.site.rulesOf openSite.engine.number) {}
      ⟨openSite.engine.number, serial, ["echo"]⟩ haffirms
    simp only [overGuard, Predicate.ask, Predicate.layerReply]
    rw [hguard, hrules, hrefused]
    rfl
  · simp only [overGuard, Predicate.without, if_true]
    rfl
  · refine Predicate.exists_event_of_within (.layered refusesBad .self) (List.cons_ne_nil _ _)
      haffirms fun key hkey => ?_
    rw [List.mem_singleton.1 hkey, hrules]
    exact ⟨false, admits_noEcho.1⟩

end Site

end Admission
