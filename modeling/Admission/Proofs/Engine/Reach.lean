import Admission.Proofs.Engine.Guards
import Mathlib.Data.List.Induction

/-!
# Which instances of a plugin the rules reach

A plugin may be registered several times: in several groups, as enabled and as disabled, for one
fork or for many.  Its rules are meant for every instance.  But a round of guards looks at the
forks through a table with one entry for each plugin, so of all registrations that the walk lists
under one key only the latest counts.

Here it is said what follows.  A session that the rules for a plugin refuse is stopped at the
parent of the latest registration, and so are the instances that have the same parent protected.
Where another registration has another parent, the rules for the plugin are not asked, and the
session gets through as far as the host and the rules for other plugins let it.

Main definition: `Latest` — the last registration of its plugin among several.

Main results:

* `Host.mem_pluginForks_iff` — the forks that a round looks at are those of the latest
  registrations;
* `Host.admitsTo_iff` — a context admits sessions to the plugins whose latest fork it is the
  parent of;
* `Site.sync_reaches_latest` — **which instances of a plugin its rules reach**.
-/

set_option autoImplicit false

namespace Admission

/-! ### The latest registrations -/

/-- The registration is one of those listed, and no later one is for the same plugin. -/
def Latest (registrations : List Registration) (r : Registration) : Prop :=
  ∃ before after, registrations = before ++ r :: after ∧ ∀ q ∈ after, q.plugin ≠ r.plugin

section Latest

variable {registrations : List Registration} {r : Registration}

theorem latest_append_singleton (q : Registration) :
    Latest (registrations ++ [q]) r ↔ r = q ∨ (r.plugin ≠ q.plugin ∧ Latest registrations r) := by
  constructor
  · rintro ⟨before, after, hsplit, hafter⟩
    rcases List.eq_nil_or_concat' after with rfl | ⟨rest, last, rfl⟩
    · obtain ⟨-, hlast⟩ := List.append_inj' hsplit rfl
      exact .inl (List.cons.inj hlast).1.symm
    · rw [← List.cons_append, ← List.append_assoc] at hsplit
      obtain ⟨hinit, hlast⟩ := List.append_inj' hsplit rfl
      obtain rfl := (List.cons.inj hlast).1
      exact .inr ⟨(hafter q (by simp)).symm, before, rest, hinit,
        fun p hp => hafter p (List.mem_append_left _ hp)⟩
  · rintro (rfl | ⟨hne, before, after, rfl, hafter⟩)
    · exact ⟨registrations, [], rfl, nofun⟩
    · refine ⟨before, after ++ [q], by simp, ?_⟩
      intro p hp
      rcases List.mem_append.1 hp with hp | hp
      · exact hafter p hp
      · rw [List.mem_singleton.1 hp]
        exact hne.symm

/-- A plugin has only one latest registration. -/
theorem Latest.unique {q : Registration} (hr : Latest registrations r)
    (hq : Latest registrations q) (hplugin : r.plugin = q.plugin) : r = q := by
  induction registrations using List.reverseRecOn with
  | nil =>
      obtain ⟨before, after, hsplit, -⟩ := hr
      simp at hsplit
  | append_singleton init last ih =>
      rw [latest_append_singleton] at hr hq
      rcases hr with rfl | ⟨hr, hr'⟩
      · rcases hq with rfl | ⟨hq, -⟩
        · rfl
        · exact absurd hplugin.symm hq
      · rcases hq with rfl | ⟨-, hq'⟩
        · exact absurd hplugin hr
        · exact ih hr' hq'

/-- Every plugin that is registered has a latest registration. -/
theorem exists_latest (hr : r ∈ registrations) :
    ∃ last, Latest registrations last ∧ last.plugin = r.plugin := by
  induction registrations using List.reverseRecOn with
  | nil => cases hr
  | append_singleton init q ih =>
      by_cases hq : q.plugin = r.plugin
      · exact ⟨q, (latest_append_singleton q).2 (.inl rfl), hq⟩
      · have hinit : r ∈ init := by
          rcases List.mem_append.1 hr with h | h
          · exact h
          · exact absurd (congrArg Registration.plugin (List.mem_singleton.1 h)).symm hq
        obtain ⟨last, hlast, hplugin⟩ := ih hinit
        refine ⟨last, (latest_append_singleton q).2 (.inr ⟨?_, hlast⟩), hplugin⟩
        rw [hplugin]
        exact Ne.symm hq

end Latest

namespace Host

variable {h : Host} {context key : String}

/-- The table of forks has the fork of the latest registration of each plugin. -/
theorem mem_pluginForks_iff {fork : Option String} :
    (key, fork) ∈ h.pluginForks ↔
      ∃ r, Latest h.registrations r ∧ r.plugin = key ∧ r.fork = fork := by
  rw [pluginForks]
  induction h.registrations using List.reverseRecOn with
  | nil => simp [Latest]
  | append_singleton init q ih =>
      rw [List.foldl_append, List.foldl_cons, List.foldl_nil, Table.mem_set_iff, ih]
      simp only [latest_append_singleton, Prod.mk.injEq]
      constructor
      · rintro (⟨rfl, rfl⟩ | ⟨hne, r, hr, rfl, rfl⟩)
        · exact ⟨q, .inl rfl, rfl, rfl⟩
        · exact ⟨r, .inr ⟨hne, hr⟩, rfl, rfl⟩
      · rintro ⟨r, rfl | ⟨hne, hr⟩, rfl, rfl⟩
        · exact .inl ⟨rfl, rfl⟩
        · exact .inr ⟨hne, r, hr, rfl, rfl⟩

theorem admitsTo_iff : h.AdmitsTo context key ↔
    ∃ r, Latest h.registrations r ∧ r.plugin = key ∧ h.parentOf? r.fork = some context := by
  simp only [AdmitsTo, mem_pluginForks_iff]
  constructor
  · rintro ⟨fork, ⟨r, hr, hkey, rfl⟩, hparent⟩
    exact ⟨r, hr, hkey, hparent⟩
  · rintro ⟨r, hr, hkey, hparent⟩
    exact ⟨r.fork, ⟨r, hr, hkey, rfl⟩, hparent⟩

end Host

/-! ### The reply of a guard -/

theorem admitsAll_speaks {rules : List Rule} {session : Session} {keys : List String}
    (hspeak : ∀ key ∈ keys, ∃ b, (admits key rules session).2 = .ok b) :
    ∃ b, (admitsAll rules session keys).2 = .ok b := by
  induction keys with
  | nil => exact ⟨true, rfl⟩
  | cons key rest ih =>
      obtain ⟨hkey, hrest⟩ := List.forall_mem_cons.1 hspeak
      obtain ⟨b, hb⟩ := hkey
      rw [admitsAll]
      rcases hone : admits key rules session with ⟨events, outcome⟩
      rw [hone] at hb
      cases hb
      cases b with
      | false => exact ⟨false, rfl⟩
      | true => exact ih hrest

/-- A plugin whose rules refuse a session is one that some rule names. -/
theorem mem_activeKeys_of_refused {rules : List Rule} {key : String} {session : Session}
    (h : (admits key rules session).2 = .ok false) : key ∈ activeKeys rules := by
  by_contra hinactive
  rw [admits_of_not_mem_activeKeys hinactive ⟨false, h⟩] at h
  cases h

namespace Site

/-- What stands on a context replies with a value, if the predicate behind it and the rules for the
captured keys do. -/
theorem Stands.speaks {owner : Nat} {base p : Predicate} {keys : List String}
    (h : Stands owner base keys p) {rulesOf : Nat → List Rule} {session : Session}
    (hbase : ∃ v, (base.ask rulesOf session).outcome = .ok v)
    (hspeak : ∀ key ∈ keys, ∃ b, (admits key (rulesOf owner) session).2 = .ok b) :
    ∃ v, (p.ask rulesOf session).outcome = .ok v := by
  obtain ⟨v, hv⟩ := hbase
  cases h with
  | alone => exact ⟨v, hv⟩
  | guarded serial keys =>
      rw [Predicate.ask, Predicate.guardReply, hv]
      dsimp only
      split
      · obtain ⟨b, hb⟩ := admitsAll_speaks hspeak
        exact ⟨.bool b, by simp [hb, Except.map]⟩
      · exact ⟨.bool false, rfl⟩

/-- After a round of guards on an engine that was not disposed of, take any registration in the tree
and any context with a predicate, be it the parent of its fork or another one.  If the latest
registration of the plugin has this parent, a session that the rules for the plugin refuse is not
let through there; and the reply is a value that says so, unless the predicate of the host or the
rules for some plugin fail.  If the latest registration has another parent, the rules for the plugin
are not asked: the session is let through when the predicate of the host and the rules for the other
plugins do. -/
theorem sync_reaches_latest {s : Site} (hopen : s.engine.disposed = false) {r : Registration}
    (hr : r ∈ s.sync.host.registrations) {context : String} {p : Predicate}
    (hp : s.sync.host.predicate? context = some p) :
    ∃ base last, (s.engine.ledger.restore s.host).2.predicate? context = some base ∧
      Latest s.sync.host.registrations last ∧ last.plugin = r.plugin ∧
      (s.sync.host.parentOf? last.fork = some context → ∀ session,
        (admits r.plugin s.sync.rules session).2 = .ok false →
          ¬(p.ask s.sync.rulesOf session).Affirms ∧
          ((∃ v, (base.ask s.sync.rulesOf session).outcome = .ok v) →
            (∀ key, s.sync.host.AdmitsTo context key →
              ∃ b, (admits key s.sync.rules session).2 = .ok b) →
            ∃ v, (p.ask s.sync.rulesOf session).outcome = .ok v ∧ v.truthy = false)) ∧
      (s.sync.host.parentOf? last.fork ≠ some context → ∀ session,
        ((p.ask s.sync.rulesOf session).Affirms ↔ (base.ask s.sync.rulesOf session).Affirms ∧
          ∀ key ∈ activeKeys s.sync.rules, key ≠ r.plugin → s.sync.host.AdmitsTo context key →
            (admits key s.sync.rules session).2 = .ok true)) := by
  obtain ⟨last, hlast, hplugin⟩ := exists_latest hr
  cases hbase : (s.engine.ledger.restore s.host).2.predicate? context with
  | none =>
      rw [sync_predicate?_of_none hopen hbase] at hp
      cases hp
  | some base =>
      obtain ⟨q, hq, hstands⟩ := sync_stands hopen hbase
      obtain rfl : q = p := Option.some.inj (hq.symm.trans hp)
      have hnumber : s.sync.rulesOf s.engine.number = s.sync.rules := by
        rw [← move_number s .sync]
        exact rulesOf_number s.sync
      have hask := fun session => (hstands.ask s.sync.rulesOf session).1
      simp only [hnumber, Ledger.mem_keysAt_iff] at hask
      refine ⟨base, last, rfl, hlast, hplugin, ?_, ?_⟩
      · intro hsame session hrefused
        -- the guard has the key, since its latest registration runs below this context
        have hcaptured : s.sync.host.AdmitsTo context r.plugin :=
          Host.admitsTo_iff.2 ⟨last, hlast, hplugin, hsame⟩
        have hnot : ¬(q.ask s.sync.rulesOf session).Affirms := by
          intro haffirms
          have hadmitted := ((hask session).1 haffirms).2 r.plugin
            ⟨hcaptured, mem_activeKeys_of_refused hrefused⟩
          rw [hrefused] at hadmitted
          cases hadmitted
        refine ⟨hnot, fun hspoken hspeak => ?_⟩
        have hkeys : ∀ key ∈ Ledger.keysAt s.sync.host (activeKeys s.sync.rules)
            s.sync.host.pluginForks context,
            ∃ b, (admits key (s.sync.rulesOf s.engine.number) session).2 = .ok b := by
          intro key hkey
          rw [hnumber]
          exact hspeak key (Ledger.mem_keysAt_iff.1 hkey).1
        obtain ⟨v, hv⟩ := hstands.speaks hspoken hkeys
        exact ⟨v, hv, Bool.eq_false_iff.2 fun htrue => hnot ⟨v, hv, htrue⟩⟩
      · intro hother session
        -- no guard of this context has the key, as keys are looked up by their latest registration
        have hfree : ¬s.sync.host.AdmitsTo context r.plugin := by
          intro hcaptured
          obtain ⟨other, hlatest, hsame, hat⟩ := Host.admitsTo_iff.1 hcaptured
          exact hother (hlatest.unique hlast (hsame.trans hplugin.symm) ▸ hat)
        rw [hask session]
        refine and_congr_right fun _ => ⟨fun hall key hactive _ hkey => hall key ⟨hkey, hactive⟩,
          fun hall key hkey => hall key hkey.2 ?_ hkey.1⟩
        rintro rfl
        exact hfree hkey.1

/-- A host that runs two instances of a plugin, each in a group that admits everyone. -/
def twinHost : Host where
  root := some "root"
  contexts := [("root", ⟨some "root", none⟩),
    ("left", ⟨some "left", some (.answers (.bool true))⟩),
    ("right", ⟨some "right", some (.answers (.bool true))⟩)]
  scopes := [("root", some "groups"), ("left", some "lefts"), ("right", some "rights")]
  records := [
    ("groups", [⟨.str "group:left", some "lefts"⟩, ⟨.str "group:right", some "rights"⟩]),
    ("lefts", [⟨.str "echo", some "first"⟩]), ("rights", [⟨.str "echo", some "second"⟩])]
  forks := [("lefts", ⟨some "left", some "root", false⟩),
    ("rights", ⟨some "right", some "root", false⟩), ("first", ⟨none, some "left", false⟩),
    ("second", ⟨none, some "right", false⟩)]
  commands := none
  commandTable := []
  paths := none

/-- The host with an engine that blocks the plugin for everyone. -/
def twinSite : Site :=
  (Site.start twinHost .empty (Supply.counting 0 1) .default true .error).run echoBlocked

def twinRegistrations : List Registration :=
  [⟨.str "group:left", some "lefts"⟩, ⟨.str "group:right", some "rights"⟩,
    ⟨.str "echo", some "first"⟩, ⟨.str "echo", some "second"⟩]

theorem registrations_twinHost : twinHost.registrations = twinRegistrations := by
  have hroot : twinHost.recordsAt? (some "root") = some ("groups",
      [⟨.str "group:left", some "lefts"⟩, ⟨.str "group:right", some "rights"⟩]) := rfl
  have hleft : twinHost.recordsAt? (some "left") =
      some ("lefts", [⟨.str "echo", some "first"⟩]) := rfl
  have hright : twinHost.recordsAt? (some "right") =
      some ("rights", [⟨.str "echo", some "second"⟩]) := rfl
  calc twinHost.registrations
      = twinRegistrations.take 2 ++
          twinHost.walk (fun _ => false) ["groups"] [some "left", some "right"] :=
        Host.walk_of_new twinHost _ hroot (by decide)
    _ = twinRegistrations.take 3 ++
          twinHost.walk (fun _ => false) ["lefts", "groups"] [none, some "right"] := by
        rw [Host.walk_of_new twinHost _ hleft (by decide)]
        rfl
    _ = twinRegistrations ++
          twinHost.walk (fun _ => false) ["rights", "lefts", "groups"] [none] := by
        rw [Host.walk_of_none twinHost _ rfl, Host.walk_of_new twinHost _ hright (by decide)]
        rfl
    _ = twinRegistrations := by
        rw [Host.walk_of_none twinHost _ rfl, Host.walk, List.append_nil]

/-- The round does not change the registrations and their parents. -/
theorem twinSite_sameTree : Host.SameTree twinHost twinSite.sync.host := sync_sameTree twinSite

theorem registrations_twinSite : twinSite.sync.host.registrations = twinRegistrations :=
  twinSite_sameTree.registrations_eq.trans registrations_twinHost

theorem mem_registrations_twinSite :
    ⟨.str "echo", some "first"⟩ ∈ twinSite.sync.host.registrations := by
  rw [registrations_twinSite]
  simp [twinRegistrations]

theorem latest_twinSite :
    Latest twinSite.sync.host.registrations ⟨.str "echo", some "second"⟩ :=
  registrations_twinSite ▸ ⟨twinRegistrations.take 3, [], rfl, nofun⟩

def twinForks : List (String × Option String) :=
  [("group:left", some "lefts"), ("group:right", some "rights"), ("echo", some "second")]

/-- What the round leaves on the parents of the two instances. -/
theorem exists_predicate_twinSite (context : String)
    (hbase : (twinSite.engine.ledger.restore twinSite.host).2.predicate? context =
      some (.answers (.bool true))) :
    ∃ p, twinSite.sync.host.predicate? context = some p ∧
      Stands 0 (.answers (.bool true))
        (Ledger.keysAt twinHost (activeKeys [noEcho]) twinForks context) p := by
  have hrules : twinSite.sync.rules = [noEcho] := rfl
  have hforks : twinHost.pluginForks = twinForks := by
    rw [Host.pluginForks, registrations_twinHost]
    rfl
  have hstands := sync_stands (s := twinSite) rfl hbase
  simp only [Ledger.keysAt, twinSite_sameTree.parentOf?_eq, twinSite_sameTree.pluginForks_eq,
    hforks, hrules] at hstands
  exact hstands

theorem sync_reaches_latest_twinSite :
    twinSite.engine.disposed = false ∧
      ⟨.str "echo", some "first"⟩ ∈ twinSite.sync.host.registrations ∧
      ∃ p, twinSite.sync.host.predicate? "right" = some p ∧
        ¬(p.ask twinSite.sync.rulesOf {}).Affirms := by
  have hopen : twinSite.engine.disposed = false := rfl
  have hr := mem_registrations_twinSite
  obtain ⟨p, hp, -⟩ := exists_predicate_twinSite "right" rfl
  obtain ⟨_, last, -, hlast, hplugin, hsame, -⟩ := sync_reaches_latest hopen hr hp
  obtain rfl := hlast.unique latest_twinSite (hplugin.trans rfl)
  have hparent : twinSite.sync.host.parentOf? (some "second") = some "right" :=
    twinSite_sameTree.parentOf?_eq _
  exact ⟨hopen, hr, p, hp, (hsame hparent {} admits_noEcho.1).1⟩

/-- The rules for the plugin refuse the session, and the parent of the first instance lets it
through. -/
theorem twinSite_lets_through :
    twinSite.engine.disposed = false ∧
      ⟨.str "echo", some "first"⟩ ∈ twinSite.sync.host.registrations ∧
      twinSite.sync.host.parentOf? (some "first") = some "left" ∧
      (admits (pluginKey (.str "echo")) twinSite.sync.rules {}).2 = .ok false ∧
      ∃ p, twinSite.sync.host.predicate? "left" = some p ∧
        (p.ask twinSite.sync.rulesOf {}).outcome = .ok (.bool true) := by
  have hr := mem_registrations_twinSite
  obtain ⟨p, hp, hstands⟩ := exists_predicate_twinSite "left" rfl
  have hnone : Ledger.keysAt twinHost (activeKeys [noEcho]) twinForks "left" = [] := rfl
  rw [hnone] at hstands
  refine ⟨rfl, hr, twinSite_sameTree.parentOf?_eq _, admits_noEcho.1, p, hp, ?_⟩
  cases hstands with
  | alone => rfl
  | guarded serial => rfl

end Site

end Admission
