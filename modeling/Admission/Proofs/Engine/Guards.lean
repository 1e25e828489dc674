import Admission.Proofs.Engine.Run
import Admission.Proofs.Host.Reply

/-!
# Guards enforce the rules for plugins

The keys of a guard are only those that some rule names.  For any other plugin the rules let every
session through, so a round of guards speaks for all plugins to which a context admits sessions.

A guard reads the rules when it is asked.  So whatever happens to the rules after a round of guards,
each of them enforces, for the keys it has captured, exactly the rules that are in the store.

Main definitions:

* `Host.AdmitsTo` — the plugins to which a context admits sessions;
* `Site.Stands` — what a round leaves on a context.

Main results:

* `Site.sync_stands` — what a round does to each context;
* `Site.sync_enforces` — **after a round, and until the next one, predicates let through what they
  and the rules let through**.
-/

set_option autoImplicit false

namespace Admission

/-! ### After a round of guards -/

/-- The context admits sessions to a plugin: it is the parent of the plugin's fork. -/
def Host.AdmitsTo (h : Host) (context key : String) : Prop :=
  ∃ fork, (key, fork) ∈ h.pluginForks ∧ h.parentOf? fork = some context

/-- The keys that a round captures are those of the admitted plugins that some rule names. -/
theorem Ledger.mem_keysAt_iff {h : Host} {rules : List Rule} {context key : String} :
    key ∈ keysAt h (activeKeys rules) h.pluginForks context ↔
      h.AdmitsTo context key ∧ key ∈ activeKeys rules := by
  rw [mem_keysAt]
  constructor
  · rintro ⟨fork, hfork, hparent, hactive⟩
    exact ⟨⟨fork, hfork, hparent⟩, hactive⟩
  · rintro ⟨⟨fork, hfork, hparent⟩, hactive⟩
    exact ⟨fork, hfork, hparent, hactive⟩

/-- The rules for the captured keys let a session through exactly when those for all admitted
plugins do. -/
theorem Ledger.forall_keysAt_iff {h : Host} {rules : List Rule} {context : String}
    {session : Session}
    (hspeak : ∀ key, h.AdmitsTo context key → ∃ b, (admits key rules session).2 = .ok b) :
    (∀ key ∈ keysAt h (activeKeys rules) h.pluginForks context,
        (admits key rules session).2 = .ok true) ↔
      ∀ key, h.AdmitsTo context key → (admits key rules session).2 = .ok true := by
  constructor
  · intro hcaptured key hkey
    by_cases hactive : key ∈ activeKeys rules
    · exact hcaptured key (mem_keysAt_iff.2 ⟨hkey, hactive⟩)
    · exact admits_of_not_mem_activeKeys hactive (hspeak key hkey)
  · exact fun hall key hkey => hall key (mem_keysAt_iff.1 hkey).1

namespace Site

/-- What stands on a context after a round of guards: the predicate that was there, perhaps with a
guard of the engine in charge before it. -/
inductive Stands (owner : Nat) (base : Predicate) : List String → Predicate → Prop where
  | alone : Stands owner base [] base
  | guarded (serial : Nat) (keys : List String) :
      Stands owner base keys (.guarded ⟨owner, serial, keys⟩ base)

/-- At any time, what stands on a context lets through what the predicate behind it and the rules
for the captured keys let through. -/
theorem Stands.ask {owner : Nat} {base p : Predicate} {keys : List String}
    (h : Stands owner base keys p) (rulesOf : Nat → List Rule) (session : Session) :
    ((p.ask rulesOf session).Affirms ↔ (base.ask rulesOf session).Affirms ∧
        ∀ key ∈ keys, (admits key (rulesOf owner) session).2 = .ok true) ∧
      ((base.ask rulesOf session).Affirms →
        ∀ v, (p.ask rulesOf session).outcome = .ok v → v.truthy = false →
          ∃ key ∈ keys, ∃ r ∈ rulesOf owner, r.Refuses key session) ∧
      (p.ask rulesOf session).calls = (base.ask rulesOf session).calls ∧
      (¬(base.ask rulesOf session).Affirms →
        (p.ask rulesOf session).events = (base.ask rulesOf session).events) := by
  cases h with
  | alone =>
      refine ⟨by simp, ?_, rfl, fun _ => rfl⟩
      rintro ⟨w, hw, htrue⟩ v hv hfalse
      rw [hw] at hv
      cases hv
      rw [htrue] at hfalse
      cases hfalse
  | guarded serial keys => exact Predicate.ask_guarded rulesOf session ⟨owner, serial, keys⟩ base

/-- A round leaves the tree of the host alone. -/
theorem sync_sameTree (s : Site) : Host.SameTree s.host s.sync.host := by
  have hrefresh := (refresh_keepsGuards s).host
  unfold sync
  dsimp only
  split
  · rw [hrefresh]
    exact .refl s.host
  · rw [putGuards_host, hrefresh]
    exact Ledger.sync_sameTree _ _ _ _

theorem sync_rules {s : Site} (h : s.engine.disposed = false) : s.sync.rules = s.refresh.rules := by
  rw [sync_eq_putGuards h, putGuards_rules]

/-- What a round does to each context. -/
theorem sync_stands {s : Site} (h : s.engine.disposed = false) {context : String}
    {base : Predicate} (hbase : (s.engine.ledger.restore s.host).2.predicate? context = some base) :
    ∃ p, s.sync.host.predicate? context = some p ∧
      Stands s.engine.number base
        (Ledger.keysAt s.sync.host (activeKeys s.sync.rules) s.sync.host.pluginForks context) p := by
  have hquiet := refresh_keepsGuards s
  have hkeys : Ledger.keysAt s.sync.host (activeKeys s.sync.rules) s.sync.host.pluginForks context =
      Ledger.keysAt s.host (activeKeys s.refresh.rules) s.host.pluginForks context := by
    rw [sync_rules h, (sync_sameTree s).pluginForks_eq]
    simp only [Ledger.keysAt, (sync_sameTree s).parentOf?_eq]
  have hround := Ledger.sync_of_some hbase s.refresh.rules s.host.pluginForks
  rw [hkeys, sync_eq_putGuards h, putGuards_host, hquiet.host, hquiet.ledger]
  by_cases hnil : Ledger.keysAt s.host (activeKeys s.refresh.rules) s.host.pluginForks context = []
  · rw [hnil]
    exact ⟨base, hround.1 hnil, .alone⟩
  · obtain ⟨serial, hserial⟩ := hround.2 hnil
    exact ⟨_, hserial, .guarded serial _⟩

/-- A context without a predicate gets none. -/
theorem sync_predicate?_of_none {s : Site} (h : s.engine.disposed = false) {context : String}
    (hnone : (s.engine.ledger.restore s.host).2.predicate? context = none) :
    s.sync.host.predicate? context = none := by
  have hquiet := refresh_keepsGuards s
  have hkept := Ledger.sync_of_none hnone s.refresh.rules s.host.pluginForks
  rw [sync_eq_putGuards h, putGuards_host, hquiet.host, hquiet.ledger, Host.predicate?, hkept]
  exact hnone

/-- After a round of guards on an engine that was not disposed of, a context without a predicate is
as it was.  Any other context lets a session through exactly when the predicate that the host put
there does and the rules let it through to every plugin that the context admits to.  Whatever
happens afterwards, for the captured keys this goes by the rules that are in the store at that
time, and one of these refuses the session if it is not let through; and it is so until the next
round, unless the host puts another predicate there.  The predicate of the host is asked once, and
no rule is asked when it does not let the session through. -/
theorem sync_enforces (s₀ : Site) (before : List Move)
    (hopen : (s₀.run before).engine.disposed = false) (context : String) :
    let s := s₀.run before
    let t := s.sync
    let restored := (s.engine.ledger.restore s.host).2
    (restored.predicate? context = none →
      Table.get? t.host.contexts context = Table.get? s.host.contexts context) ∧
    ∀ base, restored.predicate? context = some base →
      ∃ (p : Predicate) (keys : List String), t.host.predicate? context = some p ∧
        (∀ key, key ∈ keys ↔ t.host.AdmitsTo context key ∧ key ∈ activeKeys t.rules) ∧
        (∀ session,
          (∀ key, t.host.AdmitsTo context key →
            ∃ b, (admits key t.rules session).2 = .ok b) →
          ((p.ask t.rulesOf session).Affirms ↔ (base.ask t.rulesOf session).Affirms ∧
            ∀ key, t.host.AdmitsTo context key → (admits key t.rules session).2 = .ok true)) ∧
        ∀ after : List Move, let u := t.run after
          ((∀ m ∈ after, m.Keeps context p) → u.host.predicate? context = some p) ∧
          ∀ session,
            ((p.ask u.rulesOf session).Affirms ↔ (base.ask u.rulesOf session).Affirms ∧
              ∀ key ∈ keys, (admits key u.rules session).2 = .ok true) ∧
            ((base.ask u.rulesOf session).Affirms →
              ∀ v, (p.ask u.rulesOf session).outcome = .ok v → v.truthy = false →
                ∃ key ∈ keys, ∃ r ∈ u.rules, r.Refuses key session) ∧
            (p.ask u.rulesOf session).calls = (base.ask u.rulesOf session).calls ∧
            (¬(base.ask u.rulesOf session).Affirms →
              (p.ask u.rulesOf session).events = (base.ask u.rulesOf session).events) := by
  intro s t restored
  refine ⟨?_, ?_⟩
  · intro hnone
    have hquiet := refresh_keepsGuards s
    have hround := Ledger.sync_of_none hnone s.refresh.rules s.host.pluginForks
    change Table.get? s.sync.host.contexts context = Table.get? s.host.contexts context
    rw [sync_eq_putGuards hopen, putGuards_host, hquiet.host, hquiet.ledger, hround,
      Ledger.get?_restore_of_none hnone]
  · intro base hbase
    obtain ⟨p, hp, hstands⟩ := sync_stands hopen hbase
    -- a guard asks for the rules of the engine with its number, and these are the rules in force
    have hnumber : ∀ after : List Move, (t.run after).rulesOf s.engine.number =
        (t.run after).rules := by
      intro after
      have hsame : (t.run after).engine.number = s.engine.number :=
        (run_number t after).trans (move_number s .sync)
      rw [← hsame, rulesOf_number]
    refine ⟨p, _, hp, fun key => Ledger.mem_keysAt_iff, ?_, ?_⟩
    · intro session hspeak
      have hask := (hstands.ask t.rulesOf session).1
      have hrules : t.rulesOf s.engine.number = t.rules := hnumber []
      rw [hrules, Ledger.forall_keysAt_iff hspeak] at hask
      exact hask
    · intro after u
      refine ⟨fun hafter => run_predicate? hafter hp, ?_⟩
      intro session
      have hask := hstands.ask u.rulesOf session
      have hrules : u.rulesOf s.engine.number = u.rules := hnumber after
      rw [hrules] at hask
      exact hask

/-- A host that admits everyone to two plugins, of which one is registered as disabled. -/
def openHost : Host where
  root := some "root"
  contexts := [("root", ⟨some "root", some (.answers (.bool true))⟩), ("echo", ⟨none, none⟩),
    ("poll", ⟨none, none⟩)]
  scopes := [("root", some "plugins")]
  records := [("plugins", [⟨.str "echo", some "first"⟩, ⟨.str "~poll", some "second"⟩])]
  forks := [("first", ⟨some "echo", some "root", false⟩),
    ("second", ⟨some "poll", some "root", false⟩)]
  commands := none
  commandTable := []
  paths := none

/-- A rule that blocks one of the plugins for everyone. -/
def noEcho : Rule := { Rule.blank "no-echo" with target := .plugins ["echo"] }

/-- The rules are read, and that rule comes in. -/
def echoBlocked : List Move := [.load, .edit (.create noEcho.toValue)]

/-- The site of the host, before anything happens. -/
def openSite : Site := .start openHost .empty (Supply.counting 0 1) .default true .error

theorem pluginForks_openHost :
    openHost.pluginForks = [("echo", some "first"), ("poll", some "second")] := by
  have hrecords : openHost.recordsAt? (some "root") =
      some ("plugins", [⟨.str "echo", some "first"⟩, ⟨.str "~poll", some "second"⟩]) := rfl
  have hchildren : openHost.walk (fun _ => false) ["plugins"] [some "echo", some "poll"] = [] := by
    rw [Host.walk_of_none openHost _ rfl, Host.walk_of_none openHost _ rfl, Host.walk]
  have hwalk : openHost.registrations =
      [⟨.str "echo", some "first"⟩, ⟨.str "~poll", some "second"⟩] ++
        openHost.walk (fun _ => false) ["plugins"] [some "echo", some "poll"] :=
    Host.walk_of_new openHost _ hrecords (by decide)
  rw [Host.pluginForks, hwalk, hchildren]
  rfl

/-- The rule blocks the one plugin and lets everyone through to the other. -/
theorem admits_noEcho :
    (admits "echo" [noEcho] {}).2 = .ok false ∧ (admits "poll" [noEcho] {}).2 = .ok true := by
  have hsort : Rule.sort [noEcho] = [noEcho] := List.mergeSort_singleton noEcho
  simp only [admits, Decision.forEvent, hsort]
  exact ⟨rfl, rfl⟩

/-- Where nothing but that rule is in the store, a round puts a guard for that plugin before the
predicate of the host. -/
theorem exists_guard_of_noEcho {s : Site} (htree : Host.SameTree openHost s.host)
    (hopen : s.engine.disposed = false) (hrules : s.sync.rules = [noEcho])
    (hbase : (s.engine.ledger.restore s.host).2.predicate? "root" =
      some (.answers (.bool true))) : ∃ serial,
    s.sync.host.predicate? "root" =
      some (.guarded ⟨s.engine.number, serial, ["echo"]⟩ (.answers (.bool true))) := by
  have htree : Host.SameTree openHost s.sync.host := htree.trans (sync_sameTree s)
  have hkeys : Ledger.keysAt s.sync.host (activeKeys s.sync.rules) s.sync.host.pluginForks "root" =
      ["echo"] := by
    simp only [Ledger.keysAt, htree.parentOf?_eq, htree.pluginForks_eq, pluginForks_openHost,
      hrules]
    rfl
  obtain ⟨p, hp, hstands⟩ := sync_stands hopen hbase
  rw [hkeys] at hstands
  cases hstands with
  | guarded serial => exact ⟨serial, hp⟩

/-- After that, a guard for that plugin stands before the predicate of the host. -/
theorem exists_guard_openSite : ∃ serial,
    (openSite.run echoBlocked).sync.host.predicate? "root" =
      some (.guarded ⟨openSite.engine.number, serial, ["echo"]⟩ (.answers (.bool true))) :=
  exists_guard_of_noEcho (.refl openHost) rfl rfl rfl

theorem sync_enforces_openSite :
    (openSite.run echoBlocked).engine.disposed = false ∧
      ∃ p, (openSite.run echoBlocked).sync.host.predicate? "root" = some p ∧
        ¬(p.ask (openSite.run echoBlocked).sync.rulesOf {}).Affirms := by
  have hopen : (openSite.run echoBlocked).engine.disposed = false := rfl
  have hrules : (openSite.run echoBlocked).sync.rules = [noEcho] := rfl
  have hforks : ∀ key, (openSite.run echoBlocked).sync.host.AdmitsTo "root" key ↔
      key = "echo" ∨ key = "poll" := by
    intro key
    have htree : Host.SameTree openHost (openSite.run echoBlocked).sync.host :=
      sync_sameTree (openSite.run echoBlocked)
    have hfirst : openHost.parentOf? (some "first") = some "root" := rfl
    have hsecond : openHost.parentOf? (some "second") = some "root" := rfl
    simp only [Host.AdmitsTo, htree.pluginForks_eq, htree.parentOf?_eq, pluginForks_openHost,
      List.mem_cons, List.not_mem_nil, or_false, Prod.mk.injEq]
    constructor
    · rintro ⟨fork, ⟨rfl, -⟩ | ⟨rfl, -⟩, -⟩
      · exact .inl rfl
      · exact .inr rfl
    · rintro (rfl | rfl)
      · exact ⟨some "first", .inl ⟨rfl, rfl⟩, hfirst⟩
      · exact ⟨some "second", .inr ⟨rfl, rfl⟩, hsecond⟩
  obtain ⟨p, keys, hp, -, hnow, -⟩ :=
    (sync_enforces openSite echoBlocked hopen "root").2 (.answers (.bool true)) rfl
  have hspeak : ∀ key, (openSite.run echoBlocked).sync.host.AdmitsTo "root" key →
      ∃ b, (admits key (openSite.run echoBlocked).sync.rules {}).2 = .ok b := by
    intro key hkey
    rw [hrules]
    rcases (hforks key).1 hkey with rfl | rfl
    · exact ⟨false, admits_noEcho.1⟩
    · exact ⟨true, admits_noEcho.2⟩
  refine ⟨hopen, p, hp, ?_⟩
  intro haffirms
  have hecho := ((hnow {} hspeak).1 haffirms).2 "echo" ((hforks "echo").2 (.inl rfl))
  rw [hrules, admits_noEcho.1] at hecho
  cases hecho

end Site

end Admission
