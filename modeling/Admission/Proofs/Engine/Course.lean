import Admission.Proofs.Engine.Guards
import Admission.Proofs.Host.Account

/-!
# What the host put where

In the course of things the engine does its work, events and operations come in, and the host
changes its tree and its predicates.  To say what the engine owes to the host, the course is
watched: beside the site stands what the host last put on each context, and whether that was laid
over a guard of the engine.

Whatever happens, a context has what the host last put there, or one guard of the engine before it.
A guard that stands there is listed in the ledger together with what it was put before, and once the
engine was disposed of, the ledger is empty.

Main definitions:

* `Site.Deed` — what may happen, told apart by who does it;
* `Site.Watch`, `Site.Watch.run` — a site under watch, and its course;
* `Site.Deed.Fair` — the host puts no guard of the engine anywhere, but it may lay predicates over
  them;
* `Site.Watch.Sound` — what holds at any time.

Main results:

* `Site.Accounted.move`, `Site.Accounted.run` — the engine keeps its accounts;
* `Site.Watch.Sound.step`, `Site.Watch.Sound.run` — **what holds at any time**;
* `Site.Watch.run_exclusive` — **a host that does not ask guards has its own predicates back**.
-/

set_option autoImplicit false

namespace Admission

/-- A change of the host that leaves the predicates of its contexts as they are. -/
structure Rearrangement where
  change : Host → Host
  keeps : ∀ (h : Host) (context : String), (change h).predicate? context = h.predicate? context

/-- A scope gets other records, or none. -/
def Rearrangement.records (scope : String) (records : Option String) : Rearrangement where
  change := fun h => h.setRecords scope records
  keeps := fun _ _ => rfl

namespace Site

/-! ### Deeds -/

/-- What may happen at a site, told apart by who does it.  Events and operations are whole; their
steps, between which others may come, are moves. -/
inductive Deed where
  /-- The engine, or someone who asks it, makes a move. -/
  | move (m : Move) (hm : m.ofHost = false)
  /-- An event of the host is handled. -/
  | event (e : HostEvent) (command : Option String)
  /-- An administrative operation is performed. -/
  | operate (subscribers : List String) (operation : Operation)
  /-- The host puts a predicate on a context, or takes away what is there. -/
  | assign (context : String) (p : Option Predicate)
  /-- The host lays a predicate over what is on a context, which it asks first. -/
  | layer (context : String) (answer : Session → Except Fault Value → Except Fault Value)
  /-- The host changes its tree or its commands. -/
  | rearrange (r : Rearrangement)

namespace Deed

/-- The engine is disposed of, by a move or by an event. -/
def disposes : Deed → Bool
  | .move .dispose _ => true
  | .event .dispose _ => true
  | _ => false

/-- The host lays a predicate over what is there. -/
def layers : Deed → Bool
  | .layer _ _ => true
  | _ => false

/-- The deed is one of the host. -/
def ofHost : Deed → Bool
  | .assign _ _ => true
  | .layer _ _ => true
  | .rearrange _ => true
  | _ => false

/-- What the host puts on a context is not a guard of the engine and does not ask one, unless the
host lays it over what is there. -/
def Fair (owner : Nat) : Deed → Prop
  | .assign _ p => ∀ q, p = some q → q.ClearOf owner
  | _ => True

/-- The host does not dispose of the engine. -/
theorem disposes_eq_false_of_ofHost {d : Deed} (h : d.ofHost = true) : d.disposes = false := by
  cases d with
  | assign context p => rfl
  | layer context answer => rfl
  | rearrange r => rfl
  | move m hm => cases h
  | event e command => cases h
  | operate subscribers operation => cases h

end Deed

/-- A site under watch. -/
structure Watch where
  site : Site
  /-- What the host last put on each context. -/
  put : String → Option Predicate
  /-- That was laid over a guard of the engine. -/
  laid : String → Bool

namespace Watch

def start (s : Site) : Watch := ⟨s, s.host.predicate?, fun _ => false⟩

/-- A guard of the engine stands outermost on a context. -/
def guards (w : Watch) (context : String) : Bool :=
  ((w.site.host.predicate? context).bind Predicate.guard?).any (·.owner == w.site.engine.number)

/-- The host puts something on a context. -/
def puts (w : Watch) (context : String) (p : Option Predicate) (laid : Bool) : Watch :=
  let host := w.site.host.setPredicate context p
  { site := { w.site with host }
    -- what was put is there now, unless there is no such context
    put := Function.update w.put context (host.predicate? context)
    laid := Function.update w.laid context laid }

def step (w : Watch) : Deed → Watch
  | .move m _ => { w with site := w.site.move m }
  | .event e command => { w with site := w.site.handle e command }
  | .operate subscribers operation =>
    { w with site := (w.site.perform subscribers operation).2 }
  | .assign context p => w.puts context p false
  | .layer context answer =>
    match w.site.host.predicate? context with
    | none => w
    | some below =>
      w.puts context (some (.layered answer below)) (w.laid context || w.guards context)
  | .rearrange r => { w with site := { w.site with host := r.change w.site.host } }

def run (w : Watch) (deeds : List Deed) : Watch := deeds.foldl step w

@[simp] theorem run_nil (w : Watch) : w.run [] = w := rfl

@[simp] theorem run_cons (w : Watch) (d : Deed) (deeds : List Deed) :
    w.run (d :: deeds) = (w.step d).run deeds := rfl

section

variable (w : Watch) (context : String) (p : Option Predicate) (laid : Bool)

theorem puts_put_self : (w.puts context p laid).put context =
    (w.site.host.setPredicate context p).predicate? context :=
  Function.update_self ..

theorem puts_put_of_ne {other : String} (hother : other ≠ context) :
    (w.puts context p laid).put other = w.put other :=
  Function.update_of_ne hother ..

theorem puts_laid_self : (w.puts context p laid).laid context = laid :=
  Function.update_self ..

theorem puts_laid_of_ne {other : String} (hother : other ≠ context) :
    (w.puts context p laid).laid other = w.laid other :=
  Function.update_of_ne hother ..

end

/-- The watch sees whether what is on a context is a guard of the engine. -/
theorem guards_iff {w : Watch} {context : String} {p : Predicate}
    (h : w.site.host.predicate? context = some p) :
    w.guards context = true ↔ p.IsGuardOf w.site.engine.number := by
  simp only [guards, h, Option.bind_some, Option.any_eq_true, beq_iff_eq, Predicate.IsGuardOf]

theorem step_layer {w : Watch} {context : String} {below : Predicate}
    (h : w.site.host.predicate? context = some below)
    (answer : Session → Except Fault Value → Except Fault Value) :
    w.step (.layer context answer) =
      w.puts context (some (.layered answer below)) (w.laid context || w.guards context) := by
  simp only [step, h]

theorem step_layer_of_none {w : Watch} {context : String}
    (h : w.site.host.predicate? context = none)
    (answer : Session → Except Fault Value → Except Fault Value) :
    w.step (.layer context answer) = w := by
  simp only [step, h]

end Watch

/-! ### The engine keeps its accounts -/

/-- The ledger accounts for the host, and it is empty when the engine was disposed of. -/
structure Accounted (put : String → Option Predicate) (s : Site) : Prop where
  accounts : s.host.Accounts s.engine.number s.engine.ledger.injections put
  empty : s.engine.disposed = true → s.engine.ledger.injections = []

namespace Accounted

variable {put : String → Option Predicate} {s t : Site}

theorem of_keepsGuards (hacc : Accounted put s) (hkeeps : KeepsGuards s t) : Accounted put t where
  accounts := by
    rw [Engine.number, hkeeps.host, hkeeps.ledger]
    exact hacc.accounts
  empty := by
    rw [hkeeps.disposed, hkeeps.ledger]
    exact hacc.empty

/-- A new round of guards keeps the accounts. -/
theorem sync (hacc : Accounted put s) : Accounted put s.sync := by
  have hrefresh := hacc.of_keepsGuards (refresh_keepsGuards s)
  cases hdisposed : s.engine.disposed with
  | true =>
      have hidle : s.sync = s.refresh := by
        have hrefreshed := (refresh_keepsGuards s).disposed.trans hdisposed
        simp only [Site.sync, hrefreshed, if_true]
      rw [hidle]
      exact hrefresh
  | false =>
      refine ⟨?_, fun hclosed => ?_⟩
      · rw [sync_eq_putGuards hdisposed, Engine.number, putGuards_host, putGuards_ledger,
          Ledger.sync_owner]
        exact hrefresh.accounts.sync _ _
      · rw [sync_disposed, hdisposed] at hclosed
        cases hclosed

/-- Disposing of the engine takes all guards back. -/
theorem dispose (hacc : Accounted put s) : Accounted put s.dispose where
  accounts := by
    rw [Engine.number, dispose_ledger, dispose_host]
    exact hacc.accounts.restore
  empty := fun _ => by
    rw [dispose_ledger]
    rfl

/-- No move but those of the host can spoil the accounts. -/
theorem move (hacc : Accounted put s) {m : Move} (hm : m.ofHost = false) :
    Accounted put (s.move m) := by
  by_cases hidle : m.isIdle = true
  · exact hacc.of_keepsGuards (move_keepsGuards s hidle)
  · cases m with
    | sync => exact hacc.sync
    | dispose => exact hacc.dispose
    | host h => cases hm
    | _ => exact absurd rfl hidle

theorem run (hacc : Accounted put s) {moves : List Move}
    (hmoves : ∀ m ∈ moves, m.ofHost = false) : Accounted put (s.run moves) := by
  induction moves generalizing s with
  | nil => exact hacc
  | cons m moves ih =>
      rw [List.forall_mem_cons] at hmoves
      exact ih (hacc.move hmoves.1) hmoves.2

/-- After the engine was disposed of, every context has what the host put there. -/
theorem eq_put (hacc : Accounted put s) (hdisposed : s.engine.disposed = true)
    (context : String) : s.host.predicate? context = put context := by
  have haccounts := hacc.accounts
  rw [hacc.empty hdisposed] at haccounts
  exact haccounts.eq_put context

end Accounted

namespace Watch

/-- What is not a deed of the host is a run of the site, in which the host does nothing. -/
theorem exists_run_step (w : Watch) {d : Deed} (hd : d.ofHost = false) :
    ∃ moves : List Move, (∀ m ∈ moves, m.ofHost = false) ∧
      (d.disposes = true → Move.dispose ∈ moves) ∧
      w.step d = { w with site := w.site.run moves } := by
  cases d with
  | move m hm =>
      refine ⟨[m], by simpa using hm, ?_, rfl⟩
      cases m <;> simp [Deed.disposes]
  | event e command =>
      obtain ⟨moves, hdispose, hmoves, hrun⟩ := exists_run_handle w.site e command
      refine ⟨moves, hmoves, fun hdisposes => hdispose.2 ?_, by rw [step, hrun]⟩
      cases e <;> first | rfl | cases hdisposes
  | operate subscribers operation =>
      obtain ⟨moves, -, hmoves, hrun⟩ := exists_run_perform w.site subscribers operation
      refine ⟨moves, hmoves, fun hdisposes => ?_, by rw [step, hrun]⟩
      cases hdisposes
  | assign context p => cases hd
  | layer context answer => cases hd
  | rearrange r => cases hd

/-- A deed of the host changes nothing but the host. -/
theorem step_engine_of_ofHost (w : Watch) {d : Deed} (hd : d.ofHost = true) :
    (w.step d).site.engine = w.site.engine := by
  cases d with
  | assign context p => rfl
  | layer context answer =>
      cases hbelow : w.site.host.predicate? context with
      | none => rw [step_layer_of_none hbelow]
      | some below => rw [step_layer hbelow, puts]
  | rearrange r => rfl
  | move m hm => cases hd
  | event e command => cases hd
  | operate subscribers operation => cases hd

theorem step_disposed (w : Watch) {d : Deed}
    (h : w.site.engine.disposed = true ∨ d.disposes = true) :
    (w.step d).site.engine.disposed = true := by
  cases hd : d.ofHost with
  | true =>
      rw [w.step_engine_of_ofHost hd]
      rw [Deed.disposes_eq_false_of_ofHost hd] at h
      exact h.resolve_right Bool.false_ne_true
  | false =>
      obtain ⟨moves, -, hdispose, hstep⟩ := w.exists_run_step hd
      rw [hstep]
      rcases h with hdisposed | hdisposes
      · exact Site.run_disposed hdisposed moves
      · exact Site.run_disposed_of_mem w.site (hdispose hdisposes)

/-- Once the engine was disposed of, it stays so. -/
theorem run_disposed {w : Watch} {deeds : List Deed}
    (h : w.site.engine.disposed = true ∨ ∃ d ∈ deeds, d.disposes = true) :
    (w.run deeds).site.engine.disposed = true := by
  induction deeds generalizing w with
  | nil =>
      rcases h with hdisposed | ⟨d, hd, -⟩
      · exact hdisposed
      · cases hd
  | cons d deeds ih =>
      refine ih ?_
      rcases h with hdisposed | ⟨e, he, hdisposes⟩
      · exact .inl (w.step_disposed (.inl hdisposed))
      · rcases List.mem_cons.1 he with rfl | hlater
        · exact .inl (w.step_disposed (.inr hdisposes))
        · exact .inr ⟨e, hlater, hdisposes⟩

/-- Without layers, nothing is laid over a guard. -/
theorem run_laid {w : Watch} {deeds : List Deed} (hw : ∀ context, w.laid context = false)
    (hdeeds : ∀ d ∈ deeds, d.layers = false) (context : String) :
    (w.run deeds).laid context = false := by
  induction deeds generalizing w with
  | nil => exact hw context
  | cons d deeds ih =>
      rw [List.forall_mem_cons] at hdeeds
      refine ih (fun other => ?_) hdeeds.2
      cases d with
      | layer place answer => cases hdeeds.1
      | assign place p =>
          by_cases hother : other = place
          · subst hother
            exact w.puts_laid_self other p false
          · exact (w.puts_laid_of_ne place p false hother).trans (hw other)
      | _ => exact hw other

/-! ### What holds at any time -/

/-- The engine in charge is the one with the given number, and its ledger accounts for the host.  A
predicate of the host asks no guard of that engine, unless it was laid over one; and every guard of
the engine that it asks is for some plugin. -/
structure Sound (owner : Nat) (w : Watch) : Prop where
  number : w.site.engine.number = owner
  accounted : Accounted w.put w.site
  clearOf_iff : ∀ context p, w.put context = some p →
    (p.ClearOf owner ↔ w.laid context = false)
  keyed : ∀ context p, w.put context = some p → p.Keyed owner

namespace Sound

variable {owner : Nat} {w : Watch}

/-- The host may put a predicate on a context that is no guard of the engine, if the watch says
rightly whether it was laid over one. -/
theorem puts (hw : w.Sound owner) (context : String) {p : Option Predicate} {laid : Bool}
    (hguard : ∀ q, p = some q → ¬q.IsGuardOf owner)
    (hclear : ∀ q, p = some q → (q.ClearOf owner ↔ laid = false))
    (hkeyed : ∀ q, p = some q → q.Keyed owner) : (w.puts context p laid).Sound owner := by
  have hput : ∀ other q, (w.puts context p laid).put other = some q →
      (other = context ∧ p = some q) ∨ (other ≠ context ∧ w.put other = some q) := by
    intro other q hq
    by_cases hother : other = context
    · subst hother
      rw [w.puts_put_self other p laid] at hq
      rcases w.site.host.predicate?_setPredicate_cases other p with hgiven | hnone
      · exact .inl ⟨rfl, hgiven.symm.trans hq⟩
      · rw [hnone] at hq
        cases hq
    · exact .inr ⟨hother, (w.puts_put_of_ne context p laid hother).symm.trans hq⟩
  refine ⟨hw.number, ⟨?_, hw.accounted.empty⟩, ?_, ?_⟩
  · exact hw.accounted.accounts.setPredicate context (hw.number ▸ hguard)
  · intro other q hq
    rcases hput other q hq with ⟨rfl, hgiven⟩ | ⟨hother, hold⟩
    · rw [w.puts_laid_self other p laid]
      exact hclear q hgiven
    · rw [w.puts_laid_of_ne context p laid hother]
      exact hw.clearOf_iff other q hold
  · intro other q hq
    rcases hput other q hq with ⟨rfl, hgiven⟩ | ⟨_, hold⟩
    · exact hkeyed q hgiven
    · exact hw.keyed other q hold

/-- The host may put any predicate that neither is nor asks a guard of the engine. -/
theorem assign (hw : w.Sound owner) (context : String) {p : Option Predicate}
    (hp : ∀ q, p = some q → q.ClearOf owner) : (w.step (.assign context p)).Sound owner := by
  refine hw.puts context (fun q hq => (hp q hq).not_isGuardOf) (fun q hq => ?_)
    fun q hq => (hp q hq).keyed
  exact ⟨fun _ => rfl, fun _ => hp q hq⟩

/-- The watch knows whether what is on a context is a guard of the engine or asks one, and every
such guard is for some plugin. -/
theorem standing (hw : w.Sound owner) {context : String} {p : Predicate}
    (hp : w.site.host.predicate? context = some p) :
    (p.ClearOf owner ↔ (w.laid context || w.guards context) = false) ∧ p.Keyed owner := by
  have haccounts := hw.accounted.accounts
  rcases haccounts.stands context with hput | ⟨i, hi, rfl, hbase, hguarded⟩
  · rw [hp] at hput
    have hunguarded : w.guards context = false :=
      Bool.eq_false_iff.2 (mt (guards_iff hp).1 (haccounts.unguarded context p hput.symm))
    rw [hunguarded, Bool.or_false]
    exact ⟨hw.clearOf_iff context p hput.symm, hw.keyed context p hput.symm⟩
  · rw [hp] at hguarded
    cases hguarded
    have hnumber : i.guard.owner = w.site.engine.number := haccounts.owner_eq i hi
    have hguards : w.guards i.context = true := (guards_iff hp).2 ⟨i.guard, rfl, hnumber⟩
    rw [hguards, Bool.or_true]
    refine ⟨⟨fun hclear => absurd (hnumber.trans hw.number) hclear.1, Bool.noConfusion⟩, ?_⟩
    exact (hw.keyed i.context i.base hbase).guarded (haccounts.keys_ne i hi)

/-- The host may lay a predicate over whatever is on a context. -/
theorem layer (hw : w.Sound owner) (context : String)
    (answer : Session → Except Fault Value → Except Fault Value) :
    (w.step (.layer context answer)).Sound owner := by
  cases hbelow : w.site.host.predicate? context with
  | none =>
      rw [step_layer_of_none hbelow]
      exact hw
  | some below =>
      rw [step_layer hbelow]
      obtain ⟨hclear, hkeyed⟩ := hw.standing hbelow
      refine hw.puts context ?_ ?_ ?_
      · rintro q hq ⟨guard, hguard, -⟩
        cases hq
        cases hguard
      · intro q hq
        cases hq
        exact hclear
      · intro q hq
        cases hq
        exact hkeyed.layered answer

/-- The host may change its tree and its commands. -/
theorem rearrange (hw : w.Sound owner) (r : Rearrangement) :
    (w.step (.rearrange r)).Sound owner where
  number := hw.number
  accounted := ⟨hw.accounted.accounts.of_predicate?_eq (r.keeps w.site.host), hw.accounted.empty⟩
  clearOf_iff := hw.clearOf_iff
  keyed := hw.keyed

/-- Every deed keeps what holds, as long as the host puts no guard of the engine anywhere. -/
theorem step (hw : w.Sound owner) {d : Deed} (hd : d.Fair owner) : (w.step d).Sound owner := by
  cases hhost : d.ofHost with
  | false =>
      obtain ⟨moves, hmoves, -, hstep⟩ := w.exists_run_step hhost
      rw [hstep]
      exact ⟨(run_number w.site moves).trans hw.number, hw.accounted.run hmoves, hw.clearOf_iff,
        hw.keyed⟩
  | true =>
      cases d with
      | assign context p => exact hw.assign context hd
      | layer context answer => exact hw.layer context answer
      | rearrange r => exact hw.rearrange r
      | move m hm => cases hhost
      | event e command => cases hhost
      | operate subscribers operation => cases hhost

theorem run (hw : w.Sound owner) {deeds : List Deed} (hdeeds : ∀ d ∈ deeds, d.Fair owner) :
    (w.run deeds).Sound owner := by
  induction deeds generalizing w with
  | nil => exact hw
  | cons d deeds ih =>
      rw [List.forall_mem_cons] at hdeeds
      exact ih (hw.step hdeeds.1) hdeeds.2

end Sound

end Watch

/-- The engine has put no guards yet, and none of its guards stands anywhere. -/
structure Fresh (s : Site) : Prop where
  injections_eq : s.engine.ledger.injections = []
  clear : ∀ context p, s.host.predicate? context = some p → p.ClearOf s.engine.number

/-- What holds at any time holds when the watch begins. -/
theorem Fresh.sound {s : Site} (h : s.Fresh) : (Watch.start s).Sound s.engine.number where
  number := rfl
  accounted := by
    refine ⟨⟨?_, ?_, ?_, fun context => .inl rfl, fun context p hp => ?_⟩, fun _ => h.injections_eq⟩
    · rw [Watch.start, h.injections_eq]
      exact List.nodup_nil
    · rw [Watch.start, h.injections_eq]
      simp
    · rw [Watch.start, h.injections_eq]
      simp
    · exact (h.clear context p hp).not_isGuardOf
  clearOf_iff := fun context p hp => ⟨fun _ => rfl, fun _ => h.clear context p hp⟩
  keyed := fun context p hp => (h.clear context p hp).keyed

/-- A host that puts only predicates of its own on contexts, which neither are guards of the engine
nor ask any, has on every context the predicate that it last put there, or exactly one guard of the
engine before it, which the ledger lists with that predicate.  From the time when the engine is
disposed of, whatever follows, every context has the predicate that the host last put there. -/
theorem Watch.run_exclusive {s : Site} (hfresh : s.Fresh) {deeds : List Deed}
    (hdeeds : ∀ d ∈ deeds, d.Fair s.engine.number ∧ d.layers = false) :
    let w := (Watch.start s).run deeds
    (∀ context, w.site.host.predicate? context = w.put context ∨
      ∃ (base : Predicate) (guard : Guard), w.put context = some base ∧
        base.ClearOf s.engine.number ∧ guard.owner = s.engine.number ∧
        ⟨context, base, guard⟩ ∈ w.site.engine.ledger.injections ∧
        w.site.host.predicate? context = some (.guarded guard base)) ∧
    ∀ d ∈ deeds, d.disposes = true →
      ∀ context, w.site.host.predicate? context = w.put context := by
  intro w
  have hsound : w.Sound s.engine.number := hfresh.sound.run fun d hd => (hdeeds d hd).1
  have hlaid : ∀ context, w.laid context = false :=
    Watch.run_laid (fun _ => rfl) fun d hd => (hdeeds d hd).2
  refine ⟨fun context => ?_, fun d hd hdisposes => ?_⟩
  · rcases hsound.accounted.accounts.stands context with hput | ⟨i, hi, rfl, hbase, hguarded⟩
    · exact .inl hput
    · have howner : i.guard.owner = s.engine.number :=
        (hsound.accounted.accounts.owner_eq i hi).trans hsound.number
      exact .inr ⟨i.base, i.guard, hbase,
        (hsound.clearOf_iff i.context i.base hbase).2 (hlaid i.context), howner, hi, hguarded⟩
  · exact hsound.accounted.eq_put (Watch.run_disposed (.inr ⟨d, hd, hdisposes⟩))

theorem fresh_openSite : openSite.Fresh where
  injections_eq := rfl
  clear := by
    intro context p hp
    simp only [openSite, start, openHost, Host.predicate?, Table.get?_cons, Table.get?_nil] at hp
    split at hp
    · cases hp
      trivial
    · split at hp
      · cases hp
      · split at hp <;> cases hp

/-- A rule comes in that blocks a plugin, and guards are put. -/
def guardsPut : List Deed :=
  [.move .load rfl, .move (.edit (.create noEcho.toValue)) rfl, .move .sync rfl]

/-- Then the host puts another predicate on a context and unloads the plugins, guards are put anew,
and the engine is disposed of. -/
def swapped : List Deed :=
  guardsPut ++
    [.assign "root" (some (.refuses (.str "bad"))), .rearrange (.records "root" none),
      .move .sync rfl, .event .dispose none]

theorem Watch.run_exclusive_swapped :
    (∃ guard, ((Watch.start openSite).run guardsPut).site.host.predicate? "root" =
        some (.guarded guard (.answers (.bool true)))) ∧
      ((Watch.start openSite).run swapped).site.host.predicate? "root" =
        some (.refuses (.str "bad")) := by
  obtain ⟨serial, hguard⟩ := exists_guard_openSite
  have hfair : ∀ d ∈ swapped, d.Fair openSite.engine.number ∧ d.layers = false := by
    simp [swapped, guardsPut, Deed.Fair, Deed.layers, Predicate.refuses, Predicate.ClearOf]
  have hput : ((Watch.start openSite).run swapped).put "root" = some (.refuses (.str "bad")) :=
    Host.predicate?_setPredicate_self hguard _
  have hend := (Watch.run_exclusive fresh_openSite hfair).2 (.event .dispose none)
    (by simp [swapped]) rfl "root"
  exact ⟨⟨_, hguard⟩, hend.trans hput⟩

end Site

end Admission
