import Admission.Proofs.Json.Writable
import Admission.Proofs.Operation.Agreement
import Admission.Proofs.Store.Reorder

/-!
# Operations that stop halfway

An operation first changes the store, and everything else follows from the change: the rule file is
written, guards are put, subscribers are told.  Writing comes first among these, and it stops where
a rule has no written form.  Then the operation is answered by a fault, but the change stays in
force, while neither the file nor the guards nor the subscribers know of it.  One rule that cannot
be written is enough, whichever rule it is that was changed.

So a rule that came in with a value that JSON does not have, such as a plain object, blocks the way
of all later changes as well.  They take place in the store and are answered by faults, and nothing
of them gets out, until somebody repairs or deletes that one rule.

Main definitions:

* `Operation.Spares`, `ConsoleRequest.Spares` — what neither repairs nor deletes a given rule;
* `Store.Stuck` — some rule with a given id cannot be written;
* `Site.Withholds` — the file, the guards and what subscribers were told are as they were.

Main results:

* `Site.perform_halfway` — **what an operation leaves behind when it is answered by a fault**;
* `Site.perform_stops` — while a rule cannot be written, changes are answered by faults;
* `Site.serve_withholds`, `Site.serveAll_withholds` — **one such rule keeps everything back**.
-/

set_option autoImplicit false

namespace Admission

/-! ### Operations -/

/-- The operation neither gives the rule with the id another condition nor deletes it. -/
def Operation.Spares (id : String) : Operation → Prop
  | .update data => ∀ entries, data.fields? = some entries → Fields.getD entries "id" ≠ .str id
  | .delete v => v ≠ .str id
  | _ => True

/-- What is asked of the site spares the rule with the id. -/
def ConsoleRequest.Spares (id : String) : ConsoleRequest → Prop
  | .perform operation => operation.Spares id
  | _ => True

/-! ### A rule that cannot be written -/

namespace Store

/-- The rule with the id compares with a value that cannot be written. -/
structure Stuck (s : Store) (id : String) : Prop where
  sound : s.Sound
  unwritable : ∃ r ∈ s.rules, r.id = id ∧ r.condition.isWritable = false

theorem mem_putFirst_of_ne {r q : Rule} {rules : List Rule} (hq : q ∈ rules) (hne : q.id ≠ r.id) :
    q ∈ putFirst r rules := by
  induction rules with
  | nil => cases hq
  | cons p rest ih =>
      rw [putFirst]
      rcases List.mem_cons.1 hq with rfl | hrest
      · rw [if_neg (by simpa using hne)]
        exact List.mem_cons_self
      · split
        · exact List.mem_cons_of_mem r hrest
        · exact List.mem_cons_of_mem p (ih hrest)

/-- Reordering keeps every rule apart from its priority. -/
theorem exists_mem_reorder {s next : Store} {ids : Value} (h : s.reorder ids = some next)
    {r : Rule} (hr : r ∈ s.rules) :
    ∃ place : Nat, { r with priority := (place : Int) } ∈ next.rules := by
  obtain ⟨items, hitems, -⟩ := Option.map_eq_some_iff.1 h
  rw [reorder_eq hitems] at h
  cases h
  obtain ⟨place, hplace, rfl⟩ := List.mem_iff_getElem.1 ((s.ranked_perm items).mem_iff.2 hr)
  have hplace' : place < (numbered (s.ranked items)).length := by rwa [length_numbered]
  refine ⟨place, ?_⟩
  rw [← getElem_numbered hplace' hplace]
  exact List.getElem_mem hplace'

namespace Stuck

variable {s next : Store} {id : String}

theorem exists_unwritable (h : s.Stuck id) : ∃ r ∈ s.rules, r.isWritable = false := by
  obtain ⟨r, hr, -, hvalue⟩ := h.unwritable
  exact ⟨r, hr, by rw [Rule.isWritable, hvalue, Bool.and_false]⟩

theorem create (h : s.Stuck id) {data : Value} {placed : Rule} {supply rest : Supply}
    (hcreate : s.create data supply = some (placed, next, rest)) : next.Stuck id := by
  obtain ⟨r, hr, hrest⟩ := h.unwritable
  refine ⟨create_sound h.sound hcreate, r, ?_, hrest⟩
  rw [create_rules hcreate]
  exact List.mem_append_left _ hr

/-- Putting a rule in the place of another one does no harm, nor does putting one that cannot be
written either in the place of the rule itself. -/
theorem put (h : s.Stuck id) {r : Rule} (hr : r.Settled)
    (hvalue : r.id = id → r.condition.isWritable = false) : (s.put r).Stuck id := by
  obtain ⟨q, hq, hid, hunwritable⟩ := h.unwritable
  refine ⟨put_sound h.sound hr, ?_⟩
  by_cases hsame : r.id = q.id
  · exact ⟨r, mem_putFirst_self (hsame ▸ List.mem_map_of_mem hq), hsame.trans hid,
      hvalue (hsame.trans hid)⟩
  · exact ⟨q, mem_putFirst_of_ne hq (Ne.symm hsame), hid, hunwritable⟩

/-- There is one rule with the id only. -/
theorem unwritable_of_mem (h : s.Stuck id) {r : Rule} (hr : r ∈ s.rules) (hid : r.id = id) :
    r.condition.isWritable = false := by
  obtain ⟨q, hq, hqid, hunwritable⟩ := h.unwritable
  have heq : r = q := List.inj_on_of_nodup_map h.sound.ids_nodup hr hq (hid.trans hqid.symm)
  rw [heq]
  exact hunwritable

theorem update (h : s.Stuck id) {data : Value} {r : Rule}
    (hupdate : s.update data = some (r, next)) (hspares : (Operation.update data).Spares id) :
    next.Stuck id := by
  obtain ⟨origin, entries, others, prev, rfl, hprev, hid, rfl, rfl⟩ := update_spec hupdate
  refine h.put (overlay_settled (h.sound.settled prev hprev) entries) ?_
  intro hsame
  exact absurd (hid.trans (congrArg Value.str hsame)) (hspares entries rfl)

theorem delete (h : s.Stuck id) {v : Value} (hdelete : s.delete v = some next)
    (hspares : (Operation.delete v).Spares id) : next.Stuck id := by
  obtain ⟨prev, -, rfl, hrules, -⟩ := delete_spec h.sound.ids_nodup hdelete
  obtain ⟨r, hr, hid, hunwritable⟩ := h.unwritable
  have hother : r.id ≠ prev.id := fun hsame => hspares (congrArg Value.str (hsame.symm.trans hid))
  refine ⟨delete_sound h.sound hdelete, r, ?_, hid, hunwritable⟩
  rw [hrules]
  exact (List.mem_eraseP_of_neg (by simpa using hother)).2 hr

theorem reorder (h : s.Stuck id) {ids : Value} (hreorder : s.reorder ids = some next) :
    next.Stuck id := by
  obtain ⟨r, hr, hid, hunwritable⟩ := h.unwritable
  obtain ⟨place, hplaced⟩ := exists_mem_reorder hreorder hr
  exact ⟨reorder_sound h.sound hreorder, _, hplaced, hid, hunwritable⟩

theorem toggle (h : s.Stuck id) {v enabled : Value} {r : Rule}
    (htoggle : s.toggle v enabled = some (r, next)) : next.Stuck id := by
  obtain ⟨prev, hprev, -, rfl, rfl⟩ := toggle_spec htoggle
  refine h.put ((h.sound.settled prev hprev).with_enabled _) ?_
  intro hid
  have hvalue := h.unwritable_of_mem hprev hid
  exact hvalue

end Stuck

end Store

namespace Site

/-! ### What follows a change -/

/-- What follows a change goes through exactly when every rule can be written. -/
theorem publish_isOk (e : Site) (subscribers : List String) :
    (e.publish subscribers).isOk = e.rules.all Rule.isWritable := by
  rw [publish, isOk_map, commit, isOk_map, save, isOk_map, RuleFile.render_isOk]

/-- What follows a change leaves the rules alone. -/
theorem publish_rules {e t : Site} {subscribers : List String} (hloaded : e.engine.loaded = true)
    (h : e.publish subscribers = .ok t) : t.rules = e.rules := by
  unfold publish commit save at h
  cases hrender : RuleFile.render e.rules with
  | error fault =>
      rw [hrender] at h
      cases h
  | ok text =>
      rw [hrender] at h
      cases h
      have hsaved := (saveText_onlyLogs e text).keepsRules
      have hsynced := sync_keepsRules (e.saveText text)
      rw [load_of_loaded (hsaved.loaded.trans hloaded)] at hsynced
      exact congrArg Store.rules (hsynced.store.trans hsaved.store)

/-- A change is answered when every rule can be written. -/
theorem changed_of_writable {e : Site} (hloaded : e.engine.loaded = true)
    (subscribers : List String) (answer : Site → Value)
    (h : ∀ r ∈ e.rules, r.isWritable = true) :
    ∃ t, e.changed subscribers answer = (.ok (answer t), t) ∧ t.rules = e.rules := by
  have hok := publish_isOk e subscribers
  rw [List.all_eq_true.2 h] at hok
  cases hpublish : e.publish subscribers with
  | error fault =>
      rw [hpublish] at hok
      cases hok
  | ok t => exact ⟨t, changed_of_publish answer hpublish, publish_rules hloaded hpublish⟩

/-- A change stops with a fault, and stays, when some rule cannot be written. -/
theorem changed_of_unwritable {e : Site} (subscribers : List String) (answer : Site → Value)
    (h : ∃ r ∈ e.rules, r.isWritable = false) :
    ∃ fault, e.changed subscribers answer = (.error fault, e) := by
  have hok := publish_isOk e subscribers
  have hall : e.rules.all Rule.isWritable = false := by simpa using h
  rw [hall] at hok
  cases hpublish : e.publish subscribers with
  | error fault => exact ⟨fault, by rw [changed, hpublish]⟩
  | ok t =>
      rw [hpublish] at hok
      cases hok

section Published

variable {e : Site} (hloaded : e.engine.loaded = true) (subscribers : List String)

/-- What follows a change when every rule can be written. -/
theorem exists_published (h : ∀ r ∈ e.rules, r.isWritable = true) : ∃ text,
    e.published subscribers = (e.saveText text).sync.push subscribers := by
  have hok := publish_isOk e subscribers
  rw [List.all_eq_true.2 h] at hok
  unfold published
  unfold publish commit save at hok ⊢
  cases hrender : RuleFile.render e.rules with
  | error fault =>
      rw [hrender] at hok
      cases hok
  | ok text => exact ⟨text, rfl⟩

include hloaded

/-- What follows a change leaves the rules alone, also where it stops. -/
theorem published_rules : (e.published subscribers).rules = e.rules := by
  unfold published
  cases hpublish : e.publish subscribers with
  | error fault => rfl
  | ok t => exact publish_rules hloaded hpublish

theorem published_loaded : (e.published subscribers).engine.loaded = true := by
  unfold published publish commit save
  cases RuleFile.render e.rules with
  | error fault => exact hloaded
  | ok text => exact sync_loaded (e.saveText text)

end Published

/-- The rule file, the host with the guards on it, and what the subscribers were told are as they
were. -/
structure Withholds (s t : Site) : Prop where
  files : t.files = s.files
  host : t.host = s.host
  ledger : t.engine.ledger = s.engine.ledger
  pushes : t.pushes = s.pushes
  loaded : t.engine.loaded = s.engine.loaded

namespace Withholds

theorem refl (s : Site) : Withholds s s := ⟨rfl, rfl, rfl, rfl, rfl⟩

theorem trans {s t u : Site} (h₁ : Withholds s t) (h₂ : Withholds t u) : Withholds s u where
  files := h₂.files.trans h₁.files
  host := h₂.host.trans h₁.host
  ledger := h₂.ledger.trans h₁.ledger
  pushes := h₂.pushes.trans h₁.pushes
  loaded := h₂.loaded.trans h₁.loaded

end Withholds

/-- Before anything follows from it, a change is known to the store alone. -/
theorem edit?_withholds {s e : Site} {operation : Operation} (h : s.edit? operation = some e) :
    Withholds s e := by
  obtain ⟨store, supply, log, rfl⟩ := edit?_restocks h
  exact ⟨rfl, rfl, rfl, rfl, rfl⟩

/-- An operation stops with a fault, and its change stays, when some rule cannot be written then. -/
theorem perform_of_unwritable {s e : Site} {operation : Operation}
    (hedit : s.load.edit? operation = some e) (subscribers : List String)
    (h : ∃ r ∈ e.rules, r.isWritable = false) :
    ∃ fault, s.perform subscribers operation = (.error fault, e) := by
  have hmutates : operation.mutates = true := by
    cases operation with
    | create | update | delete | reorder | toggle => rfl
    | listRules | listPlugins | listCommands | nothing => cases hedit
  rcases perform_cases s subscribers hmutates with ⟨hnone, -⟩ | ⟨e', answer, hsome, hperform⟩
  · rw [hnone] at hedit
    cases hedit
  · obtain rfl : e' = e := Option.some.inj (hsome.symm.trans hedit)
    rw [hperform]
    exact changed_of_unwritable subscribers answer h

/-- An operation on rules that finds something to change changes the rules, whatever its answer is.
It is answered when every rule can be written then, and otherwise it stops with a fault: the change
stays, and neither the rule file nor the guards nor the subscribers hear of it.  An operation that
finds nothing to change is answered and changes nothing; one whose search for a free id does not end
counts as such. -/
theorem perform_halfway (s : Site) (subscribers : List String) {operation : Operation}
    (h : operation.mutates = true) :
    (s.load.edit? operation = none →
      (∃ v, (s.perform subscribers operation).1 = .ok v) ∧
        (s.perform subscribers operation).2.rules = s.load.rules) ∧
    ∀ e, s.load.edit? operation = some e →
      (s.perform subscribers operation).2.rules = e.rules ∧
      ((∀ r ∈ e.rules, r.isWritable = true) →
        ∃ v, (s.perform subscribers operation).1 = .ok v) ∧
      ((∃ r ∈ e.rules, r.isWritable = false) →
        (∃ fault, (s.perform subscribers operation).1 = .error fault) ∧
          Withholds s.load (s.perform subscribers operation).2) := by
  rcases perform_cases s subscribers h with ⟨hnone, v, hperform⟩ | ⟨e, answer, hedit, hperform⟩
  · refine ⟨fun _ => ⟨⟨v, by rw [hperform]⟩, by rw [hperform]⟩, ?_⟩
    intro e hedit
    rw [hnone] at hedit
    cases hedit
  · refine ⟨fun hnone => ?_, ?_⟩
    · rw [hnone] at hedit
      cases hedit
    · intro e' hedit'
      obtain rfl : e = e' := Option.some.inj (hedit.symm.trans hedit')
      have hwithholds := edit?_withholds hedit
      rw [hperform]
      by_cases hall : ∀ r ∈ e.rules, r.isWritable = true
      · obtain ⟨t, hchanged, hrules⟩ :=
          changed_of_writable (hwithholds.loaded.trans s.load_loaded) subscribers answer hall
        rw [hchanged]
        refine ⟨hrules, fun _ => ⟨answer t, rfl⟩, ?_⟩
        rintro ⟨r, hr, hunwritable⟩
        rw [hall r hr] at hunwritable
        cases hunwritable
      · have hsome : ∃ r ∈ e.rules, r.isWritable = false := by simpa using hall
        obtain ⟨fault, hchanged⟩ := changed_of_unwritable subscribers answer hsome
        rw [hchanged]
        exact ⟨rfl, fun h => absurd h hall, fun _ => ⟨⟨fault, rfl⟩, hwithholds⟩⟩

/-- A rule that compares with a plain object. -/
def oddRule : Value :=
  .ofFields [("id", .str "odd"),
    ("condition", .ofFields [("type", .str "compare"), ("field", .str "content"),
      ("operator", .str "eq"), ("value", .object none Value.recordKind [])])]

/-- A new engine on a host without plugins, and without a rule file. -/
def newSite : Site := .start .bare .empty (.counting 0 1) .default false .error

theorem create_oddRule_unwritable :
    ((newSite.load.edit? (.create oddRule)).map rules).any
      (·.any fun r => !r.isWritable) = true := by decide +kernel

theorem perform_halfway_oddRule :
    (Operation.create oddRule).mutates = true ∧
      ∃ e, newSite.load.edit? (.create oddRule) = some e ∧
        (newSite.perform [] (.create oddRule)).2.rules = e.rules ∧
        (∃ fault, (newSite.perform [] (.create oddRule)).1 = .error fault) ∧
        Withholds newSite.load (newSite.perform [] (.create oddRule)).2 := by
  have hmutates : (Operation.create oddRule).mutates = true := rfl
  have hodd := create_oddRule_unwritable
  obtain ⟨e, hedit⟩ : ∃ e, newSite.load.edit? (.create oddRule) = some e := ⟨_, rfl⟩
  rw [hedit] at hodd
  have hsome : ∃ r ∈ e.rules, r.isWritable = false := by simpa using hodd
  obtain ⟨hrules, -, hstops⟩ := (perform_halfway newSite [] hmutates).2 e hedit
  obtain ⟨hfault, hwithholds⟩ := hstops hsome
  exact ⟨hmutates, e, hedit, hrules, hfault, hwithholds⟩

/-- The operation is answered by a fault, and there is one rule more than before. -/
theorem create_oddRule_stays :
    newSite.load.rules = [] ∧
      (newSite.perform [] (.create oddRule)).1.map (fun _ => ()) =
        .error (.notSerializable "SimpleNamespace") ∧
      (newSite.perform [] (.create oddRule)).2.rules.map (·.id) = ["odd"] := by
  refine ⟨rfl, ?_, ?_⟩
  · decide +kernel
  · decide +kernel

/-! ### Requests while a rule cannot be written -/

section Stuck

variable {s e : Site} {id : String}

/-- A change that spares the rule leaves it there. -/
theorem edit?_stuck (h : s.engine.store.Stuck id) {operation : Operation}
    (hspares : operation.Spares id) (hedit : s.edit? operation = some e) :
    e.engine.store.Stuck id := by
  cases operation with
  | create data =>
      obtain ⟨⟨rule, store, supply⟩, hcreate, rfl⟩ := Option.map_eq_some_iff.1 hedit
      rw [noteOperation_engine]
      exact h.create hcreate
  | update data =>
      obtain ⟨⟨rule, store⟩, hupdate, rfl⟩ := Option.map_eq_some_iff.1 hedit
      rw [noteOperation_engine]
      exact h.update hupdate hspares
  | delete v =>
      obtain ⟨store, hdelete, rfl⟩ := Option.map_eq_some_iff.1 hedit
      rw [noteOperation_engine]
      exact h.delete hdelete hspares
  | reorder ids =>
      obtain ⟨store, hreorder, rfl⟩ := Option.map_eq_some_iff.1 hedit
      exact h.reorder hreorder
  | toggle v enabled =>
      obtain ⟨⟨rule, store⟩, htoggle, rfl⟩ := Option.map_eq_some_iff.1 hedit
      rw [noteOperation_engine]
      exact h.toggle htoggle
  | listRules | listPlugins | listCommands | nothing => cases hedit

/-- Nothing gets out of looking at the tree. -/
theorem refresh_withholds (h : s.engine.loaded = true) :
    Withholds s s.refresh ∧ s.refresh.engine.store = s.engine.store := by
  obtain ⟨resolver, log, hrefresh⟩ := refresh_retunes s
  rw [load_of_loaded h] at hrefresh
  rw [hrefresh]
  exact ⟨⟨rfl, rfl, rfl, rfl, rfl⟩, rfl⟩

/-- While a rule cannot be written, an operation that spares it and finds something to change stops
with a fault, and changes the rules. -/
theorem perform_stops (hloaded : s.engine.loaded = true) (h : s.engine.store.Stuck id)
    (subscribers : List String) {operation : Operation} (hspares : operation.Spares id)
    (hedit : s.edit? operation = some e) :
    ∃ fault, s.perform subscribers operation = (.error fault, e) := by
  refine perform_of_unwritable ?_ subscribers (edit?_stuck h hspares hedit).exists_unwritable
  rw [load_of_loaded hloaded]
  exact hedit

/-- While a rule cannot be written, nothing that spares it gets out. -/
theorem perform_withholds (hloaded : s.engine.loaded = true) (h : s.engine.store.Stuck id)
    (subscribers : List String) {operation : Operation} (hspares : operation.Spares id) :
    Withholds s (s.perform subscribers operation).2 ∧
      (s.perform subscribers operation).2.engine.store.Stuck id := by
  cases hedit : s.edit? operation with
  | some e =>
      obtain ⟨fault, hperform⟩ := perform_stops hloaded h subscribers hspares hedit
      rw [hperform]
      exact ⟨edit?_withholds hedit, edit?_stuck h hspares hedit⟩
  | none =>
      obtain ⟨v, t, hperform, hleft⟩ := exists_answer_of_none hloaded subscribers hedit
      rw [hperform]
      rcases hleft with rfl | rfl
      · exact ⟨.refl t, h⟩
      · obtain ⟨hwithholds, hstore⟩ := refresh_withholds hloaded
        exact ⟨hwithholds, hstore ▸ h⟩

theorem serve_withholds (hloaded : s.engine.loaded = true) (h : s.engine.store.Stuck id)
    {q : ConsoleRequest} (hspares : q.Spares id) :
    Withholds s (s.serve q) ∧ (s.serve q).engine.store.Stuck id := by
  cases q with
  | perform operation => exact perform_withholds hloaded h s.subscribers hspares
  | subscribe name | unsubscribe name => exact ⟨⟨rfl, rfl, rfl, rfl, rfl⟩, h⟩

/-- Whatever is asked of it, a site with a rule that cannot be written keeps its file, its guards
and its subscribers as they were, until that rule is repaired or deleted. -/
theorem serveAll_withholds (hloaded : s.engine.loaded = true) (h : s.engine.store.Stuck id)
    {requests : List ConsoleRequest} (hspares : ∀ q ∈ requests, q.Spares id) :
    Withholds s (s.serveAll requests) ∧ (s.serveAll requests).engine.store.Stuck id := by
  induction requests generalizing s with
  | nil => exact ⟨.refl s, h⟩
  | cons q requests ih =>
      obtain ⟨hfirst, hstuck⟩ := serve_withholds hloaded h (hspares q List.mem_cons_self)
      obtain ⟨hothers, hlast⟩ := ih (hfirst.loaded.trans hloaded) hstuck
        fun p hp => hspares p (List.mem_cons_of_mem q hp)
      exact ⟨hfirst.trans hothers, hlast⟩

end Stuck

end Site

end Admission
