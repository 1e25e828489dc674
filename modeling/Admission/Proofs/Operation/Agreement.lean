import Admission.Proofs.Engine.Binding
import Admission.Proofs.Engine.Guards
import Admission.Proofs.Operation.Edit

/-!
# Four views of the rules

The rules are seen in four places: in the store, in the rule file, in what subscribers are told, and
by an engine that starts later from the file.  After every operation that changes the rules, these
agree, and so does the answer to the operation; an operation that finds nothing to change changes
none of them.

The invariant of a site between operations says that the rules were read, that they can be saved and
loaded as they are, and that the resolver is faithful to the host and has kept what a look at the
tree leaves.  Reading any file establishes it,
and every operation keeps it, as long as what it puts into the store comes from JSON.  Whether the
file can be written does not matter for the invariant, only for the file.

Main definitions:

* `ConsoleRequest`, `Site.serveAll` — what is asked of a site, and a run of requests;
* `Site.Orderly` — the invariant between operations;
* `Site.Published` — what a change of the rules leads to;
* `Site.GoesOn` — a site that goes on as another one does.

Main results:

* `Site.Orderly.publish` — what follows a change of the rules;
* `Site.Orderly.serve`, `Site.Orderly.serveAll` — requests keep the invariant;
* `Site.perform_agreement` — **the four views agree after every change**.
-/

set_option autoImplicit false

namespace Admission

/-- What is asked of the administration of a site. -/
inductive ConsoleRequest where
  | perform (operation : Operation)
  | subscribe (name : String)
  | unsubscribe (name : String)

/-- What the request puts into the store comes from JSON. -/
def ConsoleRequest.FromJson : ConsoleRequest → Prop
  | .perform operation => operation.FromJson
  | _ => True

namespace Site

/-- The site after a request.  Those who subscribed are told about changes. -/
def serve (s : Site) : ConsoleRequest → Site
  | .perform operation => (s.perform s.subscribers operation).2
  | .subscribe name => s.subscribe name
  | .unsubscribe name => s.unsubscribe name

def serveAll (s : Site) (requests : List ConsoleRequest) : Site := requests.foldl serve s

/-! ### What follows a change -/

/-- Between operations, the rules were read and can be saved, to the given path, the engine is in
charge, and its resolver has kept what the last look at the tree has left. -/
structure Orderly (path : Path) (s : Site) : Prop where
  loaded : s.engine.loaded = true
  savePath : s.engine.savePath = path
  undisposed : s.engine.disposed = false
  durable : s.engine.store.Durable
  attuned : s.Attuned

/-- An engine that was started has read its rules. -/
theorem Unread.sync_orderly {path : Path} {s : Site} (h : s.Unread path) : s.sync.Orderly path where
  loaded := s.sync_loaded
  savePath := (sync_keepsRules s).savePath.trans h.load_savePath
  undisposed := h.sync_disposed
  durable := by
    rw [(sync_keepsRules s).store]
    exact h.load_durable
  attuned := h.sync_attuned

namespace Orderly

variable {path : Path} {s t : Site}

theorem of_keepsRules (h : s.Orderly path) (hkeeps : KeepsRules s t) (htune : t.Attuned) :
    t.Orderly path where
  loaded := hkeeps.loaded.trans h.loaded
  savePath := hkeeps.savePath.trans h.savePath
  undisposed := hkeeps.disposed.trans h.undisposed
  durable := hkeeps.store ▸ h.durable
  attuned := htune

/-- What is not the host or the engine does not matter. -/
theorem of_engine (h : s.Orderly path) (hhost : t.host = s.host) (hengine : t.engine = s.engine) :
    t.Orderly path where
  loaded := hengine ▸ h.loaded
  savePath := hengine ▸ h.savePath
  undisposed := hengine ▸ h.undisposed
  durable := hengine ▸ h.durable
  attuned := h.attuned.of_engine hhost (congrArg Engine.resolver hengine)

theorem load_eq (h : s.Orderly path) : s.load = s := load_of_loaded h.loaded

/-- A change of the store keeps the invariant. -/
theorem edit? (h : s.Orderly path) {operation : Operation} (hjson : operation.FromJson)
    (hroom : s.rules.length ≤ Integer.writeLimit) (hedit : s.edit? operation = some t) :
    t.Orderly path := by
  obtain ⟨store, supply, hkeeps⟩ := (edit?_edits hedit).changes
  exact {
    loaded := hkeeps.loaded.trans h.loaded
    savePath := hkeeps.savePath.trans h.savePath
    undisposed := hkeeps.disposed.trans h.undisposed
    durable := (edit?_durable h.durable hjson hroom hedit).1
    attuned :=
      h.attuned.of_engine (edit?_restocks hedit).keepsGuards.host (edit?_edits hedit).resolver }

/-- Writing the file leaves the rules alone. -/
theorem saveText (h : s.Orderly path) (text : String) : (s.saveText text).Orderly path :=
  h.of_engine (saveText_keepsGuards s text).host (saveText_engine s text)

theorem sync (h : s.Orderly path) : s.sync.Orderly path := by
  have hkeeps := sync_keepsRules s
  have hload := h.load_eq
  rw [hload] at hkeeps
  exact h.of_keepsRules hkeeps
    (.sync (hload.symm ▸ h.attuned.inTune) (hload.symm ▸ h.attuned.keepsOffered))

theorem push (h : s.Orderly path) (subscribers : List String) :
    (s.push subscribers).Orderly path :=
  h.of_engine rfl rfl

end Orderly

/-- What a change of the rules leads to: the rules have a text, which the rule file has if it could
be written, and every subscriber is told the rules once. -/
structure Published (path : Path) (subscribers : List String) (text : String) (s t : Site) :
    Prop where
  site : t = (s.saveText text).sync.push subscribers
  store : t.engine.store = s.engine.store
  subscribed : t.subscribers = s.subscribers
  pushes : t.pushes = s.pushes ++ subscribers.map fun name => ⟨name, s.engine.store.sorted⟩
  render : RuleFile.render s.rules = .ok text
  file : (RuleFile.save s.files path text).2 = true →
    t.files.read path.components = .ok text.toUTF8

/-- What follows a change of the rules goes through. -/
theorem Orderly.publish {path : Path} {s : Site} (h : s.Orderly path) (subscribers : List String) :
    ∃ t text, s.publish subscribers = .ok t ∧ t.Orderly path ∧
      Published path subscribers text s t := by
  obtain ⟨text, hrender, -⟩ := RuleFile.contentOfText_render h.durable.storable
  have hpublish : s.publish subscribers = .ok ((s.saveText text).sync.push subscribers) := by
    rw [Site.publish, commit, save]
    have hrules : RuleFile.render s.rules = .ok text := hrender
    rw [hrules]
    rfl
  have hsaved := (saveText_onlyLogs s text).keepsRules
  have hsynced := sync_keepsRules (s.saveText text)
  rw [(h.saveText text).load_eq] at hsynced
  have horderly := (h.saveText text).sync
  -- what the round left behind matters by its fields only, so it is any site from here on
  obtain ⟨u, hu⟩ : ∃ u, (s.saveText text).sync = u := ⟨_, rfl⟩
  rw [hu] at hpublish hsynced horderly
  have hstore : u.engine.store = s.engine.store := hsynced.store.trans hsaved.store
  have hfiles : (u.push subscribers).files = (RuleFile.save s.files path text).1 :=
    h.savePath ▸ hsynced.files.trans hsaved.files
  refine ⟨u.push subscribers, text, hpublish, horderly.push subscribers, ?_⟩
  exact {
    site := by rw [hu]
    store := hstore
    subscribed := hsynced.subscribers.trans hsaved.subscribers
    pushes := by rw [Site.push, hstore, hsynced.pushes, hsaved.pushes]
    render := hrender
    file := by
      intro hwrite
      rw [hfiles]
      exact FileTree.read_of_replaceFile (Prod.ext rfl hwrite) }

/-! ### Operations -/

theorem changed_of_publish {e t : Site} {subscribers : List String} (answer : Site → Value)
    (h : e.publish subscribers = .ok t) : e.changed subscribers answer = (.ok (answer t), t) := by
  rw [changed, h]

section Perform

variable {path : Path} {s e t : Site} {subscribers : List String} {operation : Operation}

/-- An operation that has something to change is answered in agreement with the rules. -/
theorem perform_of_edit (hloaded : s.engine.loaded = true) (hsound : s.engine.store.Sound)
    (hedit : s.edit? operation = some e) (hpublish : e.publish subscribers = .ok t)
    (hstore : t.engine.store = e.engine.store) :
    ∃ v, s.perform subscribers operation = (.ok v, t) ∧ operation.Agrees t v := by
  cases operation with
  | create data =>
      obtain ⟨⟨rule, store, supply⟩, hcreate, rfl⟩ := Option.map_eq_some_iff.1 hedit
      rw [noteOperation_engine] at hstore
      refine ⟨rule.toValue, ?_, rule, ?_, rfl⟩
      · rw [perform, load_of_loaded hloaded, createRule, hcreate]
        exact changed_of_publish _ hpublish
      · rw [hstore, Store.mem_sorted]
        change rule ∈ store.rules
        rw [Store.create_rules hcreate]
        exact List.mem_append_right _ List.mem_cons_self
  | update data =>
      obtain ⟨⟨rule, store⟩, hupdate, rfl⟩ := Option.map_eq_some_iff.1 hedit
      rw [noteOperation_engine] at hstore
      obtain ⟨origin, entries, others, prev, rfl, hprev, hid, hrule, hnext⟩ :=
        Store.update_spec hupdate
      have hsame : rule.id = prev.id := by
        rw [hrule]
        rfl
      refine ⟨rule.toValue, ?_, rule, ?_, rfl, entries, rfl, by rw [hid, hsame]⟩
      · rw [perform, load_of_loaded hloaded, updateRule, hupdate]
        exact changed_of_publish _ hpublish
      · rw [hstore, Store.mem_sorted]
        exact Store.mem_rules_of_put hprev hsame hnext
  | delete id =>
      obtain ⟨store, hdelete, rfl⟩ := Option.map_eq_some_iff.1 hedit
      rw [noteOperation_engine] at hstore
      obtain ⟨prev, -, rfl, -, hgone⟩ := Store.delete_spec hsound.ids_nodup hdelete
      refine ⟨.bool true, ?_, rfl, ?_⟩
      · rw [perform, load_of_loaded hloaded, deleteRule, hdelete]
        exact changed_of_publish _ hpublish
      · intro r hr hsame
        rw [hstore, Store.mem_sorted] at hr
        exact hgone r hr (Value.str.inj hsame).symm
  | reorder ids =>
      obtain ⟨store, hreorder, rfl⟩ := Option.map_eq_some_iff.1 hedit
      refine ⟨t.ruleList, ?_, rfl⟩
      rw [perform, load_of_loaded hloaded, reorderRules, hreorder]
      exact changed_of_publish _ hpublish
  | toggle id enabled =>
      obtain ⟨⟨rule, store⟩, htoggle, rfl⟩ := Option.map_eq_some_iff.1 hedit
      rw [noteOperation_engine] at hstore
      obtain ⟨prev, hprev, rfl, hrule, hnext⟩ := Store.toggle_spec htoggle
      have hsame : rule.id = prev.id := by rw [hrule]
      refine ⟨rule.toValue, ?_, rule, ?_, rfl, by rw [hsame]⟩
      · rw [perform, load_of_loaded hloaded, toggleRule, htoggle]
        exact changed_of_publish _ hpublish
      · rw [hstore, Store.mem_sorted]
        exact Store.mem_rules_of_put hprev hsame hnext
  | _ => cases hedit

/-- An operation that finds nothing to change is answered, and looks at the tree at most. -/
theorem exists_answer_of_none (hloaded : s.engine.loaded = true) (subscribers : List String)
    (hedit : s.edit? operation = none) :
    ∃ v t, s.perform subscribers operation = (.ok v, t) ∧ (t = s ∨ t = s.refresh) := by
  have hload := load_of_loaded hloaded
  cases hmutates : operation.mutates with
  | true =>
      rcases perform_cases s subscribers hmutates with ⟨-, v, hperform⟩ | ⟨e, answer, hsome, -⟩
      · rw [hload] at hperform
        exact ⟨v, s, hperform, .inl rfl⟩
      · rw [hload, hedit] at hsome
        cases hsome
  | false =>
      cases operation with
      | listRules => exact ⟨s.ruleList, s, by rw [perform, hload], .inl rfl⟩
      | listPlugins => exact ⟨_, s.refresh, rfl, .inr rfl⟩
      | listCommands | nothing => exact ⟨_, s, rfl, .inl rfl⟩
      | create | update | delete | reorder | toggle => cases hmutates

/-- An operation that finds nothing to change leaves the rules, their file and the subscribers
alone, and is answered. -/
theorem perform_of_none (h : s.Orderly path) (subscribers : List String)
    (hedit : s.edit? operation = none) :
    ∃ v, s.perform subscribers operation = (.ok v, (s.perform subscribers operation).2) ∧
      KeepsRules s (s.perform subscribers operation).2 ∧
      (s.perform subscribers operation).2.Orderly path := by
  obtain ⟨v, t, hperform, hleft⟩ := exists_answer_of_none h.loaded subscribers hedit
  rw [hperform]
  refine ⟨v, rfl, ?_⟩
  rcases hleft with rfl | rfl
  · exact ⟨.refl t, h⟩
  · have hkeeps := refresh_keepsRules s
    have hload := h.load_eq
    rw [hload] at hkeeps
    exact ⟨hkeeps, h.of_keepsRules hkeeps
      (.refresh (hload.symm ▸ h.attuned.inTune) (hload.symm ▸ h.attuned.keepsOffered))⟩

/-- An operation keeps the invariant, and adds one rule at most. -/
theorem Orderly.perform (h : s.Orderly path) (subscribers : List String)
    (hjson : operation.FromJson) (hroom : s.rules.length ≤ Integer.writeLimit) :
    (s.perform subscribers operation).2.Orderly path ∧
      (s.perform subscribers operation).2.rules.length ≤ s.rules.length + 1 := by
  cases hedit : s.edit? operation with
  | none =>
      obtain ⟨_, -, hkeeps, horderly⟩ := perform_of_none h subscribers hedit
      have hrules : (s.perform subscribers operation).2.rules = s.rules :=
        congrArg Store.rules hkeeps.store
      rw [hrules]
      exact ⟨horderly, Nat.le_succ _⟩
  | some e =>
      obtain ⟨t, _, hpublish, horderly, hpublished⟩ :=
        (h.edit? hjson hroom hedit).publish subscribers
      obtain ⟨_, hperform, -⟩ :=
        perform_of_edit h.loaded h.durable.sound hedit hpublish hpublished.store
      have hrules : t.rules = e.rules := congrArg Store.rules hpublished.store
      rw [hperform, hrules]
      exact ⟨horderly, (edit?_durable h.durable hjson hroom hedit).2⟩

end Perform

/-! ### Requests -/

section Requests

variable {path : Path} {s : Site}

theorem Orderly.serve (h : s.Orderly path) {q : ConsoleRequest} (hjson : q.FromJson)
    (hroom : s.rules.length ≤ Integer.writeLimit) :
    (s.serve q).Orderly path ∧ (s.serve q).rules.length ≤ s.rules.length + 1 := by
  cases q with
  | perform operation => exact h.perform s.subscribers hjson hroom
  | subscribe name => exact ⟨h.of_engine rfl rfl, Nat.le_succ _⟩
  | unsubscribe name => exact ⟨h.of_engine rfl rfl, Nat.le_succ _⟩

/-- Whatever is asked of it, a site stays orderly. -/
theorem Orderly.serveAll (h : s.Orderly path) {requests : List ConsoleRequest}
    (hjson : ∀ q ∈ requests, q.FromJson)
    (hroom : s.rules.length + requests.length ≤ Integer.writeLimit) :
    (s.serveAll requests).Orderly path ∧
      (s.serveAll requests).rules.length ≤ s.rules.length + requests.length := by
  induction requests generalizing s with
  | nil => exact ⟨h, Nat.le_refl _⟩
  | cons q requests ih =>
      rw [List.length_cons] at hroom ⊢
      -- a request takes the room of one rule at most, so there is room for the others
      obtain ⟨hserved, hlength⟩ := h.serve (hjson q List.mem_cons_self) (by omega)
      obtain ⟨horderly, hrest⟩ :=
        ih hserved (fun p hp => hjson p (List.mem_cons_of_mem q hp)) (by omega)
      exact ⟨horderly, hrest.trans (by omega)⟩

end Requests

/-! ### Admission to the plugins -/

/-- The predicate that a host has for a context lets a session through, by the rules of the engines
of a site. -/
def Admits (s : Site) (h : Host) (context : String) (session : Session) : Prop :=
  ∃ p, h.predicate? context = some p ∧ (p.ask s.rulesOf session).Affirms

/-- After a round of guards, a context lets a session through when it does without the guards and
the rules let the session through to the plugins that they name. -/
theorem sync_admits_iff {s : Site} (h : s.engine.disposed = false) (context : String)
    (session : Session) :
    s.sync.Admits s.sync.host context session ↔
      s.sync.Admits (s.engine.ledger.restore s.host).2 context session ∧
        ∀ key ∈ Ledger.keysAt s.sync.host (activeKeys s.sync.rules) s.sync.host.pluginForks context,
          (admits key s.sync.rules session).2 = .ok true := by
  cases hbase : (s.engine.ledger.restore s.host).2.predicate? context with
  | none =>
      have hnone := sync_predicate?_of_none h hbase
      simp only [Admits, hbase, hnone, reduceCtorEq, false_and, exists_false]
  | some base =>
      obtain ⟨p, hp, hstands⟩ := sync_stands h hbase
      have hnumber : s.sync.rulesOf s.engine.number = s.sync.rules := by
        rw [← move_number s .sync]
        exact rulesOf_number s.sync
      have hask := (hstands.ask s.sync.rulesOf session).1
      rw [hnumber] at hask
      simp only [Admits, hbase, hp, Option.some.injEq, exists_eq_left']
      exact hask

/-! Telling the subscribers does not change what is let through. -/

theorem push_host (s : Site) (subscribers : List String) :
    (s.push subscribers).host = s.host := rfl

theorem push_rules (s : Site) (subscribers : List String) :
    (s.push subscribers).rules = s.rules := rfl

theorem push_admits_iff (s : Site) (subscribers : List String) (h : Host) (context : String)
    (session : Session) :
    (s.push subscribers).Admits h context session ↔ s.Admits h context session := Iff.rfl

/-- Engines with the same rules, on hosts with the same tree, let the same sessions through where
the hosts do. -/
theorem sync_admits_congr {s u : Site} (hs : s.engine.disposed = false)
    (hu : u.engine.disposed = false) (htree : Host.SameTree s.sync.host u.sync.host)
    (hrules : u.sync.rules = s.sync.rules) {context : String} {session : Session}
    (hbase : u.sync.Admits (u.engine.ledger.restore u.host).2 context session ↔
      s.sync.Admits (s.engine.ledger.restore s.host).2 context session) :
    u.sync.Admits u.sync.host context session ↔ s.sync.Admits s.sync.host context session := by
  have hkeys : Ledger.keysAt u.sync.host (activeKeys u.sync.rules) u.sync.host.pluginForks context =
      Ledger.keysAt s.sync.host (activeKeys s.sync.rules) s.sync.host.pluginForks context := by
    rw [hrules, htree.pluginForks_eq]
    simp only [Ledger.keysAt, htree.parentOf?_eq]
  rw [sync_admits_iff hu, sync_admits_iff hs, hbase, hkeys, hrules]

/-! ### Agreement -/

/-- A site goes on as another one does: it has the same rules in the same order, and decides alike
about every message, every command, and every plugin. -/
structure GoesOn (t u : Site) : Prop where
  rules : u.rules = t.rules
  message : ∀ session, (u.decideMessage session).1 = (t.decideMessage session).1
  command : ∀ session command,
    (u.decideCommand session command).1 = (t.decideCommand session command).1
  plugin : ∀ key session, admits key u.rules session = admits key t.rules session

/-- A new engine on the file that an orderly site has written goes on as that site does. -/
theorem Orderly.goesOn {path : Path} {t u : Site} (h : t.Orderly path) {text : String}
    (hrender : RuleFile.render t.rules = .ok text)
    (hfile : t.files.read path.components = .ok text.toUTF8) (hu : t.Successor path u) :
    GoesOn t u.sync := by
  have hfile' : u.files.read path.components = .ok text.toUTF8 := hu.files ▸ hfile
  have hrules : u.sync.rules = t.rules :=
    congrArg Store.rules (hu.toUnread.sync_store h.durable hrender hfile')
  have hloaded := u.sync_loaded
  have hthreshold : u.sync.threshold = t.threshold := hu.toUnread.sync_threshold.trans hu.threshold
  have htree : Host.SameTree t.host u.sync.host := hu.tree.trans (sync_sameTree u)
  exact {
    rules := hrules
    message := decideMessage_congr h.loaded hloaded hrules hthreshold
    command := fun session command => decideCommand_congr h.loaded hloaded hrules hthreshold htree
      session (h.attuned.byCommand_congr hu.toUnread.sync_attuned htree command)
    plugin := fun key session => by rw [hrules] }

/-- Where a round of guards was the last thing to change predicates, a context lets the same
sessions through as after the first round of an engine that goes on with the same rules, if the
hosts do without the guards. -/
theorem Successor.admits_iff {path : Path} {r t u : Site} {subscribers : List String}
    (hu : t.Successor path u) (hr : r.engine.disposed = false)
    (ht : t = r.sync.push subscribers) (hrules : u.sync.rules = t.rules) {context : String}
    {session : Session}
    (hbase : u.sync.Admits u.host context session ↔
      t.Admits (r.engine.ledger.restore r.host).2 context session) :
    u.sync.Admits u.sync.host context session ↔ t.Admits t.host context session := by
  obtain ⟨number, settings, -, hengine⟩ := hu.engine
  have hrestore : (u.engine.ledger.restore u.host).2 = u.host := by
    rw [hengine]
    rfl
  have hdisposed : u.engine.disposed = false := by
    rw [hengine]
    rfl
  have htree : Host.SameTree t.host u.sync.host := hu.tree.trans (sync_sameTree u)
  rw [ht, push_host] at htree
  rw [ht, push_rules] at hrules
  rw [ht, push_admits_iff, ← hrestore] at hbase
  rw [ht, push_admits_iff, push_host]
  exact sync_admits_congr hr hdisposed htree hrules hbase

section Agreement

variable {path : Path} {s : Site} {operation : Operation}

/-- On an orderly site, an operation that has nothing to change leaves the rules, their file and the
subscribers alone. -/
theorem Orderly.perform_of_not_hits (h : s.Orderly path)
    (hhits : ¬operation.Hits s.engine.store) :
    ∃ v t, s.perform s.subscribers operation = (.ok v, t) ∧ KeepsRules s t := by
  have hedit : s.edit? operation = none := by
    rw [← Option.not_isSome_iff_eq_none, edit?_isSome_iff h.durable.sound]
    exact fun hboth => hhits hboth.1
  obtain ⟨v, hperform, hkeeps, -⟩ := perform_of_none h s.subscribers hedit
  exact ⟨v, _, hperform, hkeeps⟩

/-- On an orderly site, an operation that has something to change is published. -/
theorem Orderly.perform_of_hits (h : s.Orderly path) (hjson : operation.FromJson)
    (hroom : s.rules.length ≤ Integer.writeLimit) (hhits : operation.Hits s.engine.store)
    (hends : operation.Ends s) :
    ∃ v e t text, s.perform s.subscribers operation = (.ok v, t) ∧ s.edit? operation = some e ∧
      t.Orderly path ∧ operation.Agrees t v ∧ Published path s.subscribers text e t := by
  obtain ⟨e, hedit⟩ := Option.isSome_iff_exists.1
    ((edit?_isSome_iff h.durable.sound).2 ⟨hhits, hends⟩)
  obtain ⟨t, text, hpublish, horderly, hpublished⟩ :=
    (h.edit? hjson hroom hedit).publish s.subscribers
  obtain ⟨v, hperform, hagrees⟩ :=
    perform_of_edit h.loaded h.durable.sound hedit hpublish hpublished.store
  exact ⟨v, e, t, text, hperform, hedit, horderly, hagrees, hpublished⟩

end Agreement

/-- An engine was started on any rule file or on none, and any requests came in, none of which
brings more rules than there are integers with a written form.

An operation that has nothing to change is answered, and leaves the rules, the files and what
subscribers were told as they are.

After an operation that changes the rules, the answer agrees with the list of the rules, every
subscriber was told that list once, and the rules have a text.  If this text could be written to the
rule file, it is there; and a new engine that starts from the file, on a host with the same tree,
has the same rules, decides alike about every message, command and plugin, and lets through the same
sessions to every context where the host does. -/
theorem perform_agreement (host : Host) (files : FileTree) (supply : Supply) (settings : Settings)
    (threshold : LogLevel) (path : Path) (hpath : settings.rulesPath? = some path)
    (requests : List ConsoleRequest) (hjson : ∀ q ∈ requests, q.FromJson)
    (hroom : (start host files supply settings false threshold).sync.rules.length +
      requests.length ≤ Integer.writeLimit)
    (operation : Operation) (hop : operation.FromJson) :
    let s := (start host files supply settings false threshold).sync.serveAll requests
    let answer := (s.perform s.subscribers operation).1
    let t := (s.perform s.subscribers operation).2
    (¬operation.Hits s.engine.store →
      (∃ v, answer = .ok v) ∧ t.engine.store = s.engine.store ∧ t.files = s.files ∧
        t.pushes = s.pushes) ∧
    (operation.Hits s.engine.store → operation.Ends s →
      ∃ v text, answer = .ok v ∧ operation.Agrees t v ∧
        (t.perform t.subscribers .listRules).1 =
          .ok (.ofList (t.engine.store.sorted.map Rule.toValue)) ∧
        t.pushes = s.pushes ++ s.subscribers.map (fun name => ⟨name, t.engine.store.sorted⟩) ∧
        RuleFile.render t.rules = .ok text ∧
        ((RuleFile.save s.files path text).2 = true →
          t.files.read path.components = .ok text.toUTF8 ∧
          ∀ u, Successor path t u → GoesOn t u.sync ∧
            ∀ context session,
              (u.sync.Admits u.host context session ↔
                t.Admits (s.engine.ledger.restore s.host).2 context session) →
              (u.sync.Admits u.sync.host context session ↔
                t.Admits t.host context session))) := by
  intro s answer t
  have hunread : (start host files supply settings false threshold).Unread path :=
    ⟨⟨0, settings, hpath, rfl⟩, rfl⟩
  obtain ⟨horderly, hlength⟩ := hunread.sync_orderly.serveAll hjson hroom
  have hs : s.Orderly path := horderly
  refine ⟨?_, ?_⟩
  · intro hhits
    obtain ⟨v, t', hperform, hkeeps⟩ := hs.perform_of_not_hits hhits
    have ht : t = t' := congrArg Prod.snd hperform
    rw [ht]
    exact ⟨⟨v, congrArg Prod.fst hperform⟩, hkeeps.store, hkeeps.files, hkeeps.pushes⟩
  · intro hhits hends
    obtain ⟨v, e, t', text, hperform, hedit, ht', hagrees, hpublished⟩ :=
      hs.perform_of_hits hop (hlength.trans hroom) hhits hends
    have ht : t = t' := congrArg Prod.snd hperform
    -- the files and the guards that the text and the new round meet are those before the change
    obtain ⟨store, supply', hkeeps⟩ := (edit?_edits hedit).changes
    have hrules : t'.rules = e.rules := congrArg Store.rules hpublished.store
    have hrender : RuleFile.render t'.rules = .ok text := hrules ▸ hpublished.render
    have hguards := (edit?_restocks hedit).keepsGuards.trans (saveText_keepsGuards e text)
    rw [ht]
    refine ⟨v, text, congrArg Prod.fst hperform, hagrees, ?_, ?_, hrender, ?_⟩
    · rw [perform, ht'.load_eq]
      rfl
    · rw [hpublished.pushes, hpublished.store, hkeeps.pushes]
      rfl
    · intro hwrite
      have hfiles : e.files = s.files := hkeeps.files
      have hread := hpublished.file (hfiles.symm ▸ hwrite)
      refine ⟨hread, ?_⟩
      intro u hu
      have hgoes := ht'.goesOn hrender hread hu
      refine ⟨hgoes, ?_⟩
      intro context session hbase
      rw [← hguards.ledger, ← hguards.host] at hbase
      exact hu.admits_iff (hguards.disposed.trans hs.undisposed) hpublished.site
        hgoes.rules hbase

/-- Where the rule file is when no settings are given. -/
def usualPath : Path := Settings.default.rulesPath?.getD default

/-- Two subscribe, one of them after a rule was asked for that there is not. -/
def firstRequests : List ConsoleRequest :=
  [.subscribe "ui", .perform (.toggle (.str "no-echo") (.bool false)), .subscribe "log"]

theorem perform_agreement_openHost :
    Settings.default.rulesPath? = some usualPath ∧ (∀ q ∈ firstRequests, q.FromJson) ∧
      (start openHost .empty (Supply.counting 0 1) .default false .error).sync.rules.length +
        firstRequests.length ≤ Integer.writeLimit ∧
      (Operation.create noEcho.toValue).FromJson ∧
      ∃ (s t : Site) (v : Value) (text : String),
        s = (start openHost .empty (Supply.counting 0 1) .default false .error).sync.serveAll
          firstRequests ∧
        t = (s.perform s.subscribers (.create noEcho.toValue)).2 ∧
        (s.perform s.subscribers (.create noEcho.toValue)).1 = .ok v ∧
        (∃ r ∈ t.engine.store.sorted, v = r.toValue) ∧
        t.pushes = [⟨"ui", t.engine.store.sorted⟩, ⟨"log", t.engine.store.sorted⟩] ∧
        t.files.read usualPath.components = .ok text.toUTF8 ∧
        GoesOn t (start t.host t.files (Supply.counting 5 1) .default false t.threshold).sync := by
  have hjson : ∀ q ∈ firstRequests, q.FromJson := by
    intro q hq
    simp only [firstRequests, List.mem_cons, List.not_mem_nil, or_false] at hq
    rcases hq with rfl | rfl | rfl <;> trivial
  have hroom : (start openHost .empty (Supply.counting 0 1) .default false .error).sync.rules.length
      + firstRequests.length ≤ Integer.writeLimit := by
    decide +kernel
  have hop : (Operation.create noEcho.toValue).FromJson :=
    Rule.toValue_isJson ⟨by decide +kernel, by decide +kernel⟩
  have hpath : Settings.default.rulesPath? = some usualPath := rfl
  obtain ⟨v, text, hanswer, hagrees, -, hpushes, -, hlasts⟩ :=
    (perform_agreement openHost .empty (Supply.counting 0 1) .default .error usualPath hpath
      firstRequests hjson hroom (.create noEcho.toValue) hop).2 trivial nofun
  obtain ⟨hread, hnext⟩ := hlasts rfl
  have hgoes := (hnext _ (start_successor _ (Supply.counting 5 1) hpath)).1
  exact ⟨hpath, hjson, hroom, hop, _, _, v, text, rfl, rfl, hanswer, hagrees, hpushes, hread, hgoes⟩

end Site

end Admission
