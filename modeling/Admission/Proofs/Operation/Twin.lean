import Admission.Proofs.Engine.Alike
import Admission.Proofs.Operation.Call

/-!
# Sites with other files

Once the rules were read, the files do not matter any more.  Two sites that have the same host and
the same engine, with the rules in it, are twins, whatever their files, their logs and their
subscribers are.  Twins that have read their rules answer every call alike, and stay twins; and
before the rules were read, so do twins whose rules are not needed.

Main definitions:

* `Site.Twin` — sites that have the same host and the same engine;
* `Site.Agree` — outcomes that are the same and leave such sites behind.

Main results:

* `Site.Twin.call` — **a call that does not read the rule file does not depend on it**;
* `Site.Twin.answers` — once the rules were read, nothing does.
-/

set_option autoImplicit false

namespace Admission

namespace Site

theorem Retunes.supply {s t : Site} (h : Retunes s t) : t.supply = s.supply := by
  obtain ⟨_, _, rfl⟩ := h
  rfl

theorem OnlyLogs.supply {s t : Site} (h : OnlyLogs s t) : t.supply = s.supply := h.retunes.supply

theorem putGuards_supply (s : Site) : s.putGuards.supply = s.supply :=
  (reportAll_onlyLogs (s.setGuards _ _) _).supply

/-- A decision about a command leaves the resolver behind that it asked. -/
theorem decideCommand_onlyLogs {s : Site} (hs : s.engine.loaded = true) (session : Session)
    (command : Option String) :
    OnlyLogs (s.setResolver (s.engine.resolver.byCommand s.host command).2.1)
      (s.decideCommand session command).2 := by
  rw [decideCommand, load_of_loaded hs]
  rcases s.engine.resolver.byCommand s.host command with ⟨plugin, resolver, reports⟩
  dsimp only
  split
  · exact reportAll_onlyLogs _ _
  · exact (reportAll_onlyLogs _ _).trans (decideEvent_onlyLogs _ _ _ _ _)

/-- The sites have the same host, the same engines and the same supply of ids. -/
structure Twin (s t : Site) : Prop where
  host : t.host = s.host
  engine : t.engine = s.engine
  retired : t.retired = s.retired
  supply : t.supply = s.supply
  threshold : t.threshold = s.threshold

namespace Twin

variable {s t s' t' : Site}

theorem alike (h : Twin s t) : Alike s t where
  host := h.host
  retired := h.retired
  threshold := h.threshold
  engine := by rw [h.engine]
  rules := by rw [rules, rules, h.engine]

/-- Sites that are alike are twins when they have the same rules. -/
theorem of_alike (h : Alike s t) (hstore : t.engine.store = s.engine.store)
    (hsupply : t.supply = s.supply) : Twin s t where
  host := h.host
  engine := by rw [h.engine, hstore]
  retired := h.retired
  supply := hsupply
  threshold := h.threshold

theorem rules (h : Twin s t) : t.rules = s.rules := by rw [Site.rules, Site.rules, h.engine]

/-! ### What keeps sites twins -/

theorem log (h : Twin s t) (hs : OnlyLogs s s') (ht : OnlyLogs t t') : Twin s' t' := by
  obtain ⟨_, rfl⟩ := hs
  obtain ⟨_, rfl⟩ := ht
  exact ⟨h.host, h.engine, h.retired, h.supply, h.threshold⟩

/-- Sites whose engines change in the same way stay twins. -/
theorem setEngine (h : Twin s t) (e : Engine) :
    Twin { s with engine := e } { t with engine := e } :=
  ⟨h.host, rfl, h.retired, h.supply, h.threshold⟩

theorem setResolver (h : Twin s t) (resolver : Resolver) :
    Twin (s.setResolver resolver) (t.setResolver resolver) := by
  rw [Site.setResolver, Site.setResolver, h.engine]
  exact h.setEngine _

theorem setStore (h : Twin s t) (store : Store) : Twin (s.setStore store) (t.setStore store) := by
  rw [Site.setStore, Site.setStore, h.engine]
  exact h.setEngine _

theorem setHost (h : Twin s t) (host : Host) : Twin { s with host } { t with host } :=
  ⟨rfl, h.engine, h.retired, h.supply, h.threshold⟩

theorem setSupply (h : Twin s t) (supply : Supply) : Twin { s with supply } { t with supply } :=
  ⟨h.host, h.engine, h.retired, rfl, h.threshold⟩

theorem saveText (h : Twin s t) (text : String) : Twin (s.saveText text) (t.saveText text) := by
  have hfiles : ∀ files files' : FileTree, Twin { s with files } { t with files := files' } :=
    fun _ _ => ⟨h.host, h.engine, h.retired, h.supply, h.threshold⟩
  exact (hfiles _ _).log (saveText_onlyLogs s text) (saveText_onlyLogs t text)

theorem push (h : Twin s t) (subscribers : List String) :
    Twin (s.push subscribers) (t.push subscribers) :=
  ⟨h.host, h.engine, h.retired, h.supply, h.threshold⟩

theorem dispose (h : Twin s t) : Twin s.dispose t.dispose := by
  rw [Site.dispose, Site.dispose, h.engine]
  dsimp only
  rw [h.host]
  exact ((h.setHost _).setEngine _).log (report_onlyLogs _ _) (report_onlyLogs _ _)

/-- What only changes resolvers, and leaves sites alike, leaves twins. -/
theorem of_retunes (h : Twin s t) {s' t' : Site} (hs : Retunes s s') (ht : Retunes t t')
    (halike : Alike s' t') : Twin s' t' := by
  refine .of_alike halike ?_ ?_
  · rw [hs.keepsRules.store, ht.keepsRules.store, h.engine]
  · rw [hs.supply, ht.supply, h.supply]

theorem bindCommand (h : Twin s t) (command : Option String) :
    Twin (s.bindCommand command) (t.bindCommand command) :=
  h.of_retunes (bindCommand_retunes s command) (bindCommand_retunes t command)
    (h.alike.bindCommand command)

theorem refresh (h : Twin s t) (hs : s.engine.loaded = true) : Twin s.refresh t.refresh := by
  have hretunes := refresh_retunes s
  have hretunes' := refresh_retunes t
  rw [load_of_loaded hs] at hretunes
  rw [load_of_loaded (h.alike.loaded.trans hs)] at hretunes'
  exact h.of_retunes hretunes hretunes' (h.alike.refresh hs)

theorem sync (h : Twin s t) (hs : s.engine.loaded = true) : Twin s.sync t.sync := by
  have hrefreshed := h.refresh hs
  rw [Site.sync, Site.sync, hrefreshed.engine]
  split
  · exact hrefreshed
  · refine .of_alike hrefreshed.alike.putGuards ?_ ?_
    · rw [(putGuards_keepsRules _).store, (putGuards_keepsRules _).store, hrefreshed.engine]
    · rw [putGuards_supply, putGuards_supply, hrefreshed.supply]

/-- Twins stay twins when an event is handled that does not call for the rules, or after they have
read them. -/
theorem handle (h : Twin s t) {e : HostEvent} (hs : s.engine.loaded = true ∨ e.loads = false)
    (command : Option String) : Twin (s.handle e command) (t.handle e command) := by
  have hstale : Twin (s.setResolver s.engine.resolver.invalidate)
      (t.setResolver t.engine.resolver.invalidate) := by
    rw [h.engine]
    exact h.setResolver _
  have hbound : ∀ u : Site, OnlyLogs (u.bindCommand command) (u.handle .commandAdded command) :=
    fun u => report_onlyLogs (u.bindCommand command) _
  cases e with
  | dispose => exact h.dispose
  | commandAdded => exact (h.bindCommand command).log (hbound s) (hbound t)
  | ready | fork | beforeUpdate | update | runtime =>
      exact hstale.sync (hs.resolve_right nofun)

end Twin

/-- Two outcomes are the same, and leave twins behind. -/
structure Agree {α : Type} (x y : α × Site) : Prop where
  outcome : y.1 = x.1
  twin : Twin x.2 y.2

namespace Twin

variable {s t : Site}

/-! ### What twins answer -/

/-- The fault that stops what follows a change is the same, and so is the answer if there is
none. -/
theorem changed (h : Twin s t) (hs : s.engine.loaded = true) (subscribers : List String)
    {answer : Site → Value} (hanswer : ∀ {s t : Site}, Twin s t → answer t = answer s) :
    Agree (s.changed subscribers answer) (t.changed subscribers answer) := by
  unfold Site.changed publish commit save
  rw [h.rules]
  cases RuleFile.render s.rules with
  | error fault => exact ⟨rfl, h⟩
  | ok text =>
      have hsaved : (s.saveText text).engine.loaded = true := by rw [saveText_engine, hs]
      have hpublished := ((h.saveText text).sync hsaved).push subscribers
      exact ⟨congrArg Except.ok (hanswer hpublished), hpublished⟩

theorem changed_noted (h : Twin s t) (hs : s.engine.loaded = true) (subscribers : List String)
    (message : String) (v : Value) :
    Agree ((s.noteOperation message).changed subscribers fun _ => v)
      ((t.noteOperation message).changed subscribers fun _ => v) := by
  have hnoted : Twin (s.noteOperation message) (t.noteOperation message) :=
    h.log (report_onlyLogs _ _) (report_onlyLogs _ _)
  refine hnoted.changed ?_ subscribers fun _ => rfl
  rw [noteOperation_engine, hs]

theorem ruleList (h : Twin s t) : t.ruleList = s.ruleList := by
  rw [Site.ruleList, Site.ruleList, h.engine]

/-- Twins answer alike to an operation that does not need the rules. -/
theorem perform_of_not_loads (h : Twin s t) {operation : Operation}
    (hs : operation.loads = false) (subscribers : List String) :
    Agree (s.perform subscribers operation) (t.perform subscribers operation) := by
  cases operation with
  | listCommands =>
      simp only [Site.perform, commandList, commandNames, h.host]
      exact ⟨rfl, h⟩
  | nothing => exact ⟨rfl, h⟩
  | listRules | listPlugins | create | update | delete | reorder | toggle => cases hs

/-- Twins that have read their rules answer alike to an operation. -/
theorem perform_of_loaded (h : Twin s t) (hs : s.engine.loaded = true) (subscribers : List String)
    (operation : Operation) :
    Agree (s.perform subscribers operation) (t.perform subscribers operation) := by
  have ht : t.engine.loaded = true := h.alike.loaded.trans hs
  cases operation with
  | listRules =>
      simp only [Site.perform, load_of_loaded hs, load_of_loaded ht, h.ruleList]
      exact ⟨rfl, h⟩
  | listPlugins =>
      have hrefreshed := h.refresh hs
      simp only [Site.perform, hrefreshed.engine]
      exact ⟨rfl, hrefreshed⟩
  | listCommands | nothing => exact h.perform_of_not_loads rfl subscribers
  | create data =>
      have hcreate : ∀ data, t.engine.store.create data t.supply =
          s.engine.store.create data s.supply := by
        intro data
        rw [h.engine, h.supply]
      simp only [Site.perform, createRule, load_of_loaded hs, load_of_loaded ht, hcreate]
      cases s.engine.store.create (if data.fields?.isSome then data else .ofFields []) s.supply with
      | none => exact ⟨rfl, h⟩
      | some made =>
          obtain ⟨rule, store, supply⟩ := made
          exact ((h.setSupply supply).setStore store).changed_noted hs subscribers _ _
  | update data =>
      simp only [Site.perform, updateRule, load_of_loaded hs, load_of_loaded ht, h.engine]
      cases s.engine.store.update data with
      | none => exact ⟨rfl, h⟩
      | some made => exact (h.setStore made.2).changed_noted hs subscribers _ _
  | delete id =>
      simp only [Site.perform, deleteRule, load_of_loaded hs, load_of_loaded ht, h.engine]
      cases s.engine.store.delete id with
      | none => exact ⟨rfl, h⟩
      | some store => exact (h.setStore store).changed_noted hs subscribers _ _
  | reorder ids =>
      simp only [Site.perform, reorderRules, load_of_loaded hs, load_of_loaded ht, h.engine]
      cases s.engine.store.reorder ids with
      | none => exact ⟨congrArg Except.ok h.ruleList, h⟩
      | some store => exact (h.setStore store).changed hs subscribers ruleList
  | toggle id enabled =>
      simp only [Site.perform, toggleRule, load_of_loaded hs, load_of_loaded ht, h.engine]
      cases s.engine.store.toggle id enabled with
      | none => exact ⟨rfl, h⟩
      | some made => exact (h.setStore made.2).changed_noted hs subscribers _ _

theorem perform (h : Twin s t) {operation : Operation}
    (hs : s.engine.loaded = true ∨ operation.loads = false) (subscribers : List String) :
    Agree (s.perform subscribers operation) (t.perform subscribers operation) := by
  rcases hs with hs | hs
  · exact h.perform_of_loaded hs subscribers operation
  · exact h.perform_of_not_loads hs subscribers

theorem dispatch (h : Twin s t) {event : String} {payload granted : Value}
    (hs : s.engine.loaded = true ∨ (Call.dispatch [] event payload granted).loads s = false)
    (subscribers : List String) :
    Agree (s.dispatch subscribers event payload granted)
      (t.dispatch subscribers event payload granted) := by
  have hsame : t.dispatched event payload granted = s.dispatched event payload granted := by
    rw [dispatched, dispatched, h.engine]
  rw [dispatch_eq, dispatch_eq, hsame]
  rw [Call.loads] at hs
  cases hdispatched : s.dispatched event payload granted with
  | error fault => exact ⟨rfl, h⟩
  | ok operation =>
      rw [hdispatched] at hs
      exact h.perform hs subscribers

/-! ### Decisions -/

theorem decideMessage (h : Twin s t) (hs : s.engine.loaded = true) (session : Session) :
    Agree (s.decideMessage session) (t.decideMessage session) := by
  have hlogs := decideMessage_onlyLogs s session
  have hlogs' := decideMessage_onlyLogs t session
  rw [load_of_loaded hs] at hlogs
  rw [load_of_loaded (h.alike.loaded.trans hs)] at hlogs'
  refine ⟨h.alike.decideMessage hs ?_ session, h.log hlogs hlogs'⟩
  rw [h.rules]

theorem decideCommand (h : Twin s t) (hs : s.engine.loaded = true) (session : Session)
    (command : Option String) :
    Agree (s.decideCommand session command) (t.decideCommand session command) := by
  have hlogs := decideCommand_onlyLogs hs session command
  have hlogs' := decideCommand_onlyLogs (h.alike.loaded.trans hs) session command
  rw [h.engine, h.host] at hlogs'
  refine ⟨h.alike.decideCommand hs ?_ session command, (h.setResolver _).log hlogs hlogs'⟩
  rw [h.rules]

/-! ### Calls -/

theorem ask (h : Twin s t) (context : String) (session : Session) :
    Agree (s.call (.ask context session)) (t.call (.ask context session)) := by
  have hreplies := h.alike.askPredicate context session
  refine ⟨congrArg Answer.reply hreplies, ?_⟩
  rw [Site.call, Site.call]
  cases hask : s.askPredicate context session with
  | none =>
      rw [hask] at hreplies
      rw [Option.map_eq_none_iff.1 hreplies]
      exact h
  | some asked =>
      rw [hask] at hreplies
      obtain ⟨asked', hask', -⟩ := Option.map_eq_some_iff.1 hreplies
      rw [hask']
      exact h.log (askPredicate_onlyLogs hask) (askPredicate_onlyLogs hask')

/-- **A call that does not read the rule file does not depend on it**: twins answer it alike and
stay twins. -/
theorem call (h : Twin s t) {c : Call} (hs : s.engine.loaded = true ∨ c.loads s = false) :
    Agree (s.call c) (t.call c) := by
  cases c with
  | start => exact ⟨rfl, h.sync (hs.resolve_right nofun)⟩
  | event e command => exact ⟨rfl, h.handle hs command⟩
  | message session =>
      obtain ⟨hsame, htwin⟩ := h.decideMessage (hs.resolve_right nofun) session
      exact ⟨congrArg Answer.decision hsame, htwin⟩
  | command session command =>
      obtain ⟨hsame, htwin⟩ := h.decideCommand (hs.resolve_right nofun) session command
      exact ⟨congrArg Answer.decision hsame, htwin⟩
  | ask context session => exact h.ask context session
  | perform subscribers operation =>
      obtain ⟨hsame, htwin⟩ := h.perform hs subscribers
      exact ⟨congrArg Answer.outcome hsame, htwin⟩
  | dispatch subscribers event payload granted =>
      obtain ⟨hsame, htwin⟩ := h.dispatch hs subscribers
      exact ⟨congrArg Answer.outcome hsame, htwin⟩
  | host h' => exact ⟨rfl, h.setHost h'⟩

/-- Once the rules were read, nothing depends on the files. -/
theorem answers (h : Twin s t) (hs : s.engine.loaded = true) (calls : List Call) :
    t.answers calls = s.answers calls := by
  induction calls generalizing s t with
  | nil => rfl
  | cons c calls ih =>
      have hagree : Agree (s.call c) (t.call c) := h.call (.inl hs)
      rw [Site.answers, Site.answers, hagree.outcome, ih hagree.twin (call_of_loaded hs c)]

end Twin

end Site

end Admission
