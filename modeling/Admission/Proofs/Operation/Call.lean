import Admission.Proofs.Engine.Loading
import Admission.Proofs.Operation.Halfway

/-!
# Calls

A site is asked for one thing after the other: its engine is started, hears of events, decides about
messages and commands, and performs operations, and its host asks predicates and changes.  Some of
these calls need the rules.  Whichever of them comes first reads the rule file, before it does
anything that depends on the rules, and no other call reads it again.

Main definitions:

* `Site.Call`, `Site.Answer`, `Site.call` — what may be asked of a site, and what comes of it;
* `Site.answers`, `Site.after` — a sequence of calls;
* `Site.reads`, `Site.readings` — the calls that read the rule file.

Main results:

* `Site.call_of_loads`, `Site.call_loaded` — a call that needs the rules goes on as on a site that
  has them, and any other leaves open whether they were read;
* `Site.readings_le_one` — **the rule file is read at most once**.
-/

set_option autoImplicit false

namespace Admission

namespace Site

/-! ### Calls -/

/-- What may be asked of a site. -/
inductive Call where
  /-- The engine is started, or looks at the tree again. -/
  | start
  | event (e : HostEvent) (command : Option String)
  | message (session : Session)
  | command (session : Session) (command : Option String)
  /-- The host asks the predicate of a context. -/
  | ask (context : String) (session : Session)
  | perform (subscribers : List String) (operation : Operation)
  | dispatch (subscribers : List String) (event : String) (payload granted : Value)
  /-- The host changes in any way. -/
  | host (h : Host)

def Call.decides : Call → Bool
  | .message _ | .command _ _ => true
  | _ => false

/-- What is answered to a call. -/
inductive Answer where
  | nothing
  | decision (outcome : Except Fault Decision)
  | outcome (outcome : Except Fault Value)
  /-- The reply of a predicate; none when there is no predicate. -/
  | reply (reply : Option Reply)

/-- What comes of a call. -/
def call (s : Site) : Call → Answer × Site
  | .start => (.nothing, s.sync)
  | .event e command => (.nothing, s.handle e command)
  | .message session => Prod.map .decision id (s.decideMessage session)
  | .command session command => Prod.map .decision id (s.decideCommand session command)
  | .ask context session =>
    let asked := s.askPredicate context session
    (.reply (asked.map (·.1)), (asked.map (·.2)).getD s)
  | .perform subscribers operation => Prod.map .outcome id (s.perform subscribers operation)
  | .dispatch subscribers event payload granted =>
    Prod.map .outcome id (s.dispatch subscribers event payload granted)
  | .host h => (.nothing, { s with host := h })

def answers (s : Site) : List Call → List Answer
  | [] => []
  | c :: calls => (s.call c).1 :: (s.call c).2.answers calls

def after (s : Site) (calls : List Call) : Site := calls.foldl (fun s c => (s.call c).2) s

/-- The rule file is read in the call: the rules were not read before, and were afterwards. -/
def reads (s : Site) (c : Call) : Bool := !s.engine.loaded && (s.call c).2.engine.loaded

end Site

/-! ### Calls that need the rules -/

def Operation.loads : Operation → Bool
  | .listCommands | .nothing => false
  | _ => true

/-- The event calls for new guards, and so needs the rules. -/
def HostEvent.loads : HostEvent → Bool
  | .dispose | .commandAdded => false
  | _ => true

namespace Site

/-- The operation that is performed when an event is dispatched, or the fault by which that is
refused. -/
def dispatched (s : Site) (event : String) (payload granted : Value) : Except Fault Operation :=
  match Operation.ofEvent? event payload with
  | none => .error (.unknownOperation event)
  | some operation =>
    (Authority.check event s.engine.settings.consoleAuthority granted).map fun _ => operation

theorem dispatch_eq (s : Site) (subscribers : List String) (event : String)
    (payload granted : Value) : s.dispatch subscribers event payload granted =
      match s.dispatched event payload granted with
      | .error fault => (.error fault, s)
      | .ok operation => s.perform subscribers operation := by
  rw [dispatch, dispatched]
  cases Operation.ofEvent? event payload with
  | none => rfl
  | some operation =>
      dsimp only
      cases Authority.check event s.engine.settings.consoleAuthority granted <;> rfl

def Call.loads (s : Site) : Call → Bool
  | .start | .message _ | .command _ _ => true
  | .event e _ => e.loads
  | .perform _ operation => operation.loads
  | .dispatch _ name payload granted =>
    match s.dispatched name payload granted with
    | .error _ => false
    | .ok operation => operation.loads
  | .ask _ _ | .host _ => false

/-! ### Reading the rules, whatever the resolver knows -/

/-- The rules count as read, though nothing was read yet. -/
def marked (s : Site) : Site := { s with engine := { s.engine with loaded := true } }

theorem load_of_unread {s : Site} (h : s.engine.loaded = false) : s.load =
    match s.loadFails, s.engine.settings.rulesPath? with
    | false, some path => s.marked.loadFrom path
    | _, _ => s.marked.loadFailed :=
  if_neg (by simp [h])

section Resolver

variable (s : Site) (resolver : Resolver)

theorem reportAll_setResolver (reports : List Report) :
    (s.setResolver resolver).reportAll reports = (s.reportAll reports).setResolver resolver := by
  induction reports generalizing s with
  | nil => rfl
  | cons r rest ih =>
      have hreport : (s.setResolver resolver).report r = (s.report r).setResolver resolver := by
        simp only [report, reportWith, setResolver]
        cases r.line? s.engine.details s.threshold <;> rfl
      rw [reportAll, List.foldl_cons, hreport]
      exact ih (s.report r)

theorem setRules_setResolver (rules : List Rule) :
    (s.setResolver resolver).setRules rules = (s.setRules rules).setResolver resolver := by
  have hsupply : (s.setResolver resolver).supply = s.supply := rfl
  rw [setRules, setRules, hsupply]
  cases Store.replace rules s.supply with
  | none => rfl
  | some replaced =>
      obtain ⟨store, renamings, supply⟩ := replaced
      exact reportAll_setResolver ({ s with supply }.setStore store) resolver _

theorem saveText_setResolver (text : String) :
    (s.setResolver resolver).saveText text = (s.saveText text).setResolver resolver := by
  have hfiles : (s.setResolver resolver).files = s.files := rfl
  have hpath : (s.setResolver resolver).engine.savePath = s.engine.savePath := rfl
  rw [saveText, saveText, hfiles, hpath]
  rcases RuleFile.save s.files s.engine.savePath text with ⟨files, done⟩
  dsimp only
  split
  · rfl
  · exact reportAll_setResolver { s with files } resolver [_]

theorem loadFrom_setResolver (path : Path) :
    (s.setResolver resolver).loadFrom path = (s.loadFrom path).setResolver resolver := by
  have hfiles : (s.setResolver resolver).files = s.files := rfl
  rw [loadFrom, loadFrom, hfiles]
  dsimp only
  rw [reportAll_setResolver]
  obtain ⟨t, ht⟩ : ∃ t, s.reportAll ((RuleFile.contentEntry? path
    (RuleFile.content s.files path)).toList.map .entry) = t := ⟨_, rfl⟩
  have hsupply : (t.setResolver resolver).supply = t.supply := rfl
  rw [ht, hsupply]
  rcases RuleFile.rulesOf (RuleFile.content s.files path) t.supply with ⟨rules, supply⟩
  have hnext : ({ t.setResolver resolver with supply } : Site) =
      ({ t with supply } : Site).setResolver resolver := rfl
  dsimp only
  rw [hnext]
  cases rules with
  | some rules =>
      dsimp only
      rw [setRules_setResolver]
      exact reportAll_setResolver _ resolver [_]
  | none =>
      dsimp only
      rw [setRules_setResolver]
      exact saveText_setResolver _ resolver "[]"

theorem loadFailed_setResolver :
    (s.setResolver resolver).loadFailed = s.loadFailed.setResolver resolver := by
  have hnote := reportAll_setResolver s resolver
    [.entry ⟨.warning, .engine, "Failed to initialize persistent rules: " ++ RuleFile.reason⟩]
  exact (congrArg (setRules · []) hnote).trans (setRules_setResolver _ resolver [])

/-- The rules are read in the same way whatever the resolver knows. -/
theorem load_setResolver : (s.setResolver resolver).load = s.load.setResolver resolver := by
  cases hloaded : s.engine.loaded with
  | true => rw [load_of_loaded hloaded, load_of_loaded (s := s.setResolver resolver) hloaded]
  | false =>
      have hmarked : (s.setResolver resolver).marked = s.marked.setResolver resolver := rfl
      have hfails : (s.setResolver resolver).loadFails = s.loadFails := rfl
      have hsettings : (s.setResolver resolver).engine.settings = s.engine.settings := rfl
      rw [load_of_unread hloaded, load_of_unread (s := s.setResolver resolver) hloaded, hmarked,
        hfails, hsettings]
      cases s.loadFails with
      | true => exact loadFailed_setResolver s.marked resolver
      | false =>
          cases s.engine.settings.rulesPath? with
          | none => exact loadFailed_setResolver s.marked resolver
          | some path => exact loadFrom_setResolver s.marked resolver path

end Resolver

/-! ### What a call does first -/

variable {s : Site} {c : Call}

/-- Looking at the tree begins with reading the rules. -/
theorem sync_load (s : Site) : s.sync = s.load.sync := by
  rw [sync, sync, refresh, refresh, load_of_loaded s.load_loaded]

theorem perform_load (s : Site) (subscribers : List String) {operation : Operation}
    (h : operation.loads = true) :
    s.perform subscribers operation = s.load.perform subscribers operation := by
  cases operation with
  | listRules | create | update | delete | reorder | toggle =>
      simp only [perform, load_of_loaded s.load_loaded]
  | listPlugins => simp only [perform, refresh, load_of_loaded s.load_loaded]
  | listCommands | nothing => cases h

theorem handle_load (s : Site) {e : HostEvent} (h : e.loads = true) (command : Option String) :
    s.handle e command = s.load.handle e command := by
  have hresolver : s.load.engine.resolver = s.engine.resolver := by
    obtain ⟨_, _, _, _, hload⟩ := load_shape s
    rw [hload]
  have hsync : (s.setResolver s.engine.resolver.invalidate).sync =
      (s.load.setResolver s.load.engine.resolver.invalidate).sync := by
    rw [sync_load, load_setResolver, hresolver]
  cases e with
  | dispose | commandAdded => cases h
  | ready | fork | beforeUpdate | update | runtime => exact hsync

theorem dispatched_load (s : Site) (event : String) (payload granted : Value) :
    s.load.dispatched event payload granted = s.dispatched event payload granted := by
  obtain ⟨_, _, _, _, hload⟩ := load_shape s
  rw [dispatched, hload]
  rfl

/-- **A call that needs the rules reads them before it does anything else.** -/
theorem call_of_loads (h : c.loads s = true) : s.call c = s.load.call c := by
  cases c with
  | start => rw [call, call, sync_load]
  | event e command => rw [call, call, handle_load s h]
  | message session =>
      rw [call, call, decideMessage, decideMessage, load_of_loaded s.load_loaded]
  | command session command =>
      rw [call, call, decideCommand, decideCommand, load_of_loaded s.load_loaded]
  | perform subscribers operation => rw [call, call, perform_load s subscribers h]
  | dispatch subscribers event payload granted =>
      rw [call, call, dispatch_eq, dispatch_eq, dispatched_load]
      rw [Call.loads] at h
      cases hdispatched : s.dispatched event payload granted with
      | error fault =>
          rw [hdispatched] at h
          cases h
      | ok operation =>
          rw [hdispatched] at h
          dsimp only
          rw [perform_load s subscribers h]
  | ask context session => cases h
  | host h' => cases h

/-! ### Whether the rules were read -/

theorem perform_loaded_of_mutates (s : Site) (subscribers : List String) {operation : Operation}
    (h : operation.mutates = true) :
    (s.perform subscribers operation).2.engine.loaded = true := by
  rcases perform_cases s subscribers h with ⟨-, v, hperform⟩ | ⟨e, answer, hedit, hperform⟩
  · rw [hperform]
    exact s.load_loaded
  · rw [hperform, changed_snd]
    exact published_loaded ((edit?_withholds hedit).loaded.trans s.load_loaded) subscribers

theorem perform_loaded (s : Site) (subscribers : List String) (operation : Operation) :
    (s.perform subscribers operation).2.engine.loaded = (s.engine.loaded || operation.loads) := by
  cases operation with
  | listCommands | nothing => exact (Bool.or_false _).symm
  | listRules => exact s.load_loaded.trans (Bool.or_true _).symm
  | listPlugins =>
      exact ((refresh_keepsRules s).loaded.trans s.load_loaded).trans (Bool.or_true _).symm
  | create | update | delete | reorder | toggle =>
      exact (perform_loaded_of_mutates s subscribers rfl).trans (Bool.or_true _).symm

/-- A command that is added is looked up, and nothing else happens. -/
theorem handle_commandAdded_retunes (s : Site) (command : Option String) :
    Retunes s (s.handle .commandAdded command) :=
  (bindCommand_retunes s command).trans (report_onlyLogs _ _).retunes

/-- The rules were read after a call if they were read before, or if the call needs them. -/
theorem call_loaded (s : Site) (c : Call) :
    (s.call c).2.engine.loaded = (s.engine.loaded || c.loads s) := by
  cases c with
  | start => exact (sync_loaded s).trans (Bool.or_true _).symm
  | event e command =>
      cases e with
      | dispose => exact (dispose_keepsReading s).loaded.trans (Bool.or_false _).symm
      | commandAdded =>
          have hkept := (handle_commandAdded_retunes s command).keepsRules.loaded
          exact hkept.trans (Bool.or_false _).symm
      | ready | fork | beforeUpdate | update | runtime =>
          exact (sync_loaded (s.setResolver s.engine.resolver.invalidate)).trans
            (Bool.or_true _).symm
  | message session =>
      have hdecided := (decideMessage_onlyLogs s session).keepsRules.loaded
      exact (hdecided.trans s.load_loaded).trans (Bool.or_true _).symm
  | command session command =>
      have hdecided := (decideCommand_retunes s session command).keepsRules.loaded
      exact (hdecided.trans s.load_loaded).trans (Bool.or_true _).symm
  | ask context session =>
      rw [Call.loads, Bool.or_false, call]
      cases hask : s.askPredicate context session with
      | none => rfl
      | some asked => exact (askPredicate_onlyLogs hask).keepsRules.loaded
  | perform subscribers operation => exact perform_loaded s subscribers operation
  | dispatch subscribers event payload granted =>
      rw [call, dispatch_eq, Call.loads]
      cases s.dispatched event payload granted with
      | error fault => exact (Bool.or_false _).symm
      | ok operation => exact perform_loaded s subscribers operation
  | host h => exact (Bool.or_false _).symm

/-- Once the rules were read, they stay so. -/
theorem call_of_loaded (h : s.engine.loaded = true) (c : Call) :
    (s.call c).2.engine.loaded = true := by
  rw [call_loaded, h, Bool.true_or]

end Site

end Admission
