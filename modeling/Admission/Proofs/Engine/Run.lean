import Admission.Engine.Enforce
import Admission.Operation.Perform
import Admission.Proofs.Host.Guards

/-!
# Runs of a site

What happens at a site is broken into moves that nothing can come between: the rules are read, the
store changes, the rule file is written, the guards are put anew, the host changes in any way it
likes.  An administrative operation is several moves, since others may come between the change of
the store and the new guards; so is an event of the host.

Most moves leave the host and the guards alone.  Only a new round of guards and disposing of the
engine touch the host, and only the host itself puts other predicates.

Main definitions:

* `Site.Move`, `Site.move` — the moves;
* `Site.run` — many moves, one after the other;
* `Site.OnlyLogs`, `Site.Restocks`, `Site.Retunes` — nothing but the log is different, or nothing
  but the log and the rules, or the log and the resolver;
* `Site.KeepsGuards` — host, ledger and former engines are untouched.

Main results:

* `Site.perform_cases` — what an operation on rules can do;
* `Site.exists_run_perform`, `Site.exists_run_handle` — **operations and events are runs**;
* `Site.move_keepsGuards` — the moves that leave host and guards alone;
* `Site.run_number` — a run stays with its engine.
-/

set_option autoImplicit false

namespace Admission

/-- The operation may change rules. -/
def Operation.mutates : Operation → Bool
  | .create _ | .update _ | .delete _ | .reorder _ | .toggle _ _ => true
  | _ => false

namespace Site

/-! ### Moves -/

/-- The site after the change that an operation makes to the rules, before anything follows from
it; none when there is nothing to change. -/
def edit? (s : Site) : Operation → Option Site
  | .create data =>
    (s.engine.store.create (if data.fields?.isSome then data else .ofFields []) s.supply).map
      fun (rule, store, supply) => ({ s with supply }.setStore store).noteOperation
        ("Created rule " ++ rule.id ++ " (" ++ rule.name ++ ")")
  | .update data =>
    (s.engine.store.update data).map fun (rule, store) =>
      (s.setStore store).noteOperation ("Updated rule " ++ rule.id)
  | .delete id =>
    (s.engine.store.delete id).map fun store =>
      (s.setStore store).noteOperation ("Deleted rule " ++ id.str?.getD "")
  | .reorder ids => (s.engine.store.reorder ids).map s.setStore
  | .toggle id enabled =>
    (s.engine.store.toggle id enabled).map fun (rule, store) =>
      (s.setStore store).noteOperation
        ("Rule " ++ rule.id ++ if rule.enabled then " enabled" else " disabled")
  | _ => none

/-- What may happen at a site, in steps that nothing can come between. -/
inductive Move where
  /-- The rules are read, if they were not read before. -/
  | load
  /-- The engine looks at the tree and the commands again. -/
  | refresh
  /-- The engine looks at the tree again and puts new guards. -/
  | sync
  | dispose
  /-- A command is resolved anew. -/
  | bind (command : Option String)
  /-- The picture of the tree goes stale. -/
  | invalidate
  /-- An operation changes the rules; what follows from that are moves of their own. -/
  | edit (operation : Operation)
  /-- The rule file is written, if the rules have a written form. -/
  | save
  | push (subscribers : List String)
  | report (r : Report)
  | message (session : Session)
  | command (session : Session) (command : Option String)
  /-- The host asks the predicate of a context. -/
  | ask (context : String) (session : Session)
  | subscribe (name : String)
  | unsubscribe (name : String)
  /-- The host changes in any way: its tree, its commands, its predicates. -/
  | host (h : Host)

/-- The move is one of the host. -/
def Move.ofHost : Move → Bool
  | .host _ => true
  | _ => false

def move (s : Site) : Move → Site
  | .load => s.load
  | .refresh => s.refresh
  | .sync => s.sync
  | .dispose => s.dispose
  | .bind command => s.bindCommand command
  | .invalidate => s.setResolver s.engine.resolver.invalidate
  | .edit operation => (s.edit? operation).getD s
  | .save => s.save.toOption.getD s
  | .push subscribers => s.push subscribers
  | .report r => s.report r
  | .message session => (s.decideMessage session).2
  | .command session command => (s.decideCommand session command).2
  | .ask context session => ((s.askPredicate context session).map (·.2)).getD s
  | .subscribe name => s.subscribe name
  | .unsubscribe name => s.unsubscribe name
  | .host h => { s with host := h }

def run (s : Site) (moves : List Move) : Site := moves.foldl move s

@[simp] theorem run_nil (s : Site) : s.run [] = s := rfl

@[simp] theorem run_cons (s : Site) (m : Move) (moves : List Move) :
    s.run (m :: moves) = (s.move m).run moves := rfl

theorem run_append (s : Site) (before after : List Move) :
    s.run (before ++ after) = (s.run before).run after := List.foldl_append

/-! ### Operations and events -/

/-- What an operation leaves behind when it changes the rules: the change alone if the rules cannot
be written, and otherwise everything that follows from it. -/
def published (s : Site) (subscribers : List String) : Site :=
  (s.publish subscribers).toOption.getD s

theorem changed_snd (s : Site) (subscribers : List String) (answer : Site → Value) :
    (s.changed subscribers answer).2 = s.published subscribers := by
  unfold changed published
  cases s.publish subscribers <;> rfl

/-- An operation on rules either finds nothing to change, or changes the rules and goes on to what
follows from that. -/
theorem perform_cases (s : Site) (subscribers : List String) {operation : Operation}
    (h : operation.mutates = true) :
    (s.load.edit? operation = none ∧ ∃ v, s.perform subscribers operation = (.ok v, s.load)) ∨
      ∃ e answer, s.load.edit? operation = some e ∧
        s.perform subscribers operation = e.changed subscribers answer := by
  cases operation with
  | create data =>
      simp only [perform, createRule, edit?]
      cases s.load.engine.store.create (if data.fields?.isSome then data else .ofFields [])
        s.load.supply with
      | none => exact .inl ⟨rfl, _, rfl⟩
      | some made => exact .inr ⟨_, _, rfl, rfl⟩
  | update data =>
      simp only [perform, updateRule, edit?]
      cases s.load.engine.store.update data with
      | none => exact .inl ⟨rfl, _, rfl⟩
      | some made => exact .inr ⟨_, _, rfl, rfl⟩
  | delete id =>
      simp only [perform, deleteRule, edit?]
      cases s.load.engine.store.delete id with
      | none => exact .inl ⟨rfl, _, rfl⟩
      | some store => exact .inr ⟨_, _, rfl, rfl⟩
  | reorder ids =>
      simp only [perform, reorderRules, edit?]
      cases s.load.engine.store.reorder ids with
      | none => exact .inl ⟨rfl, _, rfl⟩
      | some store => exact .inr ⟨_, _, rfl, rfl⟩
  | toggle id enabled =>
      simp only [perform, toggleRule, edit?]
      cases s.load.engine.store.toggle id enabled with
      | none => exact .inl ⟨rfl, _, rfl⟩
      | some made => exact .inr ⟨_, _, rfl, rfl⟩
  | listRules | listPlugins | listCommands | nothing => cases h

theorem exists_run_published (s : Site) (subscribers : List String) :
    ∃ moves : List Move, Move.dispose ∉ moves ∧ (∀ m ∈ moves, m.ofHost = false) ∧
      s.published subscribers = s.run moves := by
  unfold published publish commit
  cases hsave : s.save with
  | error fault => exact ⟨[], by simp, by simp, rfl⟩
  | ok t =>
      have hmove : s.move .save = t := by
        simp only [move, hsave]
        rfl
      refine ⟨[.save, .sync, .push subscribers], by simp, by simp [Move.ofHost], ?_⟩
      simp only [run_cons, hmove]
      rfl

/-- An administrative operation is a run, in which the host does nothing and the engine is not
disposed of. -/
theorem exists_run_perform (s : Site) (subscribers : List String) (operation : Operation) :
    ∃ moves : List Move, Move.dispose ∉ moves ∧ (∀ m ∈ moves, m.ofHost = false) ∧
      (s.perform subscribers operation).2 = s.run moves := by
  cases hmutates : operation.mutates with
  | true =>
      rcases perform_cases s subscribers hmutates with
        ⟨-, v, hperform⟩ | ⟨t, answer, hedit, hperform⟩
      · rw [hperform]
        exact ⟨[.load], by simp, by simp [Move.ofHost], rfl⟩
      · obtain ⟨moves, hmoves, hquiet, hrun⟩ := exists_run_published t subscribers
        have hmove : s.load.move (.edit operation) = t := by
          simp only [move, hedit]
          rfl
        refine ⟨.load :: .edit operation :: moves, by simpa using hmoves,
          by simpa [Move.ofHost] using hquiet, ?_⟩
        rw [hperform, changed_snd, run_cons, run_cons]
        exact hrun.trans (congrArg (run · moves) hmove.symm)
  | false =>
      cases operation with
      | listRules => exact ⟨[.load], by simp, by simp [Move.ofHost], rfl⟩
      | listPlugins => exact ⟨[.refresh], by simp, by simp [Move.ofHost], rfl⟩
      | listCommands | nothing => exact ⟨[], by simp, by simp, rfl⟩
      | create | update | delete | reorder | toggle => cases hmutates

/-- What the engine does about an event of the host is a run, in which the host does nothing and the
engine is disposed of only when the event says so. -/
theorem exists_run_handle (s : Site) (event : HostEvent) (command : Option String) :
    ∃ moves : List Move, (Move.dispose ∈ moves ↔ event = .dispose) ∧
      (∀ m ∈ moves, m.ofHost = false) ∧ s.handle event command = s.run moves := by
  cases event with
  | dispose => exact ⟨[.dispose], by simp, by simp [Move.ofHost], rfl⟩
  | commandAdded =>
      let name : Value := .str (Resolver.nameOf s.host command)
      exact ⟨[.bind command, .report (.of "command:added" [("command", name)])], by simp,
        by simp [Move.ofHost], rfl⟩
  | ready => exact ⟨[.invalidate, .sync], by simp, by simp [Move.ofHost], rfl⟩
  | fork => exact ⟨[.invalidate, .sync], by simp, by simp [Move.ofHost], rfl⟩
  | beforeUpdate => exact ⟨[.invalidate, .sync], by simp, by simp [Move.ofHost], rfl⟩
  | update => exact ⟨[.invalidate, .sync], by simp, by simp [Move.ofHost], rfl⟩
  | runtime => exact ⟨[.invalidate, .sync], by simp, by simp [Move.ofHost], rfl⟩

/-! ### What changes little -/

/-- Nothing but the log is different. -/
def OnlyLogs (s t : Site) : Prop := ∃ log, t = { s with log }

/-- Nothing but the store, the supply of ids, and the log is different. -/
def Restocks (s t : Site) : Prop := ∃ store supply, OnlyLogs ({ s with supply }.setStore store) t

/-- Nothing but the resolver and the log is different. -/
def Retunes (s t : Site) : Prop := ∃ resolver, OnlyLogs (s.setResolver resolver) t

namespace OnlyLogs

variable {s t u : Site}

theorem refl (s : Site) : OnlyLogs s s := ⟨s.log, rfl⟩

theorem trans (h₁ : OnlyLogs s t) (h₂ : OnlyLogs t u) : OnlyLogs s u := by
  obtain ⟨_, rfl⟩ := h₁
  obtain ⟨log, rfl⟩ := h₂
  exact ⟨log, rfl⟩

theorem foldl {α : Type} {f : Site → α → Site} (h : ∀ s a, OnlyLogs s (f s a)) (s : Site)
    (as : List α) : OnlyLogs s (as.foldl f s) :=
  List.foldlRecOn as f (refl s) fun t ht a _ => ht.trans (h t a)

theorem engine (h : OnlyLogs s t) : t.engine = s.engine := by
  obtain ⟨_, rfl⟩ := h
  rfl

theorem restocks (h : OnlyLogs s t) : Restocks s t := ⟨s.engine.store, s.supply, h⟩

theorem retunes (h : OnlyLogs s t) : Retunes s t := ⟨s.engine.resolver, h⟩

end OnlyLogs

theorem Restocks.trans {s t u : Site} (h₁ : Restocks s t) (h₂ : Restocks t u) : Restocks s u := by
  obtain ⟨_, _, _, rfl⟩ := h₁
  obtain ⟨store, supply, log, rfl⟩ := h₂
  exact ⟨store, supply, log, rfl⟩

namespace Retunes

theorem trans {s t u : Site} (h₁ : Retunes s t) (h₂ : Retunes t u) : Retunes s u := by
  obtain ⟨_, _, rfl⟩ := h₁
  obtain ⟨resolver, log, rfl⟩ := h₂
  exact ⟨resolver, log, rfl⟩

theorem foldl {α : Type} {f : Site → α → Site} (h : ∀ s a, Retunes s (f s a)) (s : Site)
    (as : List α) : Retunes s (as.foldl f s) :=
  List.foldlRecOn as f (OnlyLogs.refl s).retunes fun t ht a _ => ht.trans (h t a)

end Retunes

/-! The log. -/

theorem reportWith_onlyLogs (details : Bool) (s : Site) (r : Report) :
    OnlyLogs s (s.reportWith details r) := by
  unfold reportWith
  split
  · exact ⟨_, rfl⟩
  · exact .refl s

theorem report_onlyLogs (s : Site) (r : Report) : OnlyLogs s (s.report r) :=
  reportWith_onlyLogs _ s r

theorem reportAll_onlyLogs (s : Site) (reports : List Report) :
    OnlyLogs s (s.reportAll reports) :=
  .foldl report_onlyLogs s reports

theorem traceForeign_onlyLogs {s t : Site} {event : TraceEvent}
    (h : s.traceForeign event = .ok t) : OnlyLogs s t := by
  unfold traceForeign at h
  split at h
  · cases hline : event.line with
    | error fault =>
        rw [hline] at h
        cases h
    | ok line =>
        rw [hline] at h
        cases h
        exact report_onlyLogs s _
  · cases h
    exact .refl s

/-- A decision is told to the log and changes nothing else. -/
theorem decideEvent_onlyLogs (s : Site) (vars : Fields) (kind : TargetKind) (stage : String)
    (incoming : TraceEvent) : OnlyLogs s (s.decideEvent vars kind stage incoming).2 := by
  unfold decideEvent
  cases htrace : s.traceForeign incoming with
  | error fault => exact .refl s
  | ok t => exact (traceForeign_onlyLogs htrace).trans (reportAll_onlyLogs _ _)

theorem decideMessage_onlyLogs (s : Site) (session : Session) :
    OnlyLogs s.load (s.decideMessage session).2 := by
  unfold decideMessage
  dsimp only
  split
  · exact .refl _
  · exact decideEvent_onlyLogs _ _ _ _ _

theorem askPredicate_onlyLogs {s t : Site} {context : String} {session : Session}
    {reply : Reply} (h : s.askPredicate context session = some (reply, t)) : OnlyLogs s t := by
  obtain ⟨p, _, heq⟩ := Option.map_eq_some_iff.1 h
  cases heq
  exact .foldl (fun s e => reportWith_onlyLogs _ s _) s _

/-- Saving writes the rule file, and a failure to the log. -/
theorem saveText_onlyLogs (s : Site) (text : String) :
    OnlyLogs { s with files := (RuleFile.save s.files s.engine.savePath text).1 }
      (s.saveText text) := by
  unfold saveText
  dsimp only
  split
  · exact .refl _
  · exact report_onlyLogs _ _

/-! The store. -/

/-- The change that an operation makes. -/
theorem edit?_restocks {s t : Site} {operation : Operation} (h : s.edit? operation = some t) :
    Restocks s t := by
  cases operation with
  | create data =>
      obtain ⟨⟨rule, store, supply⟩, _, rfl⟩ := Option.map_eq_some_iff.1 h
      exact ⟨store, supply, report_onlyLogs _ _⟩
  | update data =>
      obtain ⟨⟨rule, store⟩, _, rfl⟩ := Option.map_eq_some_iff.1 h
      exact ⟨store, s.supply, report_onlyLogs _ _⟩
  | delete id =>
      obtain ⟨store, _, rfl⟩ := Option.map_eq_some_iff.1 h
      exact ⟨store, s.supply, report_onlyLogs _ _⟩
  | reorder ids =>
      obtain ⟨store, _, rfl⟩ := Option.map_eq_some_iff.1 h
      exact ⟨store, s.supply, .refl _⟩
  | toggle id enabled =>
      obtain ⟨⟨rule, store⟩, _, rfl⟩ := Option.map_eq_some_iff.1 h
      exact ⟨store, s.supply, report_onlyLogs _ _⟩
  | listRules | listPlugins | listCommands | nothing => cases h

theorem setRules_restocks (s : Site) (rules : List Rule) : Restocks s (s.setRules rules) := by
  unfold setRules
  split
  · next store renamings supply _ => exact ⟨store, supply, reportAll_onlyLogs _ _⟩
  · exact (OnlyLogs.refl s).restocks

theorem loadFailed_restocks (s : Site) : Restocks s s.loadFailed :=
  (report_onlyLogs s _).restocks.trans (setRules_restocks _ [])

/-- Reading the rule file puts other rules in place; a file without rules is written when there is
nothing to read them from. -/
theorem loadFrom_cases (s : Site) (path : Path) : ∃ t, Restocks s t ∧
    if (RuleFile.rulesOf (RuleFile.content s.files path) s.supply).1.isSome then
      s.loadFrom path = t
    else s.loadFrom path = t.saveText "[]" := by
  obtain ⟨log, ht⟩ := reportAll_onlyLogs s ((RuleFile.contentEntry? path
    (RuleFile.content s.files path)).toList.map .entry)
  have hset : ∀ supply rules, Restocks s (({ s with log, supply } : Site).setRules rules) :=
    fun supply rules => Restocks.trans ⟨s.engine.store, supply, log, rfl⟩ (setRules_restocks _ rules)
  unfold loadFrom
  dsimp only
  rw [ht]
  dsimp only
  cases (RuleFile.rulesOf (RuleFile.content s.files path) s.supply).1 with
  | some rules => exact ⟨_, (hset _ rules).trans (report_onlyLogs _ _).restocks, rfl⟩
  | none => exact ⟨_, hset _ [], rfl⟩

/-! The resolver. -/

theorem bindCommand_retunes (s : Site) (command : Option String) :
    Retunes s (s.bindCommand command) :=
  ⟨_, reportAll_onlyLogs _ _⟩

/-- Looking at the tree and the commands changes the resolver, once the rules were read. -/
theorem refresh_retunes (s : Site) : Retunes s.load s.refresh := by
  have hrebuild : Retunes s.load s.load.rebuild := ⟨_, reportAll_onlyLogs _ _⟩
  have hbind := Retunes.foldl (fun s (c : String) => bindCommand_retunes s (some c))
    s.load.rebuild s.load.rebuild.commandNames
  exact (hrebuild.trans hbind).trans (report_onlyLogs _ _).retunes

theorem decideCommand_retunes (s : Site) (session : Session) (command : Option String) :
    Retunes s.load (s.decideCommand session command).2 := by
  have hresolved : ∀ (resolver : Resolver) (reports : List Report),
      Retunes s.load ((s.load.setResolver resolver).reportAll reports) :=
    fun resolver reports => ⟨resolver, reportAll_onlyLogs _ reports⟩
  unfold decideCommand
  dsimp only
  split
  · exact hresolved _ _
  · exact (hresolved _ _).trans (decideEvent_onlyLogs _ _ _ _ _).retunes

/-! ### What moves leave alone -/

/-- The host, the guards on it, and the former engines are as they were; and the engine is disposed
of if it was before. -/
structure KeepsGuards (s t : Site) : Prop where
  host : t.host = s.host
  ledger : t.engine.ledger = s.engine.ledger
  disposed : t.engine.disposed = s.engine.disposed
  retired : t.retired = s.retired

namespace KeepsGuards

theorem refl (s : Site) : KeepsGuards s s := ⟨rfl, rfl, rfl, rfl⟩

theorem trans {s t u : Site} (h₁ : KeepsGuards s t) (h₂ : KeepsGuards t u) : KeepsGuards s u where
  host := h₂.host.trans h₁.host
  ledger := h₂.ledger.trans h₁.ledger
  disposed := h₂.disposed.trans h₁.disposed
  retired := h₂.retired.trans h₁.retired

end KeepsGuards

section KeepsGuards

variable {s t : Site}

theorem OnlyLogs.keepsGuards (h : OnlyLogs s t) : KeepsGuards s t := by
  obtain ⟨_, rfl⟩ := h
  exact ⟨rfl, rfl, rfl, rfl⟩

theorem Restocks.keepsGuards (h : Restocks s t) : KeepsGuards s t := by
  obtain ⟨_, _, _, rfl⟩ := h
  exact ⟨rfl, rfl, rfl, rfl⟩

theorem Retunes.keepsGuards (h : Retunes s t) : KeepsGuards s t := by
  obtain ⟨_, _, rfl⟩ := h
  exact ⟨rfl, rfl, rfl, rfl⟩

end KeepsGuards

theorem saveText_keepsGuards (s : Site) (text : String) : KeepsGuards s (s.saveText text) := by
  obtain ⟨_, hsaved⟩ := saveText_onlyLogs s text
  rw [hsaved]
  exact ⟨rfl, rfl, rfl, rfl⟩

theorem loadFrom_keepsGuards (s : Site) (path : Path) : KeepsGuards s (s.loadFrom path) := by
  obtain ⟨t, hread, hload⟩ := loadFrom_cases s path
  split at hload
  · exact hload ▸ hread.keepsGuards
  · exact hload ▸ hread.keepsGuards.trans (saveText_keepsGuards t _)

theorem load_keepsGuards (s : Site) : KeepsGuards s s.load := by
  unfold load
  have hloaded : KeepsGuards s { s with engine := { s.engine with loaded := true } } :=
    ⟨rfl, rfl, rfl, rfl⟩
  split
  · exact .refl s
  · dsimp only
    split
    · exact hloaded.trans (loadFrom_keepsGuards _ _)
    · exact hloaded.trans (loadFailed_restocks _).keepsGuards

/-- Reading the rules changes the files, the supply of ids, the rules and the log. -/
theorem load_shape (s : Site) : ∃ files supply store log, s.load =
    { s with files, supply, log, engine := { s.engine with store, loaded := true } } := by
  unfold load
  split
  · next hloaded =>
      have hsame : { s.engine with loaded := true } = s.engine := by rw [← hloaded]
      exact ⟨s.files, s.supply, s.engine.store, s.log, by rw [hsame]⟩
  · dsimp only
    split
    · next path _ _ =>
        obtain ⟨t, ⟨store, supply, log, rfl⟩, hload⟩ :=
          loadFrom_cases { s with engine := { s.engine with loaded := true } } path
        split at hload
        · exact ⟨_, supply, store, log, hload⟩
        · obtain ⟨saved, hsaved⟩ := saveText_onlyLogs
            { s with supply, log, engine := { s.engine with store, loaded := true } } "[]"
          exact ⟨_, supply, store, saved, hload.trans hsaved⟩
    · obtain ⟨store, supply, log, hfailed⟩ :=
        loadFailed_restocks { s with engine := { s.engine with loaded := true } }
      exact ⟨_, supply, store, log, hfailed⟩

theorem refresh_keepsGuards (s : Site) : KeepsGuards s s.refresh :=
  (load_keepsGuards s).trans (refresh_retunes s).keepsGuards

theorem save_keepsGuards {s t : Site} (h : s.save = .ok t) : KeepsGuards s t := by
  unfold save at h
  cases hrender : RuleFile.render s.rules with
  | error fault =>
      rw [hrender] at h
      cases h
  | ok text =>
      rw [hrender] at h
      cases h
      exact saveText_keepsGuards s text

/-- The move neither puts nor takes guards, and is not one of the host. -/
def Move.isIdle : Move → Bool
  | .sync => false
  | .dispose => false
  | .host _ => false
  | _ => true

/-- All moves but three leave the host and the guards alone. -/
theorem move_keepsGuards (s : Site) {m : Move} (h : m.isIdle = true) : KeepsGuards s (s.move m) := by
  cases m with
  | sync => cases h
  | dispose => cases h
  | host h' => cases h
  | load => exact load_keepsGuards s
  | refresh => exact refresh_keepsGuards s
  | bind command => exact (bindCommand_retunes s command).keepsGuards
  | invalidate => exact ⟨rfl, rfl, rfl, rfl⟩
  | edit operation =>
      cases hedit : s.edit? operation with
      | none =>
          rw [move, hedit]
          exact .refl s
      | some t =>
          rw [move, hedit]
          exact (edit?_restocks hedit).keepsGuards
  | save =>
      cases hsave : s.save with
      | error fault =>
          rw [move, hsave]
          exact .refl s
      | ok t =>
          rw [move, hsave]
          exact save_keepsGuards hsave
  | push subscribers => exact ⟨rfl, rfl, rfl, rfl⟩
  | report r => exact (report_onlyLogs s r).keepsGuards
  | message session =>
      exact (load_keepsGuards s).trans (decideMessage_onlyLogs s session).keepsGuards
  | command session command =>
      exact (load_keepsGuards s).trans (decideCommand_retunes s session command).keepsGuards
  | ask context session =>
      cases hask : s.askPredicate context session with
      | none =>
          rw [move, hask]
          exact .refl s
      | some replied =>
          rw [move, hask]
          exact (askPredicate_onlyLogs hask).keepsGuards
  | subscribe name => exact ⟨rfl, rfl, rfl, rfl⟩
  | unsubscribe name => exact ⟨rfl, rfl, rfl, rfl⟩

/-! ### New guards -/

/-- A round of guards on an engine that was not disposed of. -/
theorem sync_eq_putGuards {s : Site} (h : s.engine.disposed = false) :
    s.sync = s.refresh.putGuards := by
  have hdisposed : s.refresh.engine.disposed = false := (refresh_keepsGuards s).disposed.trans h
  simp only [sync, hdisposed, Bool.false_eq_true, if_false]

/-- The host after a round of guards. -/
theorem putGuards_host (s : Site) :
    s.putGuards.host = (s.engine.ledger.sync s.host s.rules s.host.pluginForks).2.1 :=
  (reportAll_onlyLogs _ _).keepsGuards.host

theorem putGuards_ledger (s : Site) :
    s.putGuards.engine.ledger = (s.engine.ledger.sync s.host s.rules s.host.pluginForks).1 :=
  (reportAll_onlyLogs _ _).keepsGuards.ledger

theorem reportAll_engine (s : Site) (reports : List Report) :
    (s.reportAll reports).engine = s.engine :=
  (reportAll_onlyLogs s reports).engine

/-- Putting guards does not touch the rules. -/
theorem putGuards_rules (s : Site) : s.putGuards.rules = s.rules := by
  rw [rules, putGuards, reportAll_engine]
  rfl

/-- Disposing of the engine takes all guards back. -/
theorem dispose_ledger (s : Site) :
    s.dispose.engine.ledger = (s.engine.ledger.restore s.host).1 :=
  (report_onlyLogs _ _).keepsGuards.ledger

theorem dispose_host (s : Site) : s.dispose.host = (s.engine.ledger.restore s.host).2 :=
  (report_onlyLogs _ _).keepsGuards.host

theorem dispose_disposed (s : Site) : s.dispose.engine.disposed = true :=
  (report_onlyLogs _ _).keepsGuards.disposed

/-- A new round of guards does not revive an engine, nor does it dispose of one. -/
theorem sync_disposed (s : Site) : s.sync.engine.disposed = s.engine.disposed := by
  have hrefresh := (refresh_keepsGuards s).disposed
  unfold sync
  dsimp only
  split
  · exact hrefresh
  · rw [putGuards, reportAll_engine]
    exact hrefresh

/-! ### Whole runs -/

/-- The rules in force are those of the engine in charge. -/
theorem rulesOf_number (s : Site) : s.rulesOf s.engine.number = s.rules := by
  rw [rulesOf, engine?, if_pos rfl, rules]

theorem move_number (s : Site) (m : Move) : (s.move m).engine.number = s.engine.number := by
  by_cases hidle : m.isIdle = true
  · exact congrArg Ledger.owner (move_keepsGuards s hidle).ledger
  · cases m with
    | host h => rfl
    | dispose =>
        rw [move, Engine.number, dispose_ledger]
        rfl
    | sync =>
        have hrefresh : s.refresh.engine.number = s.engine.number :=
          congrArg Ledger.owner (refresh_keepsGuards s).ledger
        rw [move, sync]
        split
        · exact hrefresh
        · rw [Engine.number, putGuards_ledger, Ledger.sync_owner]
          exact hrefresh
    | _ => exact absurd rfl hidle

/-- An engine that was disposed of stays so. -/
theorem move_disposed {s : Site} (h : s.engine.disposed = true) (m : Move) :
    (s.move m).engine.disposed = true := by
  by_cases hidle : m.isIdle = true
  · exact (move_keepsGuards s hidle).disposed.trans h
  · cases m with
    | host h' => exact h
    | dispose => exact dispose_disposed s
    | sync => exact (sync_disposed s).trans h
    | _ => exact absurd rfl hidle

theorem run_disposed {s : Site} (h : s.engine.disposed = true) (moves : List Move) :
    (s.run moves).engine.disposed = true := by
  induction moves generalizing s with
  | nil => exact h
  | cons m moves ih => exact ih (move_disposed h m)

/-- An engine was disposed of when that was one of the moves. -/
theorem run_disposed_of_mem (s : Site) {moves : List Move} (h : Move.dispose ∈ moves) :
    (s.run moves).engine.disposed = true := by
  obtain ⟨before, after, rfl⟩ := List.append_of_mem h
  rw [run_append, run_cons]
  exact run_disposed (dispose_disposed _) after

/-- A run stays with its engine. -/
theorem run_number (s : Site) (moves : List Move) :
    (s.run moves).engine.number = s.engine.number := by
  induction moves generalizing s with
  | nil => rfl
  | cons m moves ih => rw [run_cons, ih, move_number]

/-- The move leaves the given predicate on a context. -/
def Move.Keeps (context : String) (p : Predicate) : Move → Prop
  | .sync => False
  | .dispose => False
  | .host h => h.predicate? context = some p
  | _ => True

theorem move_predicate? {s : Site} {context : String} {p : Predicate} {m : Move}
    (hm : m.Keeps context p) (hs : s.host.predicate? context = some p) :
    (s.move m).host.predicate? context = some p := by
  by_cases hidle : m.isIdle = true
  · rw [(move_keepsGuards s hidle).host, hs]
  · cases m with
    | host h => exact hm
    | sync => exact hm.elim
    | dispose => exact hm.elim
    | _ => exact absurd rfl hidle

/-- A predicate stays on a context as long as there is no new round of guards, the engine is not
disposed of and the host does not replace it. -/
theorem run_predicate? {s : Site} {context : String} {p : Predicate} {moves : List Move}
    (hmoves : ∀ m ∈ moves, m.Keeps context p) (hs : s.host.predicate? context = some p) :
    (s.run moves).host.predicate? context = some p := by
  induction moves generalizing s with
  | nil => exact hs
  | cons m moves ih =>
      rw [List.forall_mem_cons] at hmoves
      exact ih hmoves.2 (move_predicate? hmoves.1 hs)

end Site

end Admission
