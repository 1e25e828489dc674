import Admission.Proofs.Operation.Edit

/-!
# Sites that can come about

A site starts on a host with some files, and then anything may happen in any order: what the engine
does of itself and on behalf of administrators, changes of the host, changes of the files and of the
settings by somebody else, and new engines that take over.  Whatever happens, the ids of the rules
tell them apart, and none is empty.

Main definitions:

* `Site.Reachable` — the sites that can come about.

Main results:

* `Site.move_sound`, `Site.Reachable.sound` — **the rules of such a site are sound**;
* `Site.Reachable.perform`, `Site.Reachable.handle` — operations and events lead to such sites.
-/

set_option autoImplicit false

namespace Admission

/-- The rules that are made from what is found at the path of a rule file are settled. -/
theorem RuleFile.rulesOf_settled (content : Content) (supply : Supply) :
    ∀ r ∈ (rulesOf content supply).1.getD [], r.Settled := by
  cases content with
  | items values => exact Rule.ofValues_settled values supply
  | missing | unreadable | other => exact nofun

namespace Site

/-- The sites that can come about. -/
inductive Reachable : Site → Prop where
  | start (host : Host) (files : FileTree) (supply : Supply) (settings : Settings)
      (loadFails : Bool) (threshold : LogLevel) :
      Reachable (.start host files supply settings loadFails threshold)
  | move {s : Site} (m : Move) (h : Reachable s) : Reachable (s.move m)
  /-- A new engine takes over. -/
  | restart {s : Site} (settings : Settings) (h : Reachable s) : Reachable (s.restart settings)
  /-- Somebody else changes the files. -/
  | files {s : Site} (files : FileTree) (h : Reachable s) : Reachable { s with files }
  /-- Somebody else puts rules in place of all others. -/
  | rules {s : Site} (rules : List Rule) (hrules : ∀ r ∈ rules, r.Settled) (h : Reachable s) :
      Reachable (s.setRules rules)
  /-- Somebody else changes a setting. -/
  | assign {s : Site} (name : String) (v : Value) (h : Reachable s) :
      Reachable (s.assignSetting name v)

variable {s t : Site}

/-! ### The rules stay sound -/

theorem setRules_sound (hs : s.engine.store.Sound) {rules : List Rule}
    (hrules : ∀ r ∈ rules, r.Settled) : (s.setRules rules).engine.store.Sound := by
  rw [setRules_engine]
  dsimp only
  cases hreplace : Store.replace rules s.supply with
  | none => exact hs
  | some replaced => exact Store.replace_sound hrules hreplace

theorem loadFrom_sound (hs : s.engine.store.Sound) (path : Path) :
    (s.loadFrom path).engine.store.Sound := by
  obtain ⟨t, supply, hengine, hload⟩ := loadFrom_engine s path
  rw [hload]
  exact setRules_sound (hengine ▸ hs) (RuleFile.rulesOf_settled _ _)

theorem loadFailed_sound (hs : s.engine.store.Sound) : s.loadFailed.engine.store.Sound := by
  refine setRules_sound ?_ nofun
  rw [note, report_engine]
  exact hs

theorem load_sound (hs : s.engine.store.Sound) : s.load.engine.store.Sound := by
  unfold load
  split
  · exact hs
  · dsimp only
    split
    · exact loadFrom_sound (s := { s with engine := { s.engine with loaded := true } }) hs _
    · exact loadFailed_sound (s := { s with engine := { s.engine with loaded := true } }) hs

theorem edit?_sound (hs : s.engine.store.Sound) {operation : Operation}
    (h : s.edit? operation = some t) : t.engine.store.Sound := by
  cases operation with
  | create data =>
      obtain ⟨⟨rule, store, supply⟩, hcreate, rfl⟩ := Option.map_eq_some_iff.1 h
      rw [noteOperation_engine]
      exact Store.create_sound hs hcreate
  | update data =>
      obtain ⟨⟨rule, store⟩, hupdate, rfl⟩ := Option.map_eq_some_iff.1 h
      rw [noteOperation_engine]
      exact Store.update_sound hs hupdate
  | delete id =>
      obtain ⟨store, hdelete, rfl⟩ := Option.map_eq_some_iff.1 h
      rw [noteOperation_engine]
      exact Store.delete_sound hs hdelete
  | reorder ids =>
      obtain ⟨store, hreorder, rfl⟩ := Option.map_eq_some_iff.1 h
      exact Store.reorder_sound hs hreorder
  | toggle id enabled =>
      obtain ⟨⟨rule, store⟩, htoggle, rfl⟩ := Option.map_eq_some_iff.1 h
      rw [noteOperation_engine]
      exact Store.toggle_sound hs htoggle
  | listRules | listPlugins | listCommands | nothing => cases h

/-- Whatever happens, the rules stay sound. -/
theorem move_sound (hs : s.engine.store.Sound) (m : Move) :
    (s.move m).engine.store.Sound := by
  have hlogs : ∀ {u : Site}, OnlyLogs s u → u.engine.store.Sound := fun h => h.engine ▸ hs
  cases m with
  | load => exact load_sound hs
  | refresh => exact (refresh_keepsRules s).store ▸ load_sound hs
  | sync => exact (sync_keepsRules s).store ▸ load_sound hs
  | dispose =>
      change (Site.report _ _).engine.store.Sound
      rw [report_engine]
      exact hs
  | bind command => exact (bindCommand_retunes s command).keepsRules.store ▸ hs
  | edit operation =>
      cases hedit : s.edit? operation with
      | none =>
          rw [move, hedit]
          exact hs
      | some e =>
          rw [move, hedit]
          exact edit?_sound hs hedit
  | save =>
      rw [move, save]
      cases RuleFile.render s.rules with
      | error fault => exact hs
      | ok text =>
          change (s.saveText text).engine.store.Sound
          rw [saveText_engine]
          exact hs
  | report r => exact hlogs (report_onlyLogs s r)
  | message session =>
      obtain ⟨_, hmessage⟩ := decideMessage_onlyLogs s session
      rw [move, hmessage]
      exact load_sound hs
  | command session command =>
      exact (decideCommand_retunes s session command).keepsRules.store ▸ load_sound hs
  | ask context session =>
      rw [move]
      cases hask : s.askPredicate context session with
      | none => exact hs
      | some asked => exact hlogs (askPredicate_onlyLogs hask)
  | invalidate | push _ | subscribe _ | unsubscribe _ | host _ => exact hs

/-- **The rules of a site that can come about are sound.** -/
theorem Reachable.sound (h : s.Reachable) : s.engine.store.Sound := by
  induction h with
  | start => exact Store.empty_sound
  | move m _ ih => exact move_sound ih m
  | restart => exact Store.empty_sound
  | files _ _ ih => exact ih
  | rules _ hrules _ ih => exact setRules_sound ih hrules
  | assign _ _ _ ih => exact ih

/-! ### What leads to such sites -/

namespace Reachable

theorem run (h : s.Reachable) (moves : List Move) : (s.run moves).Reachable := by
  induction moves generalizing s with
  | nil => exact h
  | cons m moves ih => exact ih (h.move m)

theorem perform (h : s.Reachable) (subscribers : List String) (operation : Operation) :
    (s.perform subscribers operation).2.Reachable := by
  obtain ⟨moves, -, -, hrun⟩ := exists_run_perform s subscribers operation
  rw [hrun]
  exact h.run moves

theorem handle (h : s.Reachable) (event : HostEvent) (command : Option String) :
    (s.handle event command).Reachable := by
  obtain ⟨moves, -, -, hrun⟩ := exists_run_handle s event command
  rw [hrun]
  exact h.run moves

end Reachable

end Site

end Admission
