import Admission.Proofs.Engine.Run
import Admission.Proofs.File.Tree
import Admission.Proofs.Host.Resolver
import Admission.Proofs.Store.Storable

/-!
# Starting again from the rule file

An engine that starts where another one saved its rules has the same rules, in the same order and
under the same ids.  Its decisions are the same as well: what a decision looks at besides the rules
is the session, what the resolver finds for the command, and whether the log takes details.

Looking at the tree and putting guards, which follow every change of the rules, leave the rules,
their file and the subscribers alone.

Main definitions:

* `Store.Durable` — the rules can be saved, and loaded as they are;
* `Site.KeepsRules` — rules, file and subscribers are untouched;
* `Site.Successor` — a new engine on the same files and a host with the same tree.

Main results:

* `Site.sync_keepsRules` — a new round of guards leaves the rules alone;
* `Site.Unread.load_durable` — whatever the files hold, the rules that are loaded can be saved;
* `Site.Unread.sync_store` — **an engine that starts from the rule file has the same rules**;
* `Site.decideMessage_congr`, `Site.decideCommand_congr` — **the same rules make the same
  decisions**.
-/

set_option autoImplicit false

namespace Admission

/-! ### Rules that last -/

/-- The rules can be saved and loaded as they are. -/
structure Store.Durable (s : Store) : Prop where
  sound : s.Sound
  storable : s.Storable

namespace Store

theorem empty_durable : empty.Durable := ⟨empty_sound, empty_storable⟩

/-- Rules that are made from storable values can be put in place of all others. -/
theorem replace_durable {items : List Value} (hitems : ∀ v ∈ items, v.isStorable = true)
    {supply other rest : Supply} {next : Store} {renamings : List Renaming}
    (h : replace (Rule.ofValues items supply).1 other = some (next, renamings, rest)) :
    next.Durable where
  sound := replace_sound (Rule.ofValues_settled items supply) h
  storable := appendAll_storable (Rule.ofValues_storable hitems supply) empty_storable h

/-- A file with the text of durable rules holds these rules. -/
theorem Durable.rulesOf_content {s : Store} (hs : s.Durable) :
    ∃ text, RuleFile.render s.rules = .ok text ∧
      ∀ (t : FileTree) (path : Path), t.read path.components = .ok text.toUTF8 →
        ∀ supply, RuleFile.rulesOf (RuleFile.content t path) supply = (some s.rules, supply) := by
  obtain ⟨text, hrender, hcontent⟩ := RuleFile.contentOfText_render hs.storable
  refine ⟨text, hrender, ?_⟩
  intro t path hfile supply
  have hback := Rule.ofValues_toValue_of_settled hs.sound.settled supply
  have hitems : RuleFile.content t path = .items (s.rules.map Rule.toValue) := by
    rw [RuleFile.content, hfile]
    simp only [RuleFile.contentOfBytes, RuleFile.fromUTF8?_toUTF8, hcontent]
  rw [hitems, RuleFile.rulesOf, hback]

end Store

/-- The items of a rule file come from JSON, so they are storable. -/
theorem RuleFile.content_storable {t : FileTree} {path : Path} {items : List Value}
    (h : RuleFile.content t path = .items items) : ∀ v ∈ items, v.isStorable = true := by
  unfold content at h
  split at h
  · cases h
  · cases h
  · unfold contentOfBytes at h
    split at h
    · cases h
    · unfold contentOfText at h
      split at h
      · cases h
      · next hread =>
          cases h
          exact Value.areStorable_iff.1 (Json.isStorable_of_read? hread)
      · cases h

namespace Site

/-! ### What leaves the rules alone -/

/-- The rules, their file, and those who want to hear of them are as they were, and the engine is in
charge if it was. -/
structure KeepsRules (s t : Site) : Prop where
  store : t.engine.store = s.engine.store
  loaded : t.engine.loaded = s.engine.loaded
  savePath : t.engine.savePath = s.engine.savePath
  files : t.files = s.files
  subscribers : t.subscribers = s.subscribers
  pushes : t.pushes = s.pushes
  threshold : t.threshold = s.threshold
  disposed : t.engine.disposed = s.engine.disposed

namespace KeepsRules

theorem refl (s : Site) : KeepsRules s s := ⟨rfl, rfl, rfl, rfl, rfl, rfl, rfl, rfl⟩

theorem trans {s t u : Site} (h₁ : KeepsRules s t) (h₂ : KeepsRules t u) : KeepsRules s u where
  store := h₂.store.trans h₁.store
  loaded := h₂.loaded.trans h₁.loaded
  savePath := h₂.savePath.trans h₁.savePath
  files := h₂.files.trans h₁.files
  subscribers := h₂.subscribers.trans h₁.subscribers
  pushes := h₂.pushes.trans h₁.pushes
  threshold := h₂.threshold.trans h₁.threshold
  disposed := h₂.disposed.trans h₁.disposed

end KeepsRules

theorem OnlyLogs.keepsRules {s t : Site} (h : OnlyLogs s t) : KeepsRules s t := by
  obtain ⟨_, rfl⟩ := h
  exact ⟨rfl, rfl, rfl, rfl, rfl, rfl, rfl, rfl⟩

theorem Retunes.keepsRules {s t : Site} (h : Retunes s t) : KeepsRules s t := by
  obtain ⟨_, _, rfl⟩ := h
  exact ⟨rfl, rfl, rfl, rfl, rfl, rfl, rfl, rfl⟩

theorem load_of_loaded {s : Site} (h : s.engine.loaded = true) : s.load = s := if_pos h

/-- Looking at the tree leaves the rules alone once they were read. -/
theorem refresh_keepsRules (s : Site) : KeepsRules s.load s.refresh :=
  (refresh_retunes s).keepsRules

theorem setGuards_keepsRules (s : Site) (ledger : Ledger) (host : Host) :
    KeepsRules s (s.setGuards ledger host) :=
  ⟨rfl, rfl, rfl, rfl, rfl, rfl, rfl, rfl⟩

theorem putGuards_keepsRules (s : Site) : KeepsRules s s.putGuards :=
  (setGuards_keepsRules s _ _).trans (reportAll_onlyLogs _ _).keepsRules

/-- And so does a new round of guards. -/
theorem sync_keepsRules (s : Site) : KeepsRules s.load s.sync := by
  unfold sync
  dsimp only
  split
  · exact refresh_keepsRules s
  · exact (refresh_keepsRules s).trans (putGuards_keepsRules _)

/-! ### What leaves the resolver faithful -/

/-- The resolver of the engine agrees with the host. -/
def InTune (s : Site) : Prop := s.engine.resolver.Faithful s.host

theorem InTune.of_engine {s t : Site} (hs : s.InTune) (hhost : t.host = s.host)
    (hresolver : t.engine.resolver = s.engine.resolver) : t.InTune := by
  rw [InTune, hhost, hresolver]
  exact hs

theorem InTune.reportAll {s : Site} (hs : s.InTune) (reports : List Report) :
    (s.reportAll reports).InTune :=
  hs.of_engine (reportAll_onlyLogs s reports).keepsGuards.host (by rw [reportAll_engine])

theorem InTune.report {s : Site} (hs : s.InTune) (r : Report) : (s.report r).InTune :=
  hs.reportAll [r]

theorem InTune.setResolver {s : Site} {resolver : Resolver} (h : resolver.Faithful s.host) :
    (s.setResolver resolver).InTune := h

theorem InTune.bindCommand {s : Site} (hs : s.InTune) (command : Option String) :
    (s.bindCommand command).InTune :=
  (InTune.setResolver (Resolver.Faithful.bind hs command)).reportAll _

theorem InTune.rebuild {s : Site} (hs : s.InTune) : s.rebuild.InTune :=
  (InTune.setResolver (Resolver.Faithful.rebuild hs)).reportAll _

/-- Looking at the tree leaves a faithful resolver. -/
theorem InTune.refresh {s : Site} (hs : s.load.InTune) : s.refresh.InTune := by
  have hbind : ∀ (commands : List String) (t : Site), t.InTune →
      (commands.foldl (fun s c => s.bindCommand (some c)) t).InTune := by
    intro commands
    induction commands with
    | nil => exact fun _ ht => ht
    | cons c rest ih => exact fun t ht => ih _ (ht.bindCommand (some c))
  exact (hbind _ _ hs.rebuild).report _

theorem InTune.putGuards {s : Site} (hs : s.InTune) : s.putGuards.InTune := by
  have htree : Host.SameTree s.host
      (s.engine.ledger.sync s.host s.rules s.host.pluginForks).2.1 := Ledger.sync_sameTree _ _ _ _
  have hset : (s.setGuards (s.engine.ledger.sync s.host s.rules s.host.pluginForks).1
      (s.engine.ledger.sync s.host s.rules s.host.pluginForks).2.1).InTune :=
    Resolver.Faithful.of_sameRoutes htree.sameRoutes hs
  exact hset.reportAll _

/-- A new round of guards leaves a faithful resolver, since it changes no more than predicates. -/
theorem InTune.sync {s : Site} (hs : s.load.InTune) : s.sync.InTune := by
  unfold Site.sync
  dsimp only
  split
  · exact hs.refresh
  · exact hs.refresh.putGuards

/-! ### Reading the rules -/

theorem report_engine (s : Site) (r : Report) : (s.report r).engine = s.engine :=
  (report_onlyLogs s r).engine

theorem saveText_engine (s : Site) (text : String) : (s.saveText text).engine = s.engine :=
  (saveText_onlyLogs s text).engine

/-- The store when rules are put in place of all others, unless the search for a free id does not
end. -/
theorem setRules_engine (s : Site) (rules : List Rule) :
    (s.setRules rules).engine = { s.engine with
      store := ((Store.replace rules s.supply).map (·.1)).getD s.engine.store } := by
  unfold setRules
  cases Store.replace rules s.supply with
  | none => rfl
  | some replaced => exact reportAll_engine _ _

/-- Reading the rule file puts the rules that it holds in place of all others. -/
theorem loadFrom_engine (s : Site) (path : Path) : ∃ (t : Site) (supply : Supply),
    t.engine = s.engine ∧ (s.loadFrom path).engine =
      (t.setRules ((RuleFile.rulesOf (RuleFile.content s.files path) supply).1.getD [])).engine := by
  obtain ⟨t, ht⟩ : ∃ t, s.reportAll ((RuleFile.contentEntry? path
    (RuleFile.content s.files path)).toList.map .entry) = t := ⟨_, rfl⟩
  have hengine : t.engine = s.engine := ht ▸ reportAll_engine s _
  refine ⟨{ t with supply := (RuleFile.rulesOf (RuleFile.content s.files path) t.supply).2 },
    t.supply, hengine, ?_⟩
  unfold loadFrom
  dsimp only
  rw [ht]
  split
  · next hrules =>
      rw [hrules]
      exact report_engine _ _
  · next hrules =>
      rw [hrules]
      exact saveText_engine _ _

theorem Restocks.threshold {s t : Site} (h : Restocks s t) : t.threshold = s.threshold := by
  obtain ⟨_, _, _, rfl⟩ := h
  rfl

theorem Restocks.loaded {s t : Site} (h : Restocks s t) :
    t.engine.loaded = s.engine.loaded := by
  obtain ⟨_, _, _, rfl⟩ := h
  rfl

theorem loadFrom_loaded (s : Site) (path : Path) :
    (s.loadFrom path).engine.loaded = s.engine.loaded := by
  obtain ⟨t, hread, hload⟩ := loadFrom_cases s path
  split at hload
  · rw [hload, hread.loaded]
  · rw [hload, saveText_engine, hread.loaded]

/-- Whatever comes of it, the rules count as read afterwards. -/
theorem load_loaded (s : Site) : s.load.engine.loaded = true := by
  unfold load
  split
  · next h => exact h
  · dsimp only
    split
    · exact loadFrom_loaded _ _
    · exact (loadFailed_restocks _).loaded

theorem loadFrom_threshold (s : Site) (path : Path) :
    (s.loadFrom path).threshold = s.threshold := by
  obtain ⟨t, hread, hload⟩ := loadFrom_cases s path
  split at hload
  · rw [hload, hread.threshold]
  · rw [hload, (saveText_onlyLogs t _).keepsRules.threshold]
    exact hread.threshold

theorem sync_loaded (s : Site) : s.sync.engine.loaded = true :=
  (sync_keepsRules s).loaded.trans s.load_loaded

/-- An engine that has done nothing yet, and that is to read its rules from a path. -/
structure Unread (path : Path) (s : Site) : Prop where
  engine : ∃ number settings, settings.rulesPath? = some path ∧ s.engine = .start number settings
  reads : s.loadFails = false

namespace Unread

variable {path : Path} {s : Site}

theorem load_eq (h : s.Unread path) :
    s.load = ({ s with engine := { s.engine with loaded := true } } : Site).loadFrom path := by
  obtain ⟨number, settings, hpath, hengine⟩ := h.engine
  have hsettings : s.engine.settings.rulesPath? = some path := by
    rw [hengine]
    exact hpath
  have hloaded : s.engine.loaded = false := by
    rw [hengine]
    rfl
  simp only [load, hloaded, h.reads, hsettings, Bool.false_eq_true, if_false]

/-- What such an engine has after it read its rules. -/
theorem load_engine (h : s.Unread path) : ∃ (number : Nat) (settings : Settings)
    (supply other : Supply), settings.rulesPath? = some path ∧ s.load.engine =
      { Engine.start number settings with
        loaded := true
        store := ((Store.replace ((RuleFile.rulesOf (RuleFile.content s.files path) supply).1.getD [])
          other).map (·.1)).getD Store.empty } := by
  obtain ⟨number, settings, hpath, hengine⟩ := h.engine
  obtain ⟨t, supply, ht, hload⟩ :=
    loadFrom_engine { s with engine := { s.engine with loaded := true } } path
  refine ⟨number, settings, supply, t.supply, hpath, ?_⟩
  rw [h.load_eq, hload, setRules_engine, ht]
  simp only [hengine]
  rfl

theorem load_disposed (h : s.Unread path) : s.load.engine.disposed = false := by
  obtain ⟨_, _, _, _, -, hload⟩ := h.load_engine
  rw [hload]
  rfl

/-- The rules are saved where they were read from. -/
theorem load_savePath (h : s.Unread path) : s.load.engine.savePath = path := by
  obtain ⟨_, settings, _, _, hpath, hload⟩ := h.load_engine
  rw [hload]
  change settings.rulesPath?.getD _ = path
  rw [hpath, Option.getD_some]

theorem load_inTune (h : s.Unread path) : s.load.InTune := by
  obtain ⟨_, _, _, _, -, hload⟩ := h.load_engine
  rw [InTune, hload]
  exact Resolver.empty_faithful _

/-- Whatever the file holds, the rules that are read from it can be saved. -/
theorem load_durable (h : s.Unread path) : s.load.engine.store.Durable := by
  obtain ⟨_, _, supply, other, -, hload⟩ := h.load_engine
  rw [hload]
  have hitems : ∃ items, (∀ v ∈ items, v.isStorable = true) ∧
      (RuleFile.rulesOf (RuleFile.content s.files path) supply).1.getD [] =
        (Rule.ofValues items supply).1 := by
    cases hcontent : RuleFile.content s.files path with
    | items items => exact ⟨items, RuleFile.content_storable hcontent, rfl⟩
    | missing => exact ⟨[], nofun, rfl⟩
    | unreadable => exact ⟨[], nofun, rfl⟩
    | other => exact ⟨[], nofun, rfl⟩
  obtain ⟨items, hstorable, hrules⟩ := hitems
  rw [hrules]
  dsimp only
  cases hreplace : Store.replace (Rule.ofValues items supply).1 other with
  | none => exact Store.empty_durable
  | some replaced => exact Store.replace_durable hstorable hreplace

/-- What was saved is read as it was. -/
theorem load_store (h : s.Unread path) {store : Store} (hstore : store.Durable) {text : String}
    (hrender : RuleFile.render store.rules = .ok text)
    (hfile : s.files.read path.components = .ok text.toUTF8) : s.load.engine.store = store := by
  obtain ⟨_, _, supply, other, -, hload⟩ := h.load_engine
  obtain ⟨text', hrender', hread⟩ := hstore.rulesOf_content
  rw [hrender] at hrender'
  cases hrender'
  rw [hload, hread s.files path hfile supply]
  dsimp only
  rw [Option.getD_some, Store.replace_of_nodup hstore.sound.ids_nodup]
  rfl

/-- Reading the rules does not change what the log takes. -/
theorem load_threshold (h : s.Unread path) : s.load.threshold = s.threshold := by
  rw [h.load_eq]
  exact loadFrom_threshold _ path

theorem sync_store (h : s.Unread path) {store : Store} (hstore : store.Durable) {text : String}
    (hrender : RuleFile.render store.rules = .ok text)
    (hfile : s.files.read path.components = .ok text.toUTF8) : s.sync.engine.store = store :=
  (sync_keepsRules s).store.trans (h.load_store hstore hrender hfile)

theorem sync_disposed (h : s.Unread path) : s.sync.engine.disposed = false :=
  (sync_keepsRules s).disposed.trans h.load_disposed

theorem sync_threshold (h : s.Unread path) : s.sync.threshold = s.threshold :=
  (sync_keepsRules s).threshold.trans h.load_threshold

end Unread

/-- A new engine on a site with the same files and a host with the same tree. -/
structure Successor (path : Path) (t u : Site) : Prop extends u.Unread path where
  files : u.files = t.files
  tree : Host.SameTree t.host u.host
  threshold : u.threshold = t.threshold

/-- A program that is started once more makes one. -/
theorem start_successor {path : Path} (t : Site) {settings : Settings} (supply : Supply)
    (hpath : settings.rulesPath? = some path) :
    t.Successor path (start t.host t.files supply settings false t.threshold) where
  engine := ⟨0, settings, hpath, rfl⟩
  reads := rfl
  files := rfl
  tree := .refl t.host
  threshold := rfl

/-- An engine that takes over is one. -/
theorem restart_successor {path : Path} {t : Site} {settings : Settings}
    (hpath : settings.rulesPath? = some path) (hreads : t.loadFails = false) :
    t.Successor path (t.restart settings) where
  engine := ⟨_, settings, hpath, rfl⟩
  reads := hreads
  files := rfl
  tree := .refl t.host
  threshold := rfl

/-! ### Decisions -/

/-- A decision is announced in the log, if the log takes details, and is otherwise the one of the
rules. -/
theorem decideEvent_fst (s : Site) (vars : Fields) (kind : TargetKind) (stage : String)
    {incoming : TraceEvent} (hstage : TraceEvent.raisedStages.contains incoming.stage = false) :
    (s.decideEvent vars kind stage incoming).1 =
      (if LogLevel.debug.passes s.threshold then incoming.line.map fun _ => () else .ok ()).bind
        fun _ => (Decision.forEvent s.rules vars kind stage).2 := by
  have hlevel : incoming.level s.engine.details = .debug := by
    rw [TraceEvent.level, hstage, Bool.and_false, Bool.false_and]
    rfl
  rw [decideEvent, traceForeign, Report.line?, Report.level, hlevel]
  cases LogLevel.debug.passes s.threshold with
  | false => rfl
  | true =>
      cases incoming.line with
      | error fault => rfl
      | ok line =>
          have hrules : (s.report (.trace incoming)).rules = s.rules := by
            rw [rules, report_engine]
            rfl
          change (Decision.forEvent (s.report (.trace incoming)).rules vars kind stage).2 = _
          rw [hrules]
          rfl

/-- A decision about a command goes by what the resolver finds for it. -/
theorem decideCommand_fst {s : Site} (hs : s.engine.loaded = true) (session : Session)
    (command : Option String) :
    (s.decideCommand session command).1 =
      (session.varsWith (commandVars (Resolver.nameOf s.host command)
        (s.engine.resolver.byCommand s.host command).1)).bind fun vars =>
          (s.decideEvent vars .commands "command" (commandEvent vars s.rules.length)).1 := by
  rcases hresolve : s.engine.resolver.byCommand s.host command with ⟨plugin, resolver, reports⟩
  obtain ⟨t, ht⟩ : ∃ t, (s.setResolver resolver).reportAll reports = t := ⟨_, rfl⟩
  have htunes : Retunes s t := ht ▸ ⟨resolver, reportAll_onlyLogs _ _⟩
  have hkeeps := htunes.keepsRules
  have hrules : t.rules = s.rules := congrArg Store.rules hkeeps.store
  rw [decideCommand, load_of_loaded hs]
  dsimp only
  rw [hresolve]
  dsimp only
  rw [ht, htunes.keepsGuards.host]
  cases session.varsWith (commandVars (Resolver.nameOf s.host command) plugin) with
  | error fault => rfl
  | ok vars =>
      dsimp only [Except.bind]
      rw [decideEvent_fst t _ _ _ rfl, decideEvent_fst s _ _ _ rfl, hrules, hkeeps.threshold]

section Decisions

variable {s t : Site} (hs : s.engine.loaded = true) (ht : t.engine.loaded = true)
  (hrules : t.rules = s.rules) (hthreshold : t.threshold = s.threshold)

include hs ht hrules hthreshold

/-- Sites with the same rules decide alike about messages. -/
theorem decideMessage_congr (session : Session) :
    (t.decideMessage session).1 = (s.decideMessage session).1 := by
  rw [decideMessage, decideMessage, load_of_loaded hs, load_of_loaded ht]
  cases session.vars with
  | error fault => rfl
  | ok vars =>
      dsimp only
      rw [decideEvent_fst t _ _ _ rfl, decideEvent_fst s _ _ _ rfl, hrules, hthreshold]

/-- Sites with the same rules and the same tree decide alike about a command for which their
resolvers find the same. -/
theorem decideCommand_congr (htree : Host.SameTree s.host t.host) (session : Session)
    {command : Option String} (hfound : (t.engine.resolver.byCommand t.host command).1 =
      (s.engine.resolver.byCommand s.host command).1) :
    (t.decideCommand session command).1 = (s.decideCommand session command).1 := by
  rw [decideCommand_fst hs, decideCommand_fst ht, Resolver.nameOf_congr htree, hfound]
  congr 1
  funext vars
  rw [decideEvent_fst t _ _ _ rfl, decideEvent_fst s _ _ _ rfl, hrules, hthreshold]

end Decisions

end Site

end Admission
