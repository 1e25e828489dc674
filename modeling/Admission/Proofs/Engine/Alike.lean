import Admission.Proofs.Engine.Restart
import Admission.Proofs.Rule.InForce

/-!
# Sites that cannot be told apart

Two sites on the same host, whose engines differ in the rules alone and have the same rules in
force, go on in the same way: their engines look at the tree with the same outcome, put the same
guards, decide alike, and the predicates of their hosts reply alike.  The files, the log and what
the subscribers were told may differ.

How many rules there are is traced when a decision is due, which fails when the number has no
written form; sites are told apart by that alone.

Main definitions:

* `Site.Alike` — what two sites have in common;
* `Site.Indistinct` — sites that nobody can tell apart.

Main results:

* `Site.Alike.sync`, `Site.Alike.published` — sites stay alike;
* `Site.Alike.indistinct` — **sites that are alike cannot be told apart**.
-/

set_option autoImplicit false

namespace Admission

/-! ### The number of rules in a trace -/

section Counts

variable {n m : Nat} (h : Integer.isWritable (n : Int) = Integer.isWritable (m : Int))

include h

/-- Whether entries can be written depends on a number in the end only by its having a written
form. -/
theorem Json.writeEntries_count (style : Style) (depth : Nat) (entries : Fields) (key : String) :
    ((writeEntries style depth (entries ++ [(key, TraceEvent.count n)])).mapM id).map
        (fun _ => ()) =
      ((writeEntries style depth (entries ++ [(key, TraceEvent.count m)])).mapM id).map
        fun _ => () := by
  induction entries with
  | nil =>
      simp only [List.nil_append, writeEntries, write, TraceEvent.count, Integer.decimal?, h]
      split <;> rfl
  | cons e rest ih =>
      obtain ⟨k, v⟩ := e
      rw [List.cons_append, List.cons_append, writeEntries, writeEntries, List.mapM_cons,
        List.mapM_cons]
      cases write style depth v with
      | error fault => rfl
      | ok text =>
          cases hn : (writeEntries style depth (rest ++ [(key, TraceEvent.count n)])).mapM id <;>
            cases hm : (writeEntries style depth (rest ++ [(key, TraceEvent.count m)])).mapM id <;>
              rw [hn, hm] at ih <;> cases ih <;> rfl

theorem TraceEvent.line_count (stage : String) (entries : Fields) (key : String) :
    (line ⟨stage, entries ++ [(key, count n)]⟩).map (fun _ => ()) =
      (line ⟨stage, entries ++ [(key, count m)]⟩).map fun _ => () := by
  have hwritten := Json.writeEntries_count h payloadStyle 1 entries key
  simp only [line, Json.render, Json.write, Json.writeOthers, Value.interleave]
  cases hn : (Json.writeEntries payloadStyle 1 (entries ++ [(key, count n)])).mapM id <;>
    cases hm : (Json.writeEntries payloadStyle 1 (entries ++ [(key, count m)])).mapM id <;>
      rw [hn, hm] at hwritten <;> cases hwritten <;> rfl

end Counts

namespace Site

/-- The sites are on the same host, and their engines have the same rules in force and agree in
everything but the rules. -/
structure Alike (s t : Site) : Prop where
  host : t.host = s.host
  retired : t.retired = s.retired
  threshold : t.threshold = s.threshold
  engine : t.engine = { s.engine with store := t.engine.store }
  rules : Rule.inForce t.rules = Rule.inForce s.rules

/-- Nobody can tell the sites apart: their engines decide alike, the same guards stand before the
predicates of the same host, and the predicates reply alike. -/
structure Indistinct (s t : Site) : Prop where
  message : ∀ session, (t.decideMessage session).1 = (s.decideMessage session).1
  command : ∀ session command,
    (t.decideCommand session command).1 = (s.decideCommand session command).1
  host : t.host = s.host
  ledger : t.engine.ledger = s.engine.ledger
  reply : ∀ context session,
    (t.askPredicate context session).map (·.1) = (s.askPredicate context session).map (·.1)

namespace Alike

variable {s t s' t' : Site}

theorem resolver (h : Alike s t) : t.engine.resolver = s.engine.resolver := by rw [h.engine]

theorem ledger (h : Alike s t) : t.engine.ledger = s.engine.ledger := by rw [h.engine]

theorem loaded (h : Alike s t) : t.engine.loaded = s.engine.loaded := by rw [h.engine]

theorem disposed (h : Alike s t) : t.engine.disposed = s.engine.disposed := by rw [h.engine]

theorem symm (h : Alike s t) : Alike t s where
  host := h.host.symm
  retired := h.retired.symm
  threshold := h.threshold.symm
  engine := by rw [h.engine]
  rules := h.rules.symm

/-! ### What keeps sites alike -/

/-- The log may differ. -/
theorem log (h : Alike s t) (hs : OnlyLogs s s') (ht : OnlyLogs t t') : Alike s' t' := by
  obtain ⟨_, rfl⟩ := hs
  obtain ⟨_, rfl⟩ := ht
  exact ⟨h.host, h.retired, h.threshold, h.engine, h.rules⟩

theorem setResolver (h : Alike s t) (resolver : Resolver) :
    Alike (s.setResolver resolver) (t.setResolver resolver) where
  host := h.host
  retired := h.retired
  threshold := h.threshold
  engine := by
    change { t.engine with resolver } = _
    rw [h.engine]
    rfl
  rules := h.rules

theorem setGuards (h : Alike s t) (ledger : Ledger) (host : Host) :
    Alike (s.setGuards ledger host) (t.setGuards ledger host) where
  host := rfl
  retired := h.retired
  threshold := h.threshold
  engine := by
    change { t.engine with ledger } = _
    rw [h.engine]
    rfl
  rules := h.rules

/-- Nor does the rule file matter. -/
theorem saveText (h : Alike s t) (text : String) : Alike (s.saveText text) t := by
  have hfiles : ∀ files : FileTree, Alike { s with files } t :=
    fun _ => ⟨h.host, h.retired, h.threshold, h.engine, h.rules⟩
  exact (hfiles _).log (saveText_onlyLogs s text) (.refl t)

/-- Nor what the subscribers were told. -/
theorem push (h : Alike s t) (subscribers : List String) : Alike (s.push subscribers) t :=
  ⟨h.host, h.retired, h.threshold, h.engine, h.rules⟩

theorem bindCommand (h : Alike s t) (command : Option String) :
    Alike (s.bindCommand command) (t.bindCommand command) := by
  rw [Site.bindCommand, Site.bindCommand, h.resolver, h.host]
  exact (h.setResolver _).log (reportAll_onlyLogs _ _) (reportAll_onlyLogs _ _)

theorem rebuild (h : Alike s t) : Alike s.rebuild t.rebuild := by
  rw [Site.rebuild, Site.rebuild, h.resolver, h.host]
  exact (h.setResolver _).log (reportAll_onlyLogs _ _) (reportAll_onlyLogs _ _)

theorem bindCommands (h : Alike s t) (commands : List String) :
    Alike (commands.foldl (fun s c => s.bindCommand (some c)) s)
      (commands.foldl (fun t c => t.bindCommand (some c)) t) := by
  induction commands generalizing s t with
  | nil => exact h
  | cons command rest ih => exact ih (h.bindCommand (some command))

theorem refresh (h : Alike s t) (hs : s.engine.loaded = true) : Alike s.refresh t.refresh := by
  have hcommands : t.rebuild.commandNames = s.rebuild.commandNames := by
    rw [commandNames, commandNames, h.rebuild.host]
  rw [Site.refresh, Site.refresh, load_of_loaded hs, load_of_loaded (h.loaded.trans hs), hcommands]
  exact (h.rebuild.bindCommands _).log (report_onlyLogs _ _) (report_onlyLogs _ _)

theorem putGuards (h : Alike s t) : Alike s.putGuards t.putGuards := by
  rw [Site.putGuards, Site.putGuards, h.ledger, h.host, Ledger.sync_congr h.rules]
  exact (h.setGuards _ _).log (reportAll_onlyLogs _ _) (reportAll_onlyLogs _ _)

/-- Sites that are alike stay so when their engines look at the tree and put guards. -/
theorem sync (h : Alike s t) (hs : s.engine.loaded = true) : Alike s.sync t.sync := by
  have hrefreshed := h.refresh hs
  rw [Site.sync, Site.sync, hrefreshed.disposed]
  split
  · exact hrefreshed
  · exact hrefreshed.putGuards

/-- Sites that are alike stay so when a change is published, unless that stops at one of them
alone. -/
theorem published (h : Alike s t) (hs : s.engine.loaded = true) (subscribers : List String)
    (hok : (t.publish subscribers).isOk = (s.publish subscribers).isOk) :
    Alike (s.published subscribers) (t.published subscribers) := by
  rw [Site.published, Site.published, publish, publish, commit, commit, save, save]
  rw [publish, publish, commit, commit, save, save] at hok
  cases hrender : RuleFile.render s.rules with
  | error fault =>
      rw [hrender] at hok
      cases hrender' : RuleFile.render t.rules with
      | error fault' => exact h
      | ok text' =>
          rw [hrender'] at hok
          cases hok
  | ok text =>
      rw [hrender] at hok
      cases hrender' : RuleFile.render t.rules with
      | error fault' =>
          rw [hrender'] at hok
          cases hok
      | ok text' =>
          have hsaved : (s.saveText text).engine.loaded = true := by rw [saveText_engine, hs]
          -- the two texts differ, since one of the stores has a rule more
          have hsynced := ((h.saveText text).symm.saveText text').symm.sync hsaved
          exact ((hsynced.push subscribers).symm.push subscribers).symm

end Alike

/-! ### Sites that are alike answer alike -/

/-- Decisions about a message depend on the rules in force and on what can be traced. -/
theorem decideMessage_of_inForce {s t : Site} (hs : s.engine.loaded = true)
    (ht : t.engine.loaded = true) (hthreshold : t.threshold = s.threshold)
    (hrules : Rule.inForce t.rules = Rule.inForce s.rules)
    (hcount : Integer.isWritable (t.rules.length : Int) =
      Integer.isWritable (s.rules.length : Int)) (session : Session) :
    (t.decideMessage session).1 = (s.decideMessage session).1 := by
  rw [Site.decideMessage, Site.decideMessage, load_of_loaded hs, load_of_loaded ht]
  cases session.vars with
  | error fault => rfl
  | ok vars =>
      dsimp only
      rw [decideEvent_fst t _ _ _ rfl, decideEvent_fst s _ _ _ rfl, hthreshold,
        Decision.forEvent_of_inForce hrules, messageEvent, messageEvent,
        TraceEvent.line_count hcount]

namespace Alike

variable {s t : Site}

theorem decideMessage (h : Alike s t) (hs : s.engine.loaded = true)
    (hcount : Integer.isWritable (t.rules.length : Int) =
      Integer.isWritable (s.rules.length : Int)) (session : Session) :
    (t.decideMessage session).1 = (s.decideMessage session).1 :=
  decideMessage_of_inForce hs (h.loaded.trans hs) h.threshold h.rules hcount session

theorem decideCommand (h : Alike s t) (hs : s.engine.loaded = true)
    (hcount : Integer.isWritable (t.rules.length : Int) =
      Integer.isWritable (s.rules.length : Int)) (session : Session) (command : Option String) :
    (t.decideCommand session command).1 = (s.decideCommand session command).1 := by
  rw [Site.decideCommand, Site.decideCommand, load_of_loaded hs,
    load_of_loaded (h.loaded.trans hs), h.resolver, h.host]
  rcases s.engine.resolver.byCommand s.host command with ⟨plugin, resolver, reports⟩
  dsimp only
  obtain ⟨s', hs'⟩ : ∃ s', (s.setResolver resolver).reportAll reports = s' := ⟨_, rfl⟩
  obtain ⟨t', ht'⟩ : ∃ t', (t.setResolver resolver).reportAll reports = t' := ⟨_, rfl⟩
  have halike : Alike s' t' :=
    (h.setResolver resolver).log (hs' ▸ reportAll_onlyLogs _ _) (ht' ▸ reportAll_onlyLogs _ _)
  have hsRules : s'.rules = s.rules := by rw [← hs', Site.rules, reportAll_engine]; rfl
  have htRules : t'.rules = t.rules := by rw [← ht', Site.rules, reportAll_engine]; rfl
  rw [hs', ht', halike.host]
  cases session.varsWith (commandVars (Resolver.nameOf s'.host command) plugin) with
  | error fault => rfl
  | ok vars =>
      dsimp only
      rw [decideEvent_fst t' _ _ _ rfl, decideEvent_fst s' _ _ _ rfl, halike.threshold,
        Decision.forEvent_of_inForce halike.rules, hsRules, htRules, commandEvent, commandEvent,
        TraceEvent.line_count hcount]

/-- Every owner of guards has the same rules in force. -/
theorem rulesOf (h : Alike s t) (owner : Nat) :
    Rule.inForce (t.rulesOf owner) = Rule.inForce (s.rulesOf owner) := by
  have hnumber : t.engine.number = s.engine.number := congrArg Ledger.owner h.ledger
  rw [Site.rulesOf, Site.rulesOf, engine?, engine?, hnumber, h.retired]
  by_cases howner : s.engine.number = owner
  · rw [if_pos howner, if_pos howner]
    exact h.rules
  · rw [if_neg howner, if_neg howner]

/-- **Predicates reply alike.** -/
theorem askPredicate (h : Alike s t) (context : String) (session : Session) :
    (t.askPredicate context session).map (·.1) = (s.askPredicate context session).map (·.1) := by
  rw [Site.askPredicate, Site.askPredicate, h.host, Option.map_map, Option.map_map]
  congr 1
  funext p
  exact Predicate.ask_congr h.rulesOf session p

/-- **Sites that are alike cannot be told apart.** -/
theorem indistinct (h : Alike s t) (hs : s.engine.loaded = true)
    (hcount : Integer.isWritable (t.rules.length : Int) =
      Integer.isWritable (s.rules.length : Int)) : Indistinct s t where
  message := h.decideMessage hs hcount
  command := h.decideCommand hs hcount
  host := h.host
  ledger := h.ledger
  reply := h.askPredicate

end Alike

end Site

end Admission
