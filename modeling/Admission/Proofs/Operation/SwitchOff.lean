import Admission.Proofs.Engine.Alike
import Admission.Proofs.Operation.Halfway
import Admission.Proofs.Operation.Reachable

/-!
# Switching a rule off, and deleting it

A rule that is switched off stays in the store, and in the rule file, but it has no part in
anything that the engine does.  So nobody can tell the engine that switched a rule off from the one
that deleted it.

There is one exception.  What follows a change of the rules begins with writing them, and a rule
that is switched off has to be written as before, while one that was deleted has not.  Where the
rule has no written form, and is the only one without, deleting it goes through, while switching it
off stops: the rule is off, but its guards stay until the engine looks at the tree again.

Main definition: `Operation.switchOff` — switching a rule off.

Main results:

* `Site.delete_alike` — before anything follows from them, the two changes leave sites that are
  alike;
* `Site.switchOff_delete` — **switching a rule off and deleting it cannot be told apart**, and what
  happens where writing stops.
-/

set_option autoImplicit false

namespace Admission

/-- Switching off the rule with an id. -/
def Operation.switchOff (id : String) : Operation := .toggle (.str id) (.bool false)

/-! ### Two numbers -/

/-- One rule less makes a difference to whether the number of rules can be written for a single
number only. -/
theorem Integer.isWritable_pred {n m : Nat} (hn : n ≠ writeLimit) (hm : m + 1 = n) :
    isWritable (m : Int) = isWritable (n : Int) := by
  simp only [isWritable, Int.natAbs_natCast]
  refine decide_eq_decide.2 ⟨?_, ?_⟩ <;> omega

/-! ### The two stores -/

/-- A rule that is switched off can be written when the rule can. -/
theorem Rule.off_isWritable (r : Rule) : r.off.isWritable = r.isWritable := rfl

namespace Store

variable {s : Store} {r : Rule}

/-- What holds of all rules after one of them was replaced: it holds of the new one, and of the
others. -/
theorem all_putFirst (p : Rule → Bool) {rules : List Rule} (h : r.id ∈ rules.map (·.id)) :
    (putFirst r rules).all p = (p r && (rules.eraseP (·.id == r.id)).all p) := by
  induction rules with
  | nil => cases h
  | cons q rest ih =>
      rw [putFirst, List.eraseP_cons]
      cases hq : q.id == r.id with
      | true => rfl
      | false =>
          have hrest : r.id ∈ rest.map (·.id) := by
            rcases List.mem_cons.1 h with hhead | hrest
            · rw [hhead] at hq
              simp at hq
            · exact hrest
          rw [if_neg (by simp), cond_false, List.all_cons, List.all_cons, ih hrest,
            Bool.and_left_comm]

theorem delete_of_mem (hs : s.Sound) (hr : r ∈ s.rules) :
    s.delete (.str r.id) = some ⟨s.rules.eraseP (·.id == r.id)⟩ := by
  rw [delete, find?_of_mem hs.ids_nodup hr]
  rfl

theorem toggle_of_mem (hs : s.Sound) (hr : r ∈ s.rules) :
    s.toggle (.str r.id) (.bool false) =
      some (r.off, s.put r.off) := by
  rw [toggle, if_pos (Value.truthy_str (hs.settled r hr).id_ne), find?_of_mem hs.ids_nodup hr]
  rfl

/-- The rules that are left when one is deleted. -/
theorem mem_eraseP_id (hs : s.Sound) (hr : r ∈ s.rules) {q : Rule} :
    q ∈ s.rules.eraseP (·.id == r.id) ↔ q ∈ s.rules ∧ q.id ≠ r.id := by
  obtain ⟨prev, -, hid, -, hothers⟩ := delete_spec hs.ids_nodup (delete_of_mem hs hr)
  have hid : r.id = prev.id := Value.str.inj hid
  constructor
  · intro hq
    exact ⟨List.mem_of_mem_eraseP hq, hid ▸ hothers q hq⟩
  · rintro ⟨hq, hne⟩
    exact (List.mem_eraseP_of_neg (by simpa using hne)).2 hq

end Store

namespace Site

/-! ### What the two changes leave behind -/

section SwitchOff

variable {s : Site} {r : Rule}

def switchedOff (s : Site) (r : Rule) : Site :=
  (s.load.setStore (s.load.engine.store.put r.off)).noteOperation
    ("Rule " ++ r.id ++ " disabled")

def deleted (s : Site) (r : Rule) : Site :=
  (s.load.setStore ⟨s.load.rules.eraseP (·.id == r.id)⟩).noteOperation ("Deleted rule " ++ r.id)

theorem perform_switchOff (hs : s.load.engine.store.Sound) (hr : r ∈ s.load.rules)
    (subscribers : List String) :
    s.perform subscribers (.switchOff r.id) =
      (s.switchedOff r).changed subscribers fun _ => r.off.toValue := by
  rw [Operation.switchOff, perform, toggleRule, Store.toggle_of_mem hs hr]
  rfl

theorem perform_delete (hs : s.load.engine.store.Sound) (hr : r ∈ s.load.rules)
    (subscribers : List String) :
    s.perform subscribers (.delete (.str r.id)) =
      (s.deleted r).changed subscribers fun _ => .bool true := by
  rw [perform, deleteRule, Store.delete_of_mem hs hr]
  rfl

/-- Before anything follows from them, the two changes leave sites that are alike. -/
theorem delete_alike (s : Site) (r : Rule) : Alike (s.deleted r) (s.switchedOff r) := by
  have hstores : Alike (s.load.setStore ⟨s.load.rules.eraseP (·.id == r.id)⟩)
      (s.load.setStore (s.load.engine.store.put r.off)) :=
    ⟨rfl, rfl, rfl, rfl, Store.inForce_putFirst_off r s.load.rules⟩
  exact hstores.log (report_onlyLogs _ _) (report_onlyLogs _ _)

theorem deleted_loaded (s : Site) (r : Rule) : (s.deleted r).engine.loaded = true := by
  rw [deleted, noteOperation_engine]
  exact s.load_loaded

theorem deleted_keepsGuards (s : Site) (r : Rule) : KeepsGuards s.load (s.deleted r) := by
  have hlogs : OnlyLogs (s.load.setStore ⟨s.load.rules.eraseP (·.id == r.id)⟩) (s.deleted r) :=
    report_onlyLogs _ _
  obtain ⟨log, hlog⟩ := hlogs
  rw [hlog]
  exact ⟨rfl, rfl, rfl, rfl⟩

theorem deleted_rules (s : Site) (r : Rule) :
    (s.deleted r).rules = s.load.rules.eraseP (·.id == r.id) := by
  rw [rules, deleted, noteOperation_engine]
  rfl

theorem switchedOff_rules (s : Site) (r : Rule) :
    (s.switchedOff r).rules = Store.putFirst r.off s.load.rules := by
  rw [rules, switchedOff, noteOperation_engine]
  rfl

/-- Before anything follows from it, switching off is known to the store alone. -/
theorem switchedOff_withholds (s : Site) (r : Rule) : Withholds s.load (s.switchedOff r) := by
  have hlogs : OnlyLogs (s.load.setStore (s.load.engine.store.put r.off)) (s.switchedOff r) :=
    report_onlyLogs _ _
  obtain ⟨log, hlog⟩ := hlogs
  rw [hlog]
  exact ⟨rfl, rfl, rfl, rfl, rfl⟩

/-- The number of rules can be written for both or for neither. -/
theorem switchedOff_count (hr : r ∈ s.load.rules)
    (hcount : s.load.rules.length ≠ Integer.writeLimit) :
    Integer.isWritable ((s.switchedOff r).rules.length : Int) =
      Integer.isWritable ((s.deleted r).rules.length : Int) := by
  have hleft : (s.load.rules.eraseP (·.id == r.id)).length + 1 = s.load.rules.length := by
    have hshort := List.length_eraseP_of_mem (p := (·.id == r.id)) hr (by simp)
    have hpos := List.length_pos_of_mem hr
    omega
  have hlength : (Store.putFirst r.off s.load.rules).length = s.load.rules.length :=
    Store.length_put s.load.engine.store r.off
  rw [switchedOff_rules, deleted_rules, hlength]
  exact (Integer.isWritable_pred hcount hleft).symm

/-- What follows goes through for both or stops for both, when the rule can be written or one of the
others cannot. -/
theorem publish_isOk_eq (hs : s.load.engine.store.Sound) (hr : r ∈ s.load.rules)
    (h : r.isWritable = true ∨ ∃ q ∈ s.load.rules, q.id ≠ r.id ∧ q.isWritable = false)
    (subscribers : List String) :
    ((s.switchedOff r).publish subscribers).isOk = ((s.deleted r).publish subscribers).isOk := by
  have hid : r.id ∈ s.load.rules.map (·.id) := List.mem_map_of_mem hr
  rw [publish_isOk, publish_isOk, switchedOff_rules, deleted_rules,
    Store.all_putFirst (r := r.off) _ hid, Rule.off_isWritable, Rule.off_id]
  rcases h with hrule | ⟨q, hq, hne, hunwritable⟩
  · rw [hrule, Bool.true_and]
  · have hothers : (s.load.rules.eraseP (·.id == r.id)).all Rule.isWritable = false :=
      List.all_eq_false.2 ⟨q, (Store.mem_eraseP_id hs hr).2 ⟨hq, hne⟩, by simp [hunwritable]⟩
    rw [hothers, Bool.and_false]

/-- The changes cannot be told apart when what follows goes through for both or stops for both. -/
theorem switchOff_indistinct (hs : s.load.engine.store.Sound) (hr : r ∈ s.load.rules)
    (hcount : s.load.rules.length ≠ Integer.writeLimit)
    (h : r.isWritable = true ∨ ∃ q ∈ s.load.rules, q.id ≠ r.id ∧ q.isWritable = false)
    (subscribers : List String) :
    Indistinct (s.perform subscribers (.delete (.str r.id))).2
      (s.perform subscribers (.switchOff r.id)).2 := by
  have hloaded := deleted_loaded s r
  have hloaded' := (delete_alike s r).loaded.trans hloaded
  have halike := (delete_alike s r).published hloaded subscribers
    (publish_isOk_eq hs hr h subscribers)
  rw [perform_switchOff hs hr, perform_delete hs hr, changed_snd, changed_snd]
  refine halike.indistinct (published_loaded hloaded subscribers) ?_
  rw [published_rules hloaded, published_rules hloaded']
  exact switchedOff_count hr hcount

/-- Looking at the tree makes no difference to messages. -/
theorem sync_decideMessage (hs : s.engine.loaded = true) (session : Session) :
    (s.sync.decideMessage session).1 = (s.decideMessage session).1 := by
  have hkeeps := sync_keepsRules s
  rw [load_of_loaded hs] at hkeeps
  exact decideMessage_congr hs (hkeeps.loaded.trans hs) (congrArg Store.rules hkeeps.store)
    hkeeps.threshold session

/-- Where what follows goes through for the deletion alone, the engines cannot be told apart any
more as soon as the other one looks at the tree. -/
theorem published_indistinct_sync (hr : r ∈ s.load.rules)
    (hcount : s.load.rules.length ≠ Integer.writeLimit) (subscribers : List String)
    (h : ∀ q ∈ (s.deleted r).rules, q.isWritable = true) :
    Indistinct ((s.deleted r).published subscribers) (s.switchedOff r).sync := by
  have hloaded := deleted_loaded s r
  have hkeeps := sync_keepsRules (s.switchedOff r)
  rw [load_of_loaded ((delete_alike s r).loaded.trans hloaded)] at hkeeps
  have halike : Alike ((s.deleted r).published subscribers) (s.switchedOff r).sync := by
    obtain ⟨text, htext⟩ := exists_published subscribers h
    have hsaved : ((s.deleted r).saveText text).engine.loaded = true := by
      rw [saveText_engine, hloaded]
    rw [htext]
    exact (((delete_alike s r).saveText text).sync hsaved).push subscribers
  refine halike.indistinct (published_loaded hloaded subscribers) ?_
  rw [show (s.switchedOff r).sync.rules = (s.switchedOff r).rules from
    congrArg Store.rules hkeeps.store, published_rules hloaded]
  exact switchedOff_count hr hcount

/-- Switching off a rule that cannot be written stops. -/
theorem perform_switchOff_of_unwritable (hs : s.load.engine.store.Sound) (hr : r ∈ s.load.rules)
    (hrule : r.isWritable = false) (subscribers : List String) :
    ∃ fault, s.perform subscribers (.switchOff r.id) = (.error fault, s.switchedOff r) := by
  have hid : r.id ∈ s.load.rules.map (·.id) := List.mem_map_of_mem hr
  have hunwritable : ∃ q ∈ (s.switchedOff r).rules, q.isWritable = false := by
    refine ⟨r.off, ?_, hrule⟩
    rw [switchedOff_rules]
    exact Store.mem_putFirst_self hid
  rw [perform_switchOff hs hr]
  exact changed_of_unwritable subscribers _ hunwritable

/-- Switching off the only rule that cannot be written stops, and deleting it goes through. -/
theorem switchOff_stops (hs : s.load.engine.store.Sound) (hr : r ∈ s.load.rules)
    (hcount : s.load.rules.length ≠ Integer.writeLimit) (hrule : r.isWritable = false)
    (hothers : ∀ q ∈ s.load.rules, q.id ≠ r.id → q.isWritable = true)
    (subscribers : List String) :
    ∃ fault t d, s.perform subscribers (.switchOff r.id) = (.error fault, t) ∧
      s.perform subscribers (.delete (.str r.id)) = (.ok (.bool true), d) ∧
      Withholds s.load t ∧
      (∀ session, (t.decideMessage session).1 = (d.decideMessage session).1) ∧
      Indistinct d t.sync := by
  have hloaded := deleted_loaded s r
  -- the deletion takes away the only rule that stands in the way of writing
  have hwritable : ∀ q ∈ (s.deleted r).rules, q.isWritable = true := by
    intro q hq
    rw [deleted_rules] at hq
    obtain ⟨hq, hne⟩ := (Store.mem_eraseP_id hs hr).1 hq
    exact hothers q hq hne
  obtain ⟨fault, hstops⟩ := perform_switchOff_of_unwritable hs hr hrule subscribers
  obtain ⟨d, hgoes, -⟩ := changed_of_writable hloaded subscribers (fun _ => .bool true) hwritable
  have hd : (s.deleted r).published subscribers = d := by
    rw [← changed_snd _ _ fun _ => .bool true, hgoes]
  have hsynced := published_indistinct_sync hr hcount subscribers hwritable
  rw [hd] at hsynced
  rw [perform_delete hs hr]
  refine ⟨fault, _, d, hstops, hgoes, switchedOff_withholds s r, ?_, hsynced⟩
  intro session
  rw [← sync_decideMessage ((delete_alike s r).loaded.trans hloaded) session]
  exact hsynced.message session

/-- **Switching a rule off and deleting it cannot be told apart**, unless the rule is the only one
that cannot be written.  In that case deleting it goes through, while switching it off stops with a
fault: messages are decided alike all the same, but the guards are as they were until the engine
looks at the tree again.  Traces tell the number of rules, so the least number without a written
form is left out. -/
theorem switchOff_delete (hs : s.Reachable) (hr : r ∈ s.load.rules)
    (hcount : s.load.rules.length ≠ Integer.writeLimit) (subscribers : List String) :
    ((r.isWritable = true ∨ ∃ q ∈ s.load.rules, q.id ≠ r.id ∧ q.isWritable = false) →
      Indistinct (s.perform subscribers (.delete (.str r.id))).2
        (s.perform subscribers (.switchOff r.id)).2) ∧
    (r.isWritable = false → (∀ q ∈ s.load.rules, q.id ≠ r.id → q.isWritable = true) →
      ∃ fault t d, s.perform subscribers (.switchOff r.id) = (.error fault, t) ∧
        s.perform subscribers (.delete (.str r.id)) = (.ok (.bool true), d) ∧
        Withholds s.load t ∧
        (∀ session, (t.decideMessage session).1 = (d.decideMessage session).1) ∧
        Indistinct d t.sync) := by
  have hsound := load_sound hs.sound
  refine ⟨?_, ?_⟩
  · intro hwritable
    exact switchOff_indistinct hsound hr hcount hwritable subscribers
  · intro hrule hothers
    exact switchOff_stops hsound hr hcount hrule hothers subscribers

end SwitchOff

/-- Switching off the rule that keeps everyone away from a plugin, and deleting it. -/
theorem switchOff_delete_noEcho :
    (openSite.run echoBlocked).Reachable ∧ noEcho ∈ (openSite.run echoBlocked).load.rules ∧
      (openSite.run echoBlocked).load.rules.length ≠ Integer.writeLimit ∧
      Indistinct ((openSite.run echoBlocked).perform [] (.delete (.str noEcho.id))).2
        ((openSite.run echoBlocked).perform [] (.switchOff noEcho.id)).2 := by
  have hreach : (openSite.run echoBlocked).Reachable :=
    (Reachable.start openHost .empty _ _ _ _).run echoBlocked
  have hrules : (openSite.run echoBlocked).load.rules = [noEcho] := rfl
  have hmem : noEcho ∈ (openSite.run echoBlocked).load.rules := by simp [hrules]
  have hcount : (openSite.run echoBlocked).load.rules.length ≠ Integer.writeLimit := by
    rw [hrules]
    decide +kernel
  have hwritable : noEcho.isWritable = true := by decide +kernel
  exact ⟨hreach, hmem, hcount, (switchOff_delete hreach hmem hcount []).1 (.inl hwritable)⟩

/-- A rule that cannot be written came in first, and then one that blocks a plugin. -/
def oddMoves : List Move := [.load, .edit (.create oddRule), .edit (.create noEcho.toValue)]

/-- The site after that. -/
def oddSite : Site := openSite.run oddMoves

/-- Both operations that bring the rules in stop there, and leave that site behind. -/
theorem perform_oddSite :
    ((openSite.perform [] (.create oddRule)).2.perform [] (.create noEcho.toValue)).2 =
      oddSite := by
  have hunwritable : ∀ rules : List Rule, rules.any (fun r => !r.isWritable) = true →
      ∃ r ∈ rules, r.isWritable = false := by
    simp
  have hodd : openSite.load.edit? (.create oddRule) = some (openSite.run (oddMoves.take 2)) := rfl
  have hnoEcho : (openSite.run (oddMoves.take 2)).load.edit? (.create noEcho.toValue) =
      some oddSite := rfl
  obtain ⟨_, hfirst⟩ := perform_of_unwritable hodd [] (hunwritable _ (by decide +kernel))
  obtain ⟨_, hsecond⟩ := perform_of_unwritable hnoEcho [] (hunwritable _ (by decide +kernel))
  rw [hfirst, hsecond]

theorem reachable_oddSite : oddSite.Reachable := (Reachable.start openHost .empty _ _ _ _).run _

/-- Where the rule that cannot be written is deleted, the other one is enforced. -/
theorem exists_guard_deleted {r : Rule} (hr : r ∈ oddSite.load.rules) (hid : r.id = "odd") :
    ∃ serial, (oddSite.perform [] (.delete (.str r.id))).2.host.predicate? "root" =
      some (.guarded ⟨oddSite.engine.number, serial, ["echo"]⟩ (.answers (.bool true))) := by
  have hrules : (oddSite.deleted r).rules = [noEcho] := by
    rw [deleted_rules, hid]
    rfl
  have hwritable : ∀ q ∈ (oddSite.deleted r).rules, q.isWritable = true := by
    rw [hrules]
    decide +kernel
  obtain ⟨text, htext⟩ := exists_published [] hwritable
  obtain ⟨e, he⟩ : ∃ e, (oddSite.deleted r).saveText text = e := ⟨_, rfl⟩
  have hkept : KeepsGuards oddSite.load e :=
    he ▸ (deleted_keepsGuards oddSite r).trans (saveText_keepsGuards _ text)
  have hengine : e.engine = (oddSite.deleted r).engine := he ▸ saveText_engine _ text
  have hsynced := sync_keepsRules e
  rw [load_of_loaded (hengine ▸ deleted_loaded oddSite r)] at hsynced
  obtain ⟨serial, hguard⟩ : ∃ serial, e.sync.host.predicate? "root" =
      some (.guarded ⟨e.engine.number, serial, ["echo"]⟩ (.answers (.bool true))) := by
    refine exists_guard_of_noEcho ?_ hkept.disposed ?_ ?_
    · rw [hkept.host]
      exact .refl openHost
    · rw [rules, hsynced.store, hengine]
      exact hrules
    · rw [hkept.ledger, hkept.host]
      rfl
  rw [perform_delete (load_sound reachable_oddSite.sound) hr, changed_snd, htext, he]
  exact ⟨serial, hguard.trans (by rw [Engine.number, hkept.ledger]; rfl)⟩

/-- As long as the first rule is there, even switched off, the second one is not enforced. -/
theorem switchOff_oddSite :
    oddSite.Reachable ∧
      ((openSite.perform [] (.create oddRule)).2.perform [] (.create noEcho.toValue)).2 = oddSite ∧
      "odd" ∈ oddSite.load.engine.store.ids ∧
      (oddSite.perform [] (.switchOff "odd")).2.host.predicate? "root" =
        some (.answers (.bool true)) ∧
      ∃ serial, (oddSite.perform [] (.delete (.str "odd"))).2.host.predicate? "root" =
        some (.guarded ⟨oddSite.engine.number, serial, ["echo"]⟩ (.answers (.bool true))) := by
  have hodd : oddSite.load.rules.any (fun r => r.id == "odd" && !r.isWritable) = true := by
    decide +kernel
  obtain ⟨r, hr, hid, hunwritable⟩ :
      ∃ r ∈ oddSite.load.rules, r.id = "odd" ∧ r.isWritable = false := by
    simpa using hodd
  refine ⟨reachable_oddSite, perform_oddSite, ?_, ?_, ?_⟩
  · rw [← hid]
    exact List.mem_map_of_mem hr
  · obtain ⟨fault, hstops⟩ :=
      perform_switchOff_of_unwritable (load_sound reachable_oddSite.sound) hr hunwritable []
    rw [← hid, hstops, (switchedOff_withholds oddSite r).host]
    rfl
  · rw [← hid]
    exact exists_guard_deleted hr hid

end Site

end Admission
