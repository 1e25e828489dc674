import Admission.Host.Guards
import Admission.Proofs.Host.Tree

/-!
# What a new round of guards leaves behind

A round takes back the old guards and then puts at most one guard before the predicate of each
context: before those that admit sessions to a plugin that some enabled rule names.  The keys of
the guard are exactly these plugins, in the order in which the tree lists them.  Nothing else on the
host changes.

Main definition: `Ledger.keysAt` — the keys that a round captures for a context.

Main results:

* `Ledger.get?_pending` — the contexts that get a guard, with their keys;
* `Ledger.foldl_install_of_mem`, `Ledger.foldl_install_of_not_mem` — what putting guards does to
  each context;
* `Ledger.sync_of_none`, `Ledger.sync_of_some` — **every context after a round**.
-/

set_option autoImplicit false

namespace Admission.Ledger

/-! ### Which contexts get a guard -/

/-- The keys that a round captures for a context: those that some rule names, of the forks whose
parent the context is. -/
def keysAt (h : Host) (active : List String) (forks : Table (Option String)) (context : String) :
    List String :=
  (forks.filter fun e => h.parentOf? e.2 == some context && active.contains e.1).map (·.1)

theorem mem_keysAt {h : Host} {active : List String} {forks : Table (Option String)}
    {context key : String} :
    key ∈ keysAt h active forks context ↔
      ∃ fork, (key, fork) ∈ forks ∧ h.parentOf? fork = some context ∧ key ∈ active := by
  simp [keysAt]

theorem get?_addKey (pending : Table (List String)) (context key other : String) :
    Table.get? (addKey pending context key) other =
      if other = context then some ((Table.get? pending context).getD [] ++ [key])
      else Table.get? pending other :=
  Table.get?_set pending context _ other

def addFork (h : Host) (active : List String) (acc : Table (List String))
    (e : String × Option String) : Table (List String) :=
  match h.parentOf? e.2 with
  | none => acc
  | some context =>
    if (h.predicate? context).isSome && active.contains e.1 then addKey acc context e.1 else acc

theorem pending_eq_foldl (h : Host) (active : List String) (forks : Table (Option String)) :
    pending h active forks = forks.foldl (addFork h active) [] := rfl

section Pending

variable {h : Host} {active : List String} {context : String}

theorem get?_addFork (hcall : (h.predicate? context).isSome = true) (acc : Table (List String))
    (e : String × Option String) :
    Table.get? (addFork h active acc e) context =
      if (h.parentOf? e.2 == some context && active.contains e.1) = true then
        some ((Table.get? acc context).getD [] ++ [e.1])
      else Table.get? acc context := by
  unfold addFork
  cases hparent : h.parentOf? e.2 with
  | none => rfl
  | some parent =>
      by_cases hsame : parent = context
      · subst hsame
        by_cases hactive : active.contains e.1 = true
        · simp only [hcall, hactive, Bool.and_self, if_true, get?_addKey, beq_self_eq_true]
        · simp only [hactive, Bool.and_false, Bool.false_eq_true, if_false]
      · have hother : (some parent == some context) = false := by simpa using hsame
        simp only [hother, Bool.false_and, Bool.false_eq_true, if_false]
        split
        · rw [get?_addKey, if_neg (Ne.symm hsame)]
        · rfl

/-- Adding forks one after the other adds their keys to those of their parents. -/
theorem get?_foldl_addFork (hcall : (h.predicate? context).isSome = true)
    (forks : Table (Option String)) (acc : Table (List String)) :
    Table.get? (forks.foldl (addFork h active) acc) context =
      if keysAt h active forks context = [] then Table.get? acc context
      else some ((Table.get? acc context).getD [] ++ keysAt h active forks context) := by
  induction forks generalizing acc with
  | nil => rfl
  | cons e forks ih =>
      rw [List.foldl_cons, ih, get?_addFork hcall]
      by_cases hneeded : (h.parentOf? e.2 == some context && active.contains e.1) = true
      · have hkeys : keysAt h active (e :: forks) context =
            e.1 :: keysAt h active forks context := by
          simp only [keysAt, List.filter_cons, hneeded, if_true, List.map_cons]
        rw [if_pos hneeded, hkeys, if_neg (List.cons_ne_nil _ _)]
        split
        · next hnil => rw [hnil]
        · simp
      · have hkeys : keysAt h active (e :: forks) context = keysAt h active forks context := by
          simp only [keysAt, List.filter_cons, if_neg hneeded]
        rw [if_neg hneeded, hkeys]

/-- A context with a predicate gets a guard exactly when there are keys for it, and these are the
keys of the guard. -/
theorem get?_pending (hcall : (h.predicate? context).isSome = true)
    (forks : Table (Option String)) :
    Table.get? (pending h active forks) context =
      if keysAt h active forks context = [] then none
      else some (keysAt h active forks context) := by
  rw [pending_eq_foldl, get?_foldl_addFork hcall]
  simp

/-- No context is named twice. -/
theorem nodup_keys_pending (h : Host) (active : List String) (forks : Table (Option String)) :
    (Table.keys (pending h active forks)).Nodup := by
  rw [pending_eq_foldl]
  suffices hfold : ∀ acc : Table (List String), (Table.keys acc).Nodup →
      (Table.keys (forks.foldl (addFork h active) acc)).Nodup from hfold [] List.nodup_nil
  induction forks with
  | nil => exact fun _ hacc => hacc
  | cons e forks ih =>
      intro acc hacc
      refine ih (addFork h active acc e) ?_
      unfold addFork
      split
      · exact hacc
      · split
        · exact Table.nodup_keys_set hacc _ _
        · exact hacc

/-- A context without a predicate gets no guard. -/
theorem not_mem_keys_pending (hcall : h.predicate? context = none)
    (forks : Table (Option String)) : context ∉ Table.keys (pending h active forks) := by
  rw [← Table.get?_eq_none_iff, pending_eq_foldl]
  suffices hfold : ∀ acc : Table (List String), Table.get? acc context = none →
      Table.get? (forks.foldl (addFork h active) acc) context = none from hfold [] rfl
  induction forks with
  | nil => exact fun _ hacc => hacc
  | cons e forks ih =>
      intro acc hacc
      refine ih (addFork h active acc e) ?_
      unfold addFork
      split
      · exact hacc
      · next parent _ =>
          split
          · next hneeded =>
              have hne : context ≠ parent := by
                rintro rfl
                rw [hcall] at hneeded
                exact Bool.false_ne_true hneeded
              rw [get?_addKey, if_neg hne, hacc]
          · exact hacc

end Pending

/-! ### Putting guards -/

theorem install_of_some {l : Ledger} {h : Host} {context : String} {base : Predicate}
    (hbase : h.predicate? context = some base) (keys : List String) :
    install (l, h) (context, keys) =
      ({ l with
          next := l.next + 1
          injections := l.injections ++ [⟨context, base, ⟨l.owner, l.next, keys⟩⟩] },
        h.setPredicate context (some (.guarded ⟨l.owner, l.next, keys⟩ base))) := by
  simp only [install, hbase]

theorem install_of_none {l : Ledger} {h : Host} {context : String}
    (hnone : h.predicate? context = none) (keys : List String) :
    install (l, h) (context, keys) = (l, h) := by
  simp only [install, hnone]

theorem install_owner (state : Ledger × Host) (entry : String × List String) :
    (install state entry).1.owner = state.1.owner := by
  obtain ⟨l, h⟩ := state
  cases hbase : h.predicate? entry.1 with
  | none => rw [install_of_none hbase]
  | some base => rw [install_of_some hbase]

theorem install_sameTree (state : Ledger × Host) (entry : String × List String) :
    Host.SameTree state.2 (install state entry).2 := by
  obtain ⟨l, h⟩ := state
  cases hbase : h.predicate? entry.1 with
  | none =>
      rw [install_of_none hbase]
      exact .refl h
  | some base =>
      rw [install_of_some hbase]
      exact h.setPredicate_sameTree _ _

/-- Putting a guard on one context leaves every other one as it is. -/
theorem get?_install_of_ne (state : Ledger × Host) (entry : String × List String)
    {context : String} (hne : context ≠ entry.1) :
    Table.get? (install state entry).2.contexts context = Table.get? state.2.contexts context := by
  obtain ⟨l, h⟩ := state
  cases hbase : h.predicate? entry.1 with
  | none => rw [install_of_none hbase]
  | some base =>
      rw [install_of_some hbase]
      exact h.get?_setPredicate_of_ne hne _

theorem foldl_install_owner (entries : Table (List String)) (state : Ledger × Host) :
    (entries.foldl install state).1.owner = state.1.owner := by
  induction entries generalizing state with
  | nil => rfl
  | cons entry entries ih => rw [List.foldl_cons, ih, install_owner]

theorem foldl_install_sameTree (entries : Table (List String)) (state : Ledger × Host) :
    Host.SameTree state.2 (entries.foldl install state).2 := by
  induction entries generalizing state with
  | nil => exact .refl _
  | cons entry entries ih => exact (install_sameTree state entry).trans (ih _)

/-- A context for which there is nothing to put is left as it is. -/
theorem foldl_install_of_not_mem {entries : Table (List String)} {context : String}
    (hcontext : context ∉ Table.keys entries) (state : Ledger × Host) :
    Table.get? (entries.foldl install state).2.contexts context =
      Table.get? state.2.contexts context := by
  induction entries generalizing state with
  | nil => rfl
  | cons entry entries ih =>
      rw [Table.keys_cons, List.mem_cons, not_or] at hcontext
      rw [List.foldl_cons, ih hcontext.2, get?_install_of_ne state entry hcontext.1]

/-- A context for which there are keys has exactly one new guard, before the predicate that it
had. -/
theorem foldl_install_of_mem {entries : Table (List String)} {context : String}
    {keys : List String} {base : Predicate} (hnodup : (Table.keys entries).Nodup)
    (hkeys : Table.get? entries context = some keys) (state : Ledger × Host)
    (hbase : state.2.predicate? context = some base) :
    ∃ serial, (entries.foldl install state).2.predicate? context =
      some (.guarded ⟨state.1.owner, serial, keys⟩ base) := by
  induction entries generalizing state with
  | nil => cases hkeys
  | cons entry entries ih =>
      obtain ⟨name, captured⟩ := entry
      obtain ⟨hnew, hrest⟩ := List.nodup_cons.1 hnodup
      rw [Table.get?_cons] at hkeys
      by_cases hname : name = context
      · subst hname
        rw [if_pos rfl] at hkeys
        cases hkeys
        obtain ⟨l, h⟩ := state
        refine ⟨l.next, ?_⟩
        rw [List.foldl_cons, Host.predicate?, foldl_install_of_not_mem hnew, ← Host.predicate?,
          install_of_some hbase]
        exact Host.predicate?_setPredicate_self hbase _
      · rw [if_neg hname] at hkeys
        have hkept : (install state (name, captured)).2.predicate? context = some base := by
          rw [Host.predicate?, get?_install_of_ne state _ (Ne.symm hname), ← Host.predicate?, hbase]
        obtain ⟨serial, hserial⟩ := ih hrest hkeys (install state (name, captured)) hkept
        rw [install_owner] at hserial
        exact ⟨serial, hserial⟩

/-! ### Taking guards back -/

theorem restoreOne_sameTree (h : Host) (i : Injection) : Host.SameTree h (restoreOne h i) := by
  unfold restoreOne
  split
  · exact h.setPredicate_sameTree _ _
  · exact .refl h

theorem restore_sameTree (l : Ledger) (h : Host) : Host.SameTree h (l.restore h).2 := by
  have hfold : ∀ (injections : List Injection) (h : Host),
      Host.SameTree h (injections.foldl restoreOne h) := by
    intro injections
    induction injections with
    | nil => exact Host.SameTree.refl
    | cons i injections ih => exact fun h => (restoreOne_sameTree h i).trans (ih _)
  exact hfold l.injections h

theorem restore_owner (l : Ledger) (h : Host) : (l.restore h).1.owner = l.owner := rfl

/-- A context that has no predicate afterwards had none before, and nothing was taken back. -/
theorem get?_restoreOne_of_none {h : Host} {context : String} {i : Injection}
    (hnone : (restoreOne h i).predicate? context = none) :
    Table.get? (restoreOne h i).contexts context = Table.get? h.contexts context := by
  unfold restoreOne at hnone ⊢
  split
  · next hguard =>
      rw [if_pos hguard] at hnone
      obtain ⟨base, hbase, _⟩ := Option.bind_eq_some_iff.1 hguard
      have hne : context ≠ i.context := by
        rintro rfl
        rw [Host.predicate?_setPredicate_self hbase] at hnone
        cases hnone
      exact h.get?_setPredicate_of_ne hne _
  · rfl

theorem get?_restore_of_none {l : Ledger} {h : Host} {context : String}
    (hnone : (l.restore h).2.predicate? context = none) :
    Table.get? (l.restore h).2.contexts context = Table.get? h.contexts context := by
  have hfold : ∀ (injections : List Injection) (h : Host),
      (injections.foldl restoreOne h).predicate? context = none →
      Table.get? (injections.foldl restoreOne h).contexts context =
        Table.get? h.contexts context := by
    intro injections
    induction injections with
    | nil => exact fun _ _ => rfl
    | cons i injections ih =>
        intro h hnone
        have hrest := ih (restoreOne h i) hnone
        have hone : (restoreOne h i).predicate? context = none := by
          rw [Host.predicate?, ← hrest, ← Host.predicate?]
          exact hnone
        exact hrest.trans (get?_restoreOne_of_none hone)
  exact hfold l.injections h hnone

/-! ### A round -/

theorem sync_owner (l : Ledger) (h : Host) (rules : List Rule) (forks : Table (Option String)) :
    (l.sync h rules forks).1.owner = l.owner := by
  simp only [sync, foldl_install_owner, restore_owner]

/-- A round leaves the tree alone. -/
theorem sync_sameTree (l : Ledger) (h : Host) (rules : List Rule)
    (forks : Table (Option String)) : Host.SameTree h (l.sync h rules forks).2.1 :=
  (restore_sameTree l h).trans (foldl_install_sameTree _ _)

/-- A context without a predicate is left as it is. -/
theorem sync_of_none {l : Ledger} {h : Host} {context : String}
    (hnone : (l.restore h).2.predicate? context = none) (rules : List Rule)
    (forks : Table (Option String)) :
    Table.get? (l.sync h rules forks).2.1.contexts context =
      Table.get? (l.restore h).2.contexts context :=
  foldl_install_of_not_mem (not_mem_keys_pending hnone forks) _

/-- After a round, a context with a predicate has a guard before it when some rule names a plugin
to which the context admits sessions, and has the predicate alone otherwise. -/
theorem sync_of_some {l : Ledger} {h : Host} {context : String} {base : Predicate}
    (hbase : (l.restore h).2.predicate? context = some base) (rules : List Rule)
    (forks : Table (Option String)) :
    let keys := keysAt h (activeKeys rules) forks context
    (keys = [] → (l.sync h rules forks).2.1.predicate? context = some base) ∧
      (keys ≠ [] → ∃ serial, (l.sync h rules forks).2.1.predicate? context =
        some (.guarded ⟨l.owner, serial, keys⟩ base)) := by
  have hcall : ((l.restore h).2.predicate? context).isSome = true := by rw [hbase]; rfl
  have hkeys : keysAt (l.restore h).2 (activeKeys rules) forks context =
      keysAt h (activeKeys rules) forks context := by
    simp only [keysAt, (restore_sameTree l h).parentOf?_eq]
  have hpending : Table.get? (pending (l.restore h).2 (activeKeys rules) forks) context = _ :=
    get?_pending hcall forks
  rw [hkeys] at hpending
  refine ⟨?_, ?_⟩
  · intro hnil
    rw [if_pos hnil, Table.get?_eq_none_iff] at hpending
    have hkept := foldl_install_of_not_mem hpending (l.restore h)
    rw [Host.predicate?] at hbase ⊢
    rw [← hbase]
    exact congrArg (fun c : Option Context => c.bind (·.predicate)) hkept
  · intro hne
    rw [if_neg hne] at hpending
    exact foldl_install_of_mem (nodup_keys_pending _ _ _) hpending (l.restore h) hbase

end Admission.Ledger
