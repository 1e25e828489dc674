import Admission.Proofs.Host.Guards
import Admission.Proofs.Host.Layer
import Mathlib.Logic.Function.Basic

/-!
# The ledger accounts for every guard

The host puts predicates on its contexts, and a ledger puts guards before them.  As long as the host
never puts one of these guards somewhere itself, the ledger knows about all that stand outermost:
every context has the predicate that the host last put there, or one guard before that predicate,
which the ledger lists together with it.  So taking everything back leaves the host with its own
predicates, whatever it has put where since the guards were put; and a new round of guards, which
takes back the old ones first, never puts a guard before a guard.

What the host last put on each context is no part of a host or of a ledger.  It is carried beside
them as a function `put`, which neither of the two rounds touches.

Main definition: `Host.Accounts` — the ledger knows what stands before the predicates of the host.

Main results:

* `Host.Accounts.restoreOne`, `Host.Accounts.install` — one guard goes, one guard comes;
* `Host.Accounts.restore` — **taking back leaves every context with what the host put there**;
* `Host.Accounts.sync` — **a new round is accounted for**.
-/

set_option autoImplicit false

namespace Admission

namespace Host

/-! ### Predicates after a change -/

theorem predicate?_setPredicate_of_ne (h : Host) {context other : String} (hne : other ≠ context)
    (p : Option Predicate) : (h.setPredicate context p).predicate? other = h.predicate? other := by
  rw [predicate?, get?_setPredicate_of_ne h hne, ← predicate?]

/-- A context has afterwards what it was given, or nothing because there is no such context. -/
theorem predicate?_setPredicate_cases (h : Host) (context : String) (p : Option Predicate) :
    (h.setPredicate context p).predicate? context = p ∨
      (h.setPredicate context p).predicate? context = none := by
  rw [predicate?, get?_setPredicate, if_pos rfl]
  cases Table.get? h.contexts context with
  | none => exact .inr rfl
  | some c => exact .inl rfl

/-! ### Accounts -/

/-- The host has on every context what it put there, or before that one of the guards of an owner;
these are the given ones, at most one for a context, each for some plugin.  What the host put
anywhere is not such a guard itself. -/
structure Accounts (h : Host) (owner : Nat) (injections : List Injection)
    (put : String → Option Predicate) : Prop where
  nodup : (injections.map (·.context)).Nodup
  owner_eq : ∀ i ∈ injections, i.guard.owner = owner
  keys_ne : ∀ i ∈ injections, i.guard.keys ≠ []
  stands : ∀ context, h.predicate? context = put context ∨
    ∃ i ∈ injections, i.context = context ∧ put context = some i.base ∧
      h.predicate? context = some (.guarded i.guard i.base)
  unguarded : ∀ context p, put context = some p → ¬p.IsGuardOf owner

namespace Accounts

variable {h : Host} {owner : Nat} {injections : List Injection}
  {put : String → Option Predicate}

/-- Without any guards, every context has what the host put there. -/
theorem eq_put (hacc : h.Accounts owner [] put) (context : String) :
    h.predicate? context = put context := by
  rcases hacc.stands context with hput | ⟨i, hi, -⟩
  · exact hput
  · cases hi

/-- A context for which no guard is listed has what the host put there. -/
theorem eq_put_of_not_mem (hacc : h.Accounts owner injections put) {context : String}
    (hcontext : context ∉ injections.map (·.context)) : h.predicate? context = put context := by
  rcases hacc.stands context with hput | ⟨i, hi, rfl, -⟩
  · exact hput
  · exact absurd (List.mem_map_of_mem hi) hcontext

/-- The accounts are about predicates only. -/
theorem of_predicate?_eq {h' : Host} (hacc : h.Accounts owner injections put)
    (hsame : ∀ context, h'.predicate? context = h.predicate? context) :
    h'.Accounts owner injections put where
  nodup := hacc.nodup
  owner_eq := hacc.owner_eq
  keys_ne := hacc.keys_ne
  stands := by
    intro context
    rw [hsame]
    exact hacc.stands context
  unguarded := hacc.unguarded

/-- The host may put anything on a context but a guard of the owner. -/
theorem setPredicate (hacc : h.Accounts owner injections put) (context : String)
    {p : Option Predicate} (hp : ∀ q, p = some q → ¬q.IsGuardOf owner) :
    (h.setPredicate context p).Accounts owner injections
      (Function.update put context ((h.setPredicate context p).predicate? context)) where
  nodup := hacc.nodup
  owner_eq := hacc.owner_eq
  keys_ne := hacc.keys_ne
  stands := by
    intro other
    by_cases hother : other = context
    · subst hother
      refine .inl ?_
      rw [Function.update_self]
    · rw [Function.update_of_ne hother, h.predicate?_setPredicate_of_ne hother]
      exact hacc.stands other
  unguarded := by
    intro other q hq
    by_cases hother : other = context
    · subst hother
      rw [Function.update_self] at hq
      rcases h.predicate?_setPredicate_cases other p with hgiven | hnone
      · exact hp q (hgiven ▸ hq)
      · rw [hnone] at hq
        cases hq
    · rw [Function.update_of_ne hother] at hq
      exact hacc.unguarded other q hq

/-! ### Taking guards back -/

/-- Where the listed guard stands, it is taken away, and what the host put there comes back. -/
theorem predicate?_restoreOne {i : Injection} (hacc : h.Accounts owner (i :: injections) put) :
    (Ledger.restoreOne h i).predicate? i.context = put i.context := by
  have hi : i ∈ i :: injections := List.mem_cons_self
  rcases hacc.stands i.context with hput | ⟨j, hj, hcontext, hbase, hguarded⟩
  · have hother : (h.predicate? i.context).bind Predicate.guard? ≠ some i.guard := by
      intro hguard
      obtain ⟨p, hp, hpguard⟩ := Option.bind_eq_some_iff.1 hguard
      exact hacc.unguarded i.context p (hput ▸ hp) ⟨i.guard, hpguard, hacc.owner_eq i hi⟩
    rw [Ledger.restoreOne, if_neg hother, hput]
  · have hsame : j = i := List.inj_on_of_nodup_map hacc.nodup hj hi hcontext
    subst hsame
    have hguard : (h.predicate? j.context).bind Predicate.guard? = some j.guard := by
      rw [hguarded]
      rfl
    rw [Ledger.restoreOne, if_pos hguard, Host.predicate?_setPredicate_self hguarded, hbase]

/-- The other contexts keep what they have. -/
theorem predicate?_restoreOne_of_ne (h : Host) {i : Injection} {context : String}
    (hne : context ≠ i.context) :
    (Ledger.restoreOne h i).predicate? context = h.predicate? context := by
  unfold Ledger.restoreOne
  split
  · exact h.predicate?_setPredicate_of_ne hne _
  · rfl

/-- When a guard was taken back, the others still account for the host. -/
theorem restoreOne {i : Injection} (hacc : h.Accounts owner (i :: injections) put) :
    (Ledger.restoreOne h i).Accounts owner injections put where
  nodup := (List.nodup_cons.1 hacc.nodup).2
  owner_eq := fun j hj => hacc.owner_eq j (List.mem_cons_of_mem i hj)
  keys_ne := fun j hj => hacc.keys_ne j (List.mem_cons_of_mem i hj)
  unguarded := hacc.unguarded
  stands := by
    intro context
    by_cases hcontext : context = i.context
    · subst hcontext
      exact .inl hacc.predicate?_restoreOne
    · rw [predicate?_restoreOne_of_ne h hcontext]
      rcases hacc.stands context with hput | ⟨j, hj, rfl, hstands⟩
      · exact .inl hput
      · have hrest : j ∈ injections :=
          (List.mem_cons.1 hj).resolve_left fun heq => hcontext (heq ▸ rfl)
        exact .inr ⟨j, hrest, rfl, hstands⟩

theorem foldl_restoreOne (hacc : h.Accounts owner injections put) :
    (injections.foldl Ledger.restoreOne h).Accounts owner [] put := by
  induction injections generalizing h with
  | nil => exact hacc
  | cons i injections ih => exact ih hacc.restoreOne

/-- When all guards were taken back, every context has what the host put there. -/
theorem restore {l : Ledger} (hacc : h.Accounts l.owner l.injections put) :
    (l.restore h).2.Accounts l.owner [] put :=
  hacc.foldl_restoreOne

/-! ### Putting guards -/

/-- A guard may be put before what the host put on a context that has none yet. -/
theorem add {context : String} {base : Predicate} {guard : Guard}
    (hacc : h.Accounts owner injections put)
    (hcontext : context ∉ injections.map (·.context)) (hbase : h.predicate? context = some base)
    (howner : guard.owner = owner) (hkeys : guard.keys ≠ []) :
    (h.setPredicate context (some (.guarded guard base))).Accounts owner
      (injections ++ [⟨context, base, guard⟩]) put where
  nodup := by
    rw [List.map_append, List.map_singleton]
    refine List.nodup_append.2 ⟨hacc.nodup, List.nodup_singleton _, ?_⟩
    rintro a ha b hb rfl
    rw [List.mem_singleton.1 hb] at ha
    exact hcontext ha
  owner_eq := by
    intro i hi
    rcases List.mem_append.1 hi with hold | hnew
    · exact hacc.owner_eq i hold
    · rw [List.mem_singleton.1 hnew, howner]
  keys_ne := by
    intro i hi
    rcases List.mem_append.1 hi with hold | hnew
    · exact hacc.keys_ne i hold
    · rw [List.mem_singleton.1 hnew]
      exact hkeys
  unguarded := hacc.unguarded
  stands := by
    intro other
    by_cases hother : other = context
    · subst hother
      -- nothing was put on this context before, so that its predicate is still the one of the host
      refine .inr ⟨⟨other, base, guard⟩, by simp, rfl, ?_, predicate?_setPredicate_self hbase _⟩
      rw [← hacc.eq_put_of_not_mem hcontext, hbase]
    · rw [h.predicate?_setPredicate_of_ne hother]
      rcases hacc.stands other with hput | ⟨i, hi, hstands⟩
      · exact .inl hput
      · exact .inr ⟨i, List.mem_append_left _ hi, hstands⟩

/-- Putting the guard for one more context keeps the accounts. -/
theorem install {l : Ledger} {entry : String × List String}
    (hacc : h.Accounts l.owner l.injections put)
    (hcontext : entry.1 ∉ l.injections.map (·.context)) (hkeys : entry.2 ≠ []) :
    (Ledger.install (l, h) entry).2.Accounts l.owner (Ledger.install (l, h) entry).1.injections put
      ∧ ∀ i ∈ (Ledger.install (l, h) entry).1.injections,
        i ∈ l.injections ∨ i.context = entry.1 := by
  obtain ⟨context, keys⟩ := entry
  cases hbase : h.predicate? context with
  | none =>
      rw [Ledger.install_of_none hbase]
      exact ⟨hacc, fun i hi => .inl hi⟩
  | some base =>
      rw [Ledger.install_of_some hbase]
      refine ⟨hacc.add hcontext hbase rfl hkeys, fun i hi => ?_⟩
      rcases List.mem_append.1 hi with hold | hnew
      · exact .inl hold
      · rw [List.mem_singleton.1 hnew]
        exact .inr rfl

/-- Putting guards on contexts that have none yet keeps the accounts. -/
theorem foldl_install {entries : Table (List String)} {l : Ledger}
    (hacc : h.Accounts l.owner l.injections put) (hnodup : (Table.keys entries).Nodup)
    (hkeys : ∀ e ∈ entries, e.2 ≠ [])
    (hcontexts : ∀ i ∈ l.injections, i.context ∉ Table.keys entries) :
    (entries.foldl Ledger.install (l, h)).2.Accounts l.owner
      (entries.foldl Ledger.install (l, h)).1.injections put := by
  induction entries generalizing l h with
  | nil => exact hacc
  | cons entry entries ih =>
      obtain ⟨hnew, hrest⟩ := List.nodup_cons.1 hnodup
      rw [List.forall_mem_cons] at hkeys
      have hfree : entry.1 ∉ l.injections.map (·.context) := by
        intro hmem
        obtain ⟨i, hi, hentry⟩ := List.mem_map.1 hmem
        exact hcontexts i hi (hentry ▸ List.mem_cons_self)
      obtain ⟨hone, hmem⟩ := hacc.install hfree hkeys.1
      have howner : (Ledger.install (l, h) entry).1.owner = l.owner := Ledger.install_owner _ _
      have hlater := ih (l := (Ledger.install (l, h) entry).1) (howner ▸ hone) hrest hkeys.2 <| by
        intro i hi hentries
        rcases hmem i hi with hold | hentry
        · exact hcontexts i hold (List.mem_cons_of_mem _ hentries)
        · rw [hentry] at hentries
          exact hnew hentries
      rw [howner] at hlater
      exact hlater

end Accounts

end Host

/-- A context is only listed for a guard together with some key. -/
theorem Ledger.ne_nil_of_mem_pending {h : Host} {active : List String}
    {forks : Table (Option String)} {e : String × List String} (he : e ∈ pending h active forks) :
    e.2 ≠ [] := by
  rw [pending_eq_foldl] at he
  suffices hfold : ∀ acc : Table (List String), (∀ e ∈ acc, e.2 ≠ []) →
      ∀ e ∈ forks.foldl (addFork h active) acc, e.2 ≠ [] from hfold [] (by simp) e he
  clear he
  induction forks with
  | nil => exact fun _ hacc => hacc
  | cons fork forks ih =>
      intro acc hacc
      refine ih (addFork h active acc fork) ?_
      intro e he
      unfold addFork at he
      split at he
      · exact hacc e he
      · split at he
        · rcases Table.mem_set he with hold | rfl
          · exact hacc e hold
          · simp
        · exact hacc e he

/-- After a new round of guards, the ledger accounts for the host again. -/
theorem Host.Accounts.sync {h : Host} {l : Ledger} {put : String → Option Predicate}
    (hacc : h.Accounts l.owner l.injections put) (rules : List Rule)
    (forks : Table (Option String)) :
    (l.sync h rules forks).2.1.Accounts l.owner (l.sync h rules forks).1.injections put :=
  Accounts.foldl_install (l := (l.restore h).1) hacc.restore (Ledger.nodup_keys_pending _ _ _)
    (fun _ he => Ledger.ne_nil_of_mem_pending he) (by simp [Ledger.restore])

end Admission
