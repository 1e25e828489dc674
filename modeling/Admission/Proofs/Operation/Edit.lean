import Admission.Proofs.Engine.Restart

/-!
# What an operation does to the store

An operation that finds something to change leaves another store behind, and perhaps another supply
of ids and one more entry in the log, before anything follows from the change.  Rules that can be
saved stay so, as long as what is put into the store comes from JSON.

Priorities that reordering gives are places in a list.  They have a written form as long as there
are no more rules than integers with one, which no machine can hold.

Main definitions:

* `Operation.FromJson` — what the operation puts into the store comes from JSON;
* `Operation.Hits` — the operation names something to change;
* `Operation.Agrees` — an answer agrees with the rules;
* `Site.Edits` — the site that an operation leaves behind before anything follows from it.

Main results:

* `Site.edit?_isSome_iff` — an operation changes the rules when it has something to change;
* `Site.edit?_durable` — it leaves rules that can be saved.
-/

set_option autoImplicit false

namespace Admission

/-! ### Operations -/

namespace Operation

/-- What the operation puts into the store comes from JSON. -/
def FromJson : Operation → Prop
  | .create data => data.IsJson
  | .update data => data.IsJson
  | _ => True

/-- The operation has something to change: a rule is created, a rule is named by its id, or there
is a list to order the rules by. -/
def Hits (s : Store) : Operation → Prop
  | .create _ => True
  | .update data => ∃ entries id, data.fields? = some entries ∧
      Fields.getD entries "id" = .str id ∧ id ∈ s.ids
  | .delete id => ∃ i, id = .str i ∧ i ∈ s.ids
  | .reorder ids => ids.items?.isSome = true
  | .toggle id _ => ∃ i, id = .str i ∧ i ∈ s.ids
  | _ => False

/-- The search for a free id ends, if the operation makes one. -/
def Ends (s : Site) : Operation → Prop
  | .create data =>
      s.engine.store.FindsId (if data.fields?.isSome then data else .ofFields []) s.supply
  | _ => True

/-- The answer agrees with the rules: it is one of them, the one that was named if one was, or says
that none has the id any more, or is all of them in the order of evaluation. -/
def Agrees (s : Site) (answer : Value) : Operation → Prop
  | .create _ => ∃ r ∈ s.engine.store.sorted, answer = r.toValue
  | .update data => ∃ r ∈ s.engine.store.sorted, answer = r.toValue ∧
      ∃ entries, data.fields? = some entries ∧ Fields.getD entries "id" = .str r.id
  | .delete id => answer = .bool true ∧ ∀ r ∈ s.engine.store.sorted, id ≠ .str r.id
  | .reorder _ => answer = s.ruleList
  | .toggle id _ => ∃ r ∈ s.engine.store.sorted, answer = r.toValue ∧ id = .str r.id
  | _ => True

end Operation

/-- A rule that was put in place of one with its id is there. -/
theorem Store.mem_rules_of_put {s next : Store} {r prev : Rule} (hprev : prev ∈ s.rules)
    (hid : r.id = prev.id) (hnext : next = s.put r) : r ∈ next.rules := by
  rw [hnext]
  exact mem_putFirst_self (hid ▸ List.mem_map_of_mem hprev)

theorem Store.mem_sorted {s : Store} {r : Rule} : r ∈ s.sorted ↔ r ∈ s.rules :=
  Rule.mem_sort

namespace Site

/-! ### The change of the store -/

theorem noteOperation_engine (s : Site) (message : String) :
    (s.noteOperation message).engine = s.engine :=
  report_engine s _

/-- The site that an operation leaves behind before anything follows from it: the store and the
supply of ids are others, and the log has one more entry at most. -/
structure Edits (s e : Site) : Prop where
  changes : ∃ store supply, KeepsRules ({ s with supply }.setStore store) e
  resolver : e.engine.resolver = s.engine.resolver

section Edit

variable {s e : Site} {operation : Operation}

theorem edit?_edits (h : s.edit? operation = some e) : Edits s e := by
  obtain ⟨store, supply, log, rfl⟩ := edit?_restocks h
  exact ⟨⟨store, supply, OnlyLogs.keepsRules ⟨log, rfl⟩⟩, rfl⟩

/-- A change leaves rules that can be saved, and one more at most. -/
theorem edit?_durable (hs : s.engine.store.Durable) (hjson : operation.FromJson)
    (hroom : s.rules.length ≤ Integer.writeLimit) (h : s.edit? operation = some e) :
    e.engine.store.Durable ∧ e.rules.length ≤ s.rules.length + 1 := by
  cases operation with
  | create data =>
      obtain ⟨⟨rule, store, supply⟩, hcreate, rfl⟩ := Option.map_eq_some_iff.1 h
      have hdata : (if data.fields?.isSome then data else .ofFields []).isStorable = true := by
        split
        · exact Value.IsJson.isStorable hjson
        · rfl
      have hlength := congrArg List.length (Store.create_rules hcreate)
      rw [rules, noteOperation_engine]
      refine ⟨⟨Store.create_sound hs.sound hcreate, Store.create_storable hs.storable hdata hcreate⟩,
        ?_⟩
      rw [List.length_append] at hlength
      exact Nat.le_of_eq hlength
  | update data =>
      obtain ⟨⟨rule, store⟩, hupdate, rfl⟩ := Option.map_eq_some_iff.1 h
      obtain ⟨_, _, _, _, -, -, -, -, rfl⟩ := Store.update_spec hupdate
      rw [rules, noteOperation_engine]
      refine ⟨⟨Store.update_sound hs.sound hupdate,
        Store.update_storable hs.storable (Value.IsJson.isStorable hjson) hupdate⟩, ?_⟩
      exact (Nat.le_of_eq (Store.length_put _ rule)).trans (Nat.le_succ _)
  | delete id =>
      obtain ⟨store, hdelete, rfl⟩ := Option.map_eq_some_iff.1 h
      obtain ⟨_, -, -, hrules, -⟩ := Store.delete_spec hs.sound.ids_nodup hdelete
      rw [rules, noteOperation_engine]
      refine ⟨⟨Store.delete_sound hs.sound hdelete, Store.delete_storable hs.storable hdelete⟩, ?_⟩
      change store.rules.length ≤ _
      rw [hrules]
      exact List.length_eraseP_le.trans (Nat.le_succ _)
  | reorder ids =>
      obtain ⟨store, hreorder, rfl⟩ := Option.map_eq_some_iff.1 h
      exact ⟨⟨Store.reorder_sound hs.sound hreorder,
        Store.reorder_storable hs.storable hroom hreorder⟩,
        (Nat.le_of_eq (Store.length_reorder hreorder)).trans (Nat.le_succ _)⟩
  | toggle id enabled =>
      obtain ⟨⟨rule, store⟩, htoggle, rfl⟩ := Option.map_eq_some_iff.1 h
      obtain ⟨_, -, -, -, rfl⟩ := Store.toggle_spec htoggle
      rw [rules, noteOperation_engine]
      refine ⟨⟨Store.toggle_sound hs.sound htoggle, Store.toggle_storable hs.storable htoggle⟩, ?_⟩
      exact (Nat.le_of_eq (Store.length_put _ rule)).trans (Nat.le_succ _)
  | _ => cases h

/-- An operation changes the rules when it has something to change. -/
theorem edit?_isSome_iff (hs : s.engine.store.Sound) :
    (s.edit? operation).isSome = true ↔ operation.Hits s.engine.store ∧ operation.Ends s := by
  cases operation with
  | create data =>
      rw [edit?, Option.isSome_map, Store.create_isSome_iff]
      exact (and_iff_right trivial).symm
  | update data =>
      rw [edit?, Option.isSome_map, Store.update_isSome_iff hs]
      exact (and_iff_left trivial).symm
  | delete id =>
      rw [edit?, Option.isSome_map, Store.delete_isSome_iff]
      exact (and_iff_left trivial).symm
  | reorder ids =>
      rw [edit?, Option.isSome_map, Store.reorder_isSome_iff]
      exact (and_iff_left trivial).symm
  | toggle id enabled =>
      rw [edit?, Option.isSome_map, Store.toggle_isSome_iff hs]
      exact (and_iff_left trivial).symm
  | _ => simp [edit?, Operation.Hits]

end Edit

end Site

end Admission
