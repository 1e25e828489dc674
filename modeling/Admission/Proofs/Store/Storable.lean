import Admission.Proofs.Rule.Storable
import Admission.Proofs.Store.Reorder

/-!
# Stores that can be saved

Every operation of the store leaves rules that the rule file can keep, as long as what is put into
the store can be kept.  Only the places that reordering gives as priorities are new numbers; they
can be written unless there are more rules than such numbers.

When rules that have different ids are put in place of all others, none of them is renamed: a saved
store is loaded as it was.

Main definitions:

* `Store.Storable` — the rule file can keep every rule;
* `Store.FindsId` — the search for a free id ends.

Main results:

* `Store.create_storable`, `Store.update_storable`, `Store.delete_storable`,
  `Store.reorder_storable`, `Store.toggle_storable` — the operations leave storable rules;
* `Store.create_isSome_iff`, `Store.update_isSome_iff`, `Store.delete_isSome_iff`,
  `Store.toggle_isSome_iff` — when an operation changes something;
* `Store.replace_of_nodup` — **rules with different ids are loaded as they are**.
-/

set_option autoImplicit false

namespace Admission

theorem Value.truthy_str {text : String} (h : text ≠ "") : (Value.str text).truthy = true := by
  simpa [truthy] using h

theorem Rule.Storable.with_id {r : Rule} (h : r.Storable) (id : String) :
    Rule.Storable { r with id := id } := ⟨h.priority, h.condition⟩

theorem Rule.Storable.with_enabled {r : Rule} (h : r.Storable) (enabled : Bool) :
    Rule.Storable { r with enabled := enabled } := ⟨h.priority, h.condition⟩

namespace Store

def Storable (s : Store) : Prop := ∀ r ∈ s.rules, r.Storable

theorem empty_storable : empty.Storable := nofun

/-! ### Putting rules in -/

section Appending

variable {s next : Store} {supply rest : Supply}

theorem append_storable {r placed : Rule} (hs : s.Storable) (hr : r.Storable)
    (h : s.append r supply = some (placed, next, rest)) : next.Storable := by
  obtain ⟨hrules, -, hplaced⟩ := append_spec h
  have hplaced : placed.Storable := by
    rcases hplaced with rfl | ⟨-, heq⟩
    · exact hr
    · rw [heq]
      exact hr.with_id _
  intro q hq
  rw [hrules] at hq
  rcases List.mem_append.1 hq with hq | hq
  · exact hs q hq
  · rwa [List.mem_singleton.1 hq]

theorem appendAll_storable {rules : List Rule} (hrules : ∀ r ∈ rules, r.Storable)
    {renamings : List Renaming} (hs : s.Storable)
    (h : s.appendAll rules supply = some (next, renamings, rest)) : next.Storable :=
  appendAll_keeps (fun r hr _ _ _ _ _ hs happend => append_storable hs (hrules r hr) happend) hs h

/-- Rules with ids that are not in use are put at the end as they are. -/
theorem appendAll_of_nodup {rules : List Rule} (hids : (s.ids ++ rules.map (·.id)).Nodup)
    (supply : Supply) : s.appendAll rules supply = some (⟨s.rules ++ rules⟩, [], supply) := by
  induction rules generalizing s with
  | nil => simp [appendAll]
  | cons r others ih =>
      have hnew : s.ids.contains r.id = false := by
        have hdisjoint := (List.nodup_append.1 hids).2.2
        by_contra h
        have hmem : r.id ∈ s.ids := by simpa using h
        exact hdisjoint r.id hmem r.id List.mem_cons_self rfl
      have hothers : ((⟨s.rules ++ [r]⟩ : Store).ids ++ others.map (·.id)).Nodup := by
        simpa [ids] using hids
      have happend : s.append r supply = some (r, ⟨s.rules ++ [r]⟩, supply) := by
        rw [append, hnew]
        rfl
      rw [appendAll, happend]
      simp [ih hothers]

/-- Rules with different ids are put in place of all others as they are. -/
theorem replace_of_nodup {rules : List Rule} (hids : (rules.map (·.id)).Nodup) (supply : Supply) :
    replace rules supply = some (⟨rules⟩, [], supply) :=
  appendAll_of_nodup (s := empty) hids supply

theorem create_storable {data : Value} {placed : Rule} (hs : s.Storable)
    (hdata : data.isStorable = true) (h : s.create data supply = some (placed, next, rest)) :
    next.Storable := by
  refine append_storable hs (Rule.ofValue_storable ?_ supply) h
  split
  · exact hdata
  · rfl

theorem create_rules {data : Value} {placed : Rule}
    (h : s.create data supply = some (placed, next, rest)) : next.rules = s.rules ++ [placed] :=
  (append_spec h).1

end Appending

/-! ### Changing rules -/

section Changing

variable {s next : Store}

theorem put_storable (hs : s.Storable) {r : Rule} (hr : r.Storable) : (s.put r).Storable := by
  intro q hq
  rcases mem_putFirst hq with rfl | hq
  · exact hr
  · exact hs q hq

theorem mem_putFirst_self {r : Rule} {rules : List Rule} (h : r.id ∈ rules.map (·.id)) :
    r ∈ putFirst r rules := by
  induction rules with
  | nil => cases h
  | cons q rest ih =>
      rw [putFirst]
      by_cases hid : q.id = r.id
      · rw [if_pos (by simpa using hid)]
        exact List.mem_cons_self
      · rw [if_neg (by simpa using hid)]
        have hrest : r.id ∈ rest.map (·.id) := by
          rcases List.mem_cons.1 h with heq | hrest
          · exact absurd heq.symm hid
          · exact hrest
        exact List.mem_cons_of_mem q (ih hrest)

theorem length_put (s : Store) (r : Rule) : (s.put r).rules.length = s.rules.length := by
  have hids := congrArg List.length (putFirst_ids r s.rules)
  rwa [List.length_map, List.length_map] at hids

/-- The rule that storable entries are laid over stays storable. -/
theorem overlay_storable {r : Rule} (hr : r.Storable) {entries : Fields}
    (hentries : ∀ e ∈ entries, e.2.isStorable = true) : (overlay r entries).Storable := by
  refine Rule.ofFieldsWithId_storable ?_ r.id
  intro e he
  rcases Table.mem_set he with he | rfl
  · exact (Table.mem_overlay he).elim (Rule.toFields_isStorable hr e) (hentries e)
  · rfl

/-- What an update does: the rule that a mapping names gets its entries. -/
theorem update_spec {data : Value} {r : Rule} (h : s.update data = some (r, next)) :
    ∃ origin entries others prev, data = .mapping origin entries others ∧ prev ∈ s.rules ∧
      Fields.getD entries "id" = .str prev.id ∧ r = overlay prev entries ∧ next = s.put r := by
  unfold update at h
  split at h
  · next origin entries others =>
      dsimp only at h
      split at h
      · obtain ⟨prev, hfind, heq⟩ := Option.map_eq_some_iff.1 h
        cases heq
        obtain ⟨hmem, hid⟩ := find?_spec hfind
        exact ⟨origin, entries, others, prev, rfl, hmem, hid, rfl, rfl⟩
      · cases h
  · cases h

/-- What a toggle does: the rule with an id is switched. -/
theorem toggle_spec {id enabled : Value} {r : Rule} (h : s.toggle id enabled = some (r, next)) :
    ∃ prev ∈ s.rules, id = .str prev.id ∧ r = { prev with enabled := enabled.truthy } ∧
      next = s.put r := by
  unfold toggle at h
  split at h
  · obtain ⟨prev, hfind, heq⟩ := Option.map_eq_some_iff.1 h
    cases heq
    obtain ⟨hmem, hid⟩ := find?_spec hfind
    exact ⟨prev, hmem, hid, rfl, rfl⟩
  · cases h

theorem update_storable {data : Value} {r : Rule} (hs : s.Storable)
    (hdata : data.isStorable = true) (h : s.update data = some (r, next)) : next.Storable := by
  obtain ⟨origin, entries, others, prev, rfl, hprev, -, rfl, rfl⟩ := update_spec h
  exact put_storable hs
    (overlay_storable (hs prev hprev) (Value.isStorable_mapping_iff.1 hdata).2.1)

theorem toggle_storable {id enabled : Value} {r : Rule} (hs : s.Storable)
    (h : s.toggle id enabled = some (r, next)) : next.Storable := by
  obtain ⟨prev, hprev, -, rfl, rfl⟩ := toggle_spec h
  exact put_storable hs ((hs prev hprev).with_enabled _)

/-- What a deletion does: the rule with an id is gone. -/
theorem delete_spec {id : Value} (hids : s.ids.Nodup) (h : s.delete id = some next) :
    ∃ prev ∈ s.rules, id = .str prev.id ∧ next.rules = s.rules.eraseP (·.id == prev.id) ∧
      ∀ r ∈ next.rules, r.id ≠ prev.id := by
  obtain ⟨prev, hfind, rfl⟩ := Option.map_eq_some_iff.1 h
  obtain ⟨hmem, hid⟩ := find?_spec hfind
  refine ⟨prev, hmem, hid, rfl, ?_⟩
  have herase : (s.rules.eraseP (·.id == prev.id)).map (·.id) = s.ids.erase prev.id := by
    rw [ids, List.erase_eq_eraseP', List.eraseP_map]
    rfl
  intro r hr hsame
  have hleft : prev.id ∈ s.ids.erase prev.id := by
    rw [← herase]
    exact List.mem_map.2 ⟨r, hr, hsame⟩
  exact hids.not_mem_erase hleft

theorem delete_storable {id : Value} (hs : s.Storable) (h : s.delete id = some next) :
    next.Storable := by
  obtain ⟨r, -, rfl⟩ := Option.map_eq_some_iff.1 h
  exact fun q hq => hs q (List.mem_of_mem_eraseP hq)

theorem reorder_storable {ids : Value} (hs : s.Storable)
    (hroom : s.rules.length ≤ Integer.writeLimit) (h : s.reorder ids = some next) :
    next.Storable := by
  obtain ⟨items, hitems, -⟩ := Option.map_eq_some_iff.1 h
  rw [reorder_eq hitems] at h
  cases h
  intro q hq
  obtain ⟨place, hplace, rfl⟩ := List.mem_iff_getElem.1 hq
  have hplace' : place < (s.ranked items).length := length_numbered (s.ranked items) ▸ hplace
  have hlength := (s.ranked_perm items).length_eq
  rw [getElem_numbered hplace hplace']
  exact ⟨Integer.isWritable_ofNat (by omega),
    (hs _ ((s.ranked_perm items).mem_iff.1 (List.getElem_mem hplace'))).condition⟩

theorem length_reorder {ids : Value} (h : s.reorder ids = some next) :
    next.rules.length = s.rules.length := by
  obtain ⟨items, hitems, -⟩ := Option.map_eq_some_iff.1 h
  rw [reorder_eq hitems] at h
  cases h
  rw [length_numbered, (s.ranked_perm items).length_eq]

end Changing

end Store

/-! ### When an operation changes something -/

namespace Store

section Naming

variable {s : Store}

/-- A rule that a value describes finds an id: its own is not in use, or one of those that are tried
is not. -/
def FindsId (s : Store) (data : Value) (supply : Supply) : Prop :=
  let made := Rule.ofValue (if data.truthy then data else .ofFields []) supply
  made.1.id ∈ s.ids → ∃ k < made.2.patience, made.2.candidate k ∉ s.ids

theorem create_isSome_iff {data : Value} {supply : Supply} :
    (s.create data supply).isSome = true ↔ s.FindsId data supply := by
  rw [create, FindsId]
  rcases Rule.ofValue (if data.truthy then data else .ofFields []) supply with ⟨r, drawn⟩
  dsimp only
  rw [append]
  split
  · next htaken =>
      rw [Option.isSome_map, Supply.freshId?, Supply.search_isSome_iff]
      exact ⟨fun h _ => h, fun h => h (List.contains_iff_mem.1 htaken)⟩
  · next hfree =>
      exact iff_of_true rfl fun htaken => absurd (List.contains_iff_mem.2 htaken) hfree

theorem find?_isSome_iff {v : Value} :
    (s.find? v).isSome = true ↔ ∃ id, v = .str id ∧ id ∈ s.ids := by
  cases v with
  | str id => simp [find?, get?, ids, List.find?_isSome]
  | _ => simp [find?]

/-- A rule of the store is found by its id. -/
theorem find?_of_mem {r : Rule} (hids : s.ids.Nodup) (hr : r ∈ s.rules) :
    s.find? (.str r.id) = some r := by
  obtain ⟨q, hq⟩ := Option.isSome_iff_exists.1
    (find?_isSome_iff.2 ⟨r.id, rfl, List.mem_map_of_mem hr⟩)
  obtain ⟨hmem, hid⟩ := find?_spec hq
  obtain rfl : r = q := List.inj_on_of_nodup_map hids hr hmem (Value.str.inj hid)
  exact hq

/-- What names a rule is no empty text. -/
theorem isSome_named_iff (hs : s.Sound) {α : Type} {v : Value} {f : Rule → α} :
    (if v.truthy then (s.find? v).map f else none).isSome = true ↔
      ∃ id, v = .str id ∧ id ∈ s.ids := by
  rw [← find?_isSome_iff]
  cases hfind : s.find? v with
  | none => simp
  | some r =>
      obtain ⟨hmem, rfl⟩ := find?_spec hfind
      simp [Value.truthy_str (hs.settled r hmem).id_ne]

/-- An update changes something when its mapping names a rule. -/
theorem update_isSome_iff (hs : s.Sound) {data : Value} :
    (s.update data).isSome = true ↔ ∃ entries id, data.fields? = some entries ∧
      Fields.getD entries "id" = .str id ∧ id ∈ s.ids := by
  cases data with
  | mapping origin entries others =>
      change (if (Fields.getD entries "id").truthy then (s.find? (Fields.getD entries "id")).map
        (fun r => (overlay r entries, s.put (overlay r entries))) else none).isSome = true ↔ _
      have hiff := isSome_named_iff hs (v := Fields.getD entries "id")
        (f := fun r => (overlay r entries, s.put (overlay r entries)))
      rw [hiff]
      simp [Value.fields?]
  | _ => simp [update, Value.fields?]

theorem toggle_isSome_iff (hs : s.Sound) {id enabled : Value} :
    (s.toggle id enabled).isSome = true ↔ ∃ i, id = .str i ∧ i ∈ s.ids :=
  isSome_named_iff hs

theorem delete_isSome_iff {id : Value} :
    (s.delete id).isSome = true ↔ ∃ i, id = .str i ∧ i ∈ s.ids := by
  rw [delete, Option.isSome_map, find?_isSome_iff]

theorem reorder_isSome_iff {ids : Value} :
    (s.reorder ids).isSome = true ↔ ids.items?.isSome = true := by
  rw [reorder, Option.isSome_map]

end Naming

end Store

end Admission
