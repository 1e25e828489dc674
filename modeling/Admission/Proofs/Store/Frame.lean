import Admission.Proofs.Store.Storable

/-!
# What an operation of the store leaves alone

An operation names a rule by its id, and changes that rule only: every other one stays what it is,
at its place.  A new rule goes to the end under an id that was not in use.  A value that is the id
of no rule, a mapping without one, or something of another shape altogether names nothing, and then
the store stays as it is.

Nothing is asked of the rules here, but that their ids are distinct.  In particular one of them may
have the empty text as its id, which no rule has that was made from a value.  Such a rule can only
be deleted: to update it or to switch it counts as naming nothing.

Main definitions:

* `Rule.requestedId?` — the id that a value asks for;
* `Store.Unnamed` — a value is the id of no rule;
* `Store.Ignores` — an operation finds nothing to do.

Main results:

* `Store.put_of_mem`, `Store.eraseP_of_mem` — a rule is replaced or taken out at its place;
* `Store.create_appends` — a new rule goes to the end;
* `Store.changes_only_named` — **only what an operation names is changed**.
-/

set_option autoImplicit false

namespace Admission

theorem Value.fields?_eq_some_iff {data : Value} {entries : Fields} :
    data.fields? = some entries ↔ ∃ origin others, data = .mapping origin entries others := by
  cases data <;> simp [Value.fields?]

/-- The id that a value asks for: a text with something in it. -/
def Rule.requestedId? (data : Value) : Option String := nonEmpty? (Fields.getD (fieldsOf data) "id")

/-- A value that asks for an id describes a rule with that id, and none is drawn. -/
theorem Rule.ofValue_of_requestedId? {data : Value} {id : String}
    (h : requestedId? data = some id) (supply : Supply) :
    (ofValue data supply).1.id = id ∧ (ofValue data supply).2 = supply := by
  rw [ofValue, ofFields, show nonEmpty? (Fields.getD (fieldsOf data) "id") = some id from h]
  exact ⟨rfl, rfl⟩

/-- What counts as false has no entries to describe a rule by. -/
theorem Rule.fieldsOf_of_not_truthy {data : Value} (h : data.truthy = false) :
    fieldsOf data = [] := by
  cases data with
  | mapping origin entries others =>
      have hempty : entries = [] ∧ others = [] := by simpa [Value.truthy] using h
      exact hempty.1
  | rule => cases h
  | _ => rfl

namespace Store

variable {s : Store} {r q : Rule} {place : Nat}

/-! ### A rule and its place -/

/-- A rule is put in the place of the one with its id. -/
theorem putFirst_of_getElem? {rules : List Rule} (hids : (rules.map (·.id)).Nodup)
    (hr : rules[place]? = some r) (hq : q.id = r.id) : putFirst q rules = rules.set place q := by
  induction rules generalizing place with
  | nil => cases hr
  | cons p rest ih =>
      obtain ⟨hhead, hrest⟩ := List.nodup_cons.1 hids
      cases place with
      | zero =>
          obtain rfl : p = r := Option.some.inj hr
          rw [putFirst, if_pos (by simpa using hq.symm), List.set_cons_zero]
      | succ place =>
          have hne : p.id ≠ q.id := by
            rintro hp
            have hmem : r.id ∈ rest.map (·.id) := List.mem_map_of_mem (List.mem_of_getElem? hr)
            exact hhead (show p.id ∈ rest.map (·.id) from hp.trans hq ▸ hmem)
          rw [putFirst, if_neg (by simpa using hne), List.set_cons_succ, ih hrest hr]

/-- The rule with an id is taken out at its place. -/
theorem eraseP_of_getElem? {rules : List Rule} (hids : (rules.map (·.id)).Nodup)
    (hr : rules[place]? = some r) : rules.eraseP (·.id == r.id) = rules.eraseIdx place := by
  induction rules generalizing place with
  | nil => cases hr
  | cons p rest ih =>
      obtain ⟨hhead, hrest⟩ := List.nodup_cons.1 hids
      cases place with
      | zero =>
          obtain rfl : p = r := Option.some.inj hr
          rw [List.eraseP_cons_of_pos (by simp), List.eraseIdx_cons_zero]
      | succ place =>
          have hne : p.id ≠ r.id := by
            rintro hp
            have hmem : r.id ∈ rest.map (·.id) := List.mem_map_of_mem (List.mem_of_getElem? hr)
            exact hhead (show p.id ∈ rest.map (·.id) from hp ▸ hmem)
          rw [List.eraseP_cons_of_neg (by simpa using hne), List.eraseIdx_cons_succ, ih hrest hr]

theorem put_of_getElem? (hids : s.ids.Nodup) (hr : s.rules[place]? = some r) (hq : q.id = r.id) :
    s.put q = ⟨s.rules.set place q⟩ := by
  rw [put, putFirst_of_getElem? hids hr hq]

theorem find?_of_getElem? (hids : s.ids.Nodup) (hr : s.rules[place]? = some r) :
    s.find? (.str r.id) = some r :=
  find?_of_mem hids (List.mem_of_getElem? hr)

/-! ### Operations that name a rule -/

/-- Deleting a rule takes it out at its place. -/
theorem delete_of_getElem? (hids : s.ids.Nodup) (hr : s.rules[place]? = some r) :
    s.delete (.str r.id) = some ⟨s.rules.eraseIdx place⟩ := by
  rw [delete, find?_of_getElem? hids hr, Option.map_some, eraseP_of_getElem? hids hr]

/-- Switching a rule replaces it at its place by itself, but for the switch. -/
theorem toggle_of_getElem? (hids : s.ids.Nodup) (hr : s.rules[place]? = some r) (hid : r.id ≠ "")
    (enabled : Value) :
    s.toggle (.str r.id) enabled = some ({ r with enabled := enabled.truthy },
      ⟨s.rules.set place { r with enabled := enabled.truthy }⟩) := by
  rw [toggle, if_pos (Value.truthy_str hid), find?_of_getElem? hids hr, Option.map_some]
  dsimp only
  rw [put_of_getElem? (q := { r with enabled := enabled.truthy }) hids hr rfl]

/-- Updating a rule replaces it at its place by itself with the entries laid over it. -/
theorem update_of_getElem? (hids : s.ids.Nodup) (hr : s.rules[place]? = some r) (hid : r.id ≠ "")
    {data : Value} {entries : Fields} (hdata : data.fields? = some entries)
    (hentries : Fields.getD entries "id" = .str r.id) :
    s.update data = some (overlay r entries, ⟨s.rules.set place (overlay r entries)⟩) := by
  obtain ⟨origin, others, rfl⟩ := Value.fields?_eq_some_iff.1 hdata
  rw [update]
  dsimp only
  rw [hentries, if_pos (Value.truthy_str hid), find?_of_getElem? hids hr, Option.map_some,
    put_of_getElem? (q := overlay r entries) hids hr rfl]

/-! ### New rules -/

theorem length_ids (s : Store) : s.ids.length = s.rules.length := List.length_map _

theorem create_eq (s : Store) (data : Value) (supply : Supply) :
    s.create data supply = s.append (Rule.ofValue data supply).1 (Rule.ofValue data supply).2 := by
  cases h : data.truthy with
  | true => rw [create, h, if_pos rfl]
  | false =>
      have hnone : Rule.fieldsOf (.ofFields []) = Rule.fieldsOf data :=
        (Rule.fieldsOf_of_not_truthy h).symm
      rw [create, h, if_neg Bool.false_ne_true, Rule.ofValue, Rule.ofValue, hnone]

/-- A rule whose id is not in use is put at the end as it is. -/
theorem append_of_not_mem (h : r.id ∉ s.ids) (supply : Supply) :
    s.append r supply = some (r, ⟨s.rules ++ [r]⟩, supply) := by
  rw [append, if_neg (by simpa using h)]

/-- The rule that a value describes goes to the end, under an id that was not in use: the one that
the value asks for, if that is free. -/
theorem create_appends {data : Value} {supply : Supply} (h : s.FindsId data supply) :
    ∃ r next rest, s.create data supply = some (r, next, rest) ∧
      next.rules = s.rules ++ [r] ∧ r.id ∉ s.ids ∧
      r = { (Rule.ofValue data supply).1 with id := r.id } ∧
      ∀ id, Rule.requestedId? data = some id → id ∉ s.ids → r.id = id ∧ rest = supply := by
  obtain ⟨⟨r, next, rest⟩, hcreate⟩ := Option.isSome_iff_exists.1 (create_isSome_iff.2 h)
  have happend := hcreate
  rw [create_eq] at happend
  obtain ⟨hrules, hnew, hr⟩ := append_spec happend
  refine ⟨r, next, rest, hcreate, hrules, hnew, ?_, ?_⟩
  · rcases hr with rfl | ⟨-, hr⟩
    · rfl
    · exact hr
  · intro id hrequested hfree
    obtain ⟨hid, hsupply⟩ := Rule.ofValue_of_requestedId? hrequested supply
    rw [append_of_not_mem (hid.symm ▸ hfree)] at happend
    cases happend
    exact ⟨hid, hsupply⟩

/-! ### Operations that name nothing -/

/-- The value is the id of no rule: it is no text, or a text that is not in use. -/
def Unnamed (s : Store) (v : Value) : Prop := ∀ id, v = .str id → id ∉ s.ids

theorem find?_eq_none_iff {v : Value} : s.find? v = none ↔ s.Unnamed v := by
  rw [← Option.not_isSome_iff_eq_none, find?_isSome_iff]
  simp [Unnamed]

/-- The operation answers with a rule, or says that it was done. -/
def finds (s : Store) : Change → Bool
  | .replace _ | .create _ => true
  | .update data => (s.update data).isSome
  | .delete id => (s.delete id).isSome
  | .reorder ids => (s.reorder ids).isSome
  | .toggle id enabled => (s.toggle id enabled).isSome

/-- The operation answers with nothing, and leaves the store as it is. -/
def Ignores (s : Store) (c : Change) : Prop :=
  s.finds c = false ∧ ∀ supply, s.step supply c = some (s, supply)

theorem ignores_of_finds {c : Change} (h : s.finds c = false) : s.Ignores c := by
  refine ⟨h, fun supply => ?_⟩
  cases c with
  | replace | create => cases h
  | update | delete | reorder | toggle =>
      rw [step, Option.not_isSome_iff_eq_none.1 (Bool.eq_false_iff.1 h)]
      rfl

/-- Neither an id of no rule nor the empty text leads to a rule. -/
theorem named_eq_none {v : Value} (h : s.Unnamed v ∨ v = .str "") {α : Type} (f : Rule → α) :
    (if v.truthy then (s.find? v).map f else none) = none := by
  rcases h with h | rfl
  · rw [find?_eq_none_iff.2 h, Option.map_none, ite_self]
  · rfl

theorem ignores_delete {id : Value} (h : s.Unnamed id) : s.Ignores (.delete id) :=
  ignores_of_finds (by rw [finds, delete, find?_eq_none_iff.2 h]; rfl)

theorem ignores_toggle {id : Value} (h : s.Unnamed id ∨ id = .str "") (enabled : Value) :
    s.Ignores (.toggle id enabled) :=
  ignores_of_finds (by rw [finds, toggle, named_eq_none h]; rfl)

theorem ignores_update {data : Value} {entries : Fields} (hdata : data.fields? = some entries)
    (h : s.Unnamed (Fields.getD entries "id") ∨ Fields.getD entries "id" = .str "") :
    s.Ignores (.update data) := by
  obtain ⟨origin, others, rfl⟩ := Value.fields?_eq_some_iff.1 hdata
  refine ignores_of_finds ?_
  rw [finds, update]
  dsimp only
  rw [named_eq_none h]
  rfl

theorem ignores_update_of_fields? {data : Value} (h : data.fields? = none) :
    s.Ignores (.update data) := by
  refine ignores_of_finds ?_
  cases data with
  | mapping => cases h
  | _ => rfl

theorem ignores_reorder {ids : Value} (h : ids.items? = none) : s.Ignores (.reorder ids) :=
  ignores_of_finds (by rw [finds, reorder, h]; rfl)

/-! ### Every operation -/

/-- **Only what an operation names is changed**, in a store whose ids are distinct.

A new rule is appended under an id that was not in use, the one that is asked for if it is free.  A
rule that is named is taken out, or replaced at its place by one with its id; all others are as they
were, in the same order.  What names no rule, as null does and whatever else is no text, or has the
wrong shape, is answered with nothing and leaves the whole store as it is.  So does the empty text,
but for the deletion of a rule that has it as its id. -/
theorem changes_only_named (s : Store) (hids : s.ids.Nodup) :
    (∀ data supply, s.FindsId data supply → ∃ r next rest,
      s.create data supply = some (r, next, rest) ∧ next.rules = s.rules ++ [r] ∧ r.id ∉ s.ids ∧
      r = { (Rule.ofValue data supply).1 with id := r.id } ∧
      ∀ id, Rule.requestedId? data = some id → id ∉ s.ids → r.id = id ∧ rest = supply) ∧
    (∀ place r, s.rules[place]? = some r →
      s.delete (.str r.id) = some ⟨s.rules.eraseIdx place⟩ ∧
      (r.id ≠ "" →
        (∀ enabled, s.toggle (.str r.id) enabled = some ({ r with enabled := enabled.truthy },
          ⟨s.rules.set place { r with enabled := enabled.truthy }⟩)) ∧
        ∀ data entries, data.fields? = some entries → Fields.getD entries "id" = .str r.id →
          ∃ q, q.id = r.id ∧ s.update data = some (q, ⟨s.rules.set place q⟩))) ∧
    (∀ id, s.Unnamed id → s.Ignores (.delete id)) ∧
    (∀ id, s.Unnamed id ∨ id = .str "" →
      (∀ enabled, s.Ignores (.toggle id enabled)) ∧
      ∀ data entries, data.fields? = some entries → Fields.getD entries "id" = id →
        s.Ignores (.update data)) ∧
    (∀ data, data.fields? = none → s.Ignores (.update data)) ∧
    (∀ ids, ids.items? = none → s.Ignores (.reorder ids)) := by
  refine ⟨fun _ _ hfinds => create_appends hfinds, ?_, fun _ hid => ignores_delete hid, ?_,
    fun _ hdata => ignores_update_of_fields? hdata, fun _ hitems => ignores_reorder hitems⟩
  · intro place r hr
    refine ⟨delete_of_getElem? hids hr, fun hid => ⟨toggle_of_getElem? hids hr hid, ?_⟩⟩
    intro data entries hdata hentries
    exact ⟨overlay r entries, rfl, update_of_getElem? hids hr hid hdata hentries⟩
  · rintro id hid
    refine ⟨ignores_toggle hid, ?_⟩
    rintro data entries hdata rfl
    exact ignores_update hdata hid

/-- A rule under a free id is added, the second of three is deleted, switched and renamed, and
some arguments name nothing. -/
theorem changes_only_named_threeRules :
    threeRules.ids.Nodup ∧
      (∃ r next rest, threeRules.create (.ofFields [("id", .str "d")]) (Supply.counting 0 1) =
        some (r, next, rest) ∧ r.id = "d" ∧ next.rules = threeRules.rules ++ [r]) ∧
      threeRules.delete (.str "b") = some ⟨[Rule.blank "a", Rule.blank "c"]⟩ ∧
      (∃ q, q.id = "b" ∧ q.enabled = false ∧ threeRules.toggle (.str "b") (.int 0) =
        some (q, ⟨[Rule.blank "a", q, Rule.blank "c"]⟩)) ∧
      (∃ q, q.id = "b" ∧
        threeRules.update (.ofFields [("name", .str "halt"), ("id", .str "b")]) =
          some (q, ⟨[Rule.blank "a", q, Rule.blank "c"]⟩)) ∧
      threeRules.Ignores (.delete (.str "x")) ∧
      threeRules.Ignores (.toggle .null (.bool false)) ∧
      threeRules.Ignores (.update (.ofFields [("id", .str "")])) ∧
      threeRules.Ignores (.update (.str "b")) ∧
      threeRules.Ignores (.reorder (.ofFields [("c", .int 0)])) := by
  have hids : threeRules.ids.Nodup := by decide +kernel
  have hfree : (Rule.ofValue (.ofFields [("id", .str "d")]) (Supply.counting 0 1)).1.id ∉
      threeRules.ids := by decide +kernel
  obtain ⟨hcreate, hnamed, hdelete, hempty, hupdate, hreorder⟩ := changes_only_named threeRules hids
  obtain ⟨r, next, rest, hcreated, hrules, -, -, hrequested⟩ :=
    hcreate (.ofFields [("id", .str "d")]) (Supply.counting 0 1) fun htaken => absurd htaken hfree
  have hplace : threeRules.rules[1]? =
      some { Rule.blank "b" with target := .commands ["stop"] } := rfl
  have hb : (Rule.blank "b").id ≠ "" := by decide
  obtain ⟨hdeleted, hnonempty⟩ := hnamed 1 _ hplace
  obtain ⟨htoggle, hchange⟩ := hnonempty hb
  obtain ⟨q, hq, hupdated⟩ :=
    hchange (.ofFields [("name", .str "halt"), ("id", .str "b")]) _ rfl rfl
  have hx : threeRules.Unnamed (.str "x") := by
    rintro id hid
    cases hid
    decide +kernel
  exact ⟨hids,
    ⟨r, next, rest, hcreated, (hrequested "d" (by decide +kernel) (by decide +kernel)).1, hrules⟩,
    hdeleted, ⟨_, rfl, rfl, htoggle (.int 0)⟩, ⟨q, hq, hupdated⟩, hdelete _ hx,
    (hempty .null (.inl nofun)).1 _, (hempty (.str "") (.inr rfl)).2 _ _ rfl rfl,
    hupdate _ rfl, hreorder _ rfl⟩

end Store

end Admission
