import Admission.Proofs.Store.Frame

/-!
# Updating a rule part by part

To update a rule, it is taken apart into entries, the new entries are laid over these, and the
result is made into a rule again.  Each part of a rule is made from the entry under its own key, and
a rule that is in a store is what its own entries describe.  So a part that the new entries do not
mention survives as it is, conditions with everything in them, and one that they mention becomes
what that entry alone makes of it.

Main definitions:

* `Rule.Part`, `Rule.Part.key` — the parts of a rule besides its id, and where entries give them;
* `Rule.Part.Agree` — two rules agree in a part;
* `Rule.IsOverlay` — a rule is another one with entries laid over it, part by part.

Main results:

* `Rule.Part.agree_ofFieldsWithId` — a part depends on the entry under its key alone;
* `Store.overlay_isOverlay` — **updating works part by part**;
* `Store.overlay_eq_of_get?` — the entries count by what is found in them.
-/

set_option autoImplicit false

namespace Admission

/-! ### Parts of a rule -/

namespace Rule

/-- A part of a rule besides its id. -/
inductive Part where
  | name
  | enabled
  | priority
  | action
  | target
  | condition
  | response
  deriving DecidableEq, Repr

namespace Part

/-- The key under which entries give the part. -/
def key : Part → String
  | name => "name"
  | enabled => "enabled"
  | priority => "priority"
  | action => "action"
  | target => "target"
  | condition => "condition"
  | response => "response"

/-- Two rules agree in the part. -/
def Agree : Part → Rule → Rule → Prop
  | name, a, b => a.name = b.name
  | enabled, a, b => a.enabled = b.enabled
  | priority, a, b => a.priority = b.priority
  | action, a, b => a.action = b.action
  | target, a, b => a.target = b.target
  | condition, a, b => a.condition = b.condition
  | response, a, b => a.response = b.response

theorem key_ne_id (p : Part) : p.key ≠ "id" := by cases p <;> decide

/-- A part depends on the entry under its key alone. -/
theorem agree_ofFieldsWithId (p : Part) {a b : Fields}
    (h : Fields.getD a p.key = Fields.getD b p.key) (id other : String) :
    p.Agree (ofFieldsWithId id a) (ofFieldsWithId other b) := by
  cases p <;> simp only [key] at h <;> simp only [Agree, ofFieldsWithId, h]

end Part

/-- Rules with the same id that agree in all parts are the same. -/
theorem eq_of_agree {a b : Rule} (hid : a.id = b.id) (h : ∀ p : Part, p.Agree a b) : a = b := by
  cases a
  cases b
  simp only [mk.injEq]
  exact ⟨hid, h .name, h .enabled, h .priority, h .action, h .target, h .condition, h .response⟩

/-- The rule that a value describes is made of its entries. -/
theorem exists_ofValue_eq (v : Value) (supply : Supply) :
    ∃ id, (ofValue v supply).1 = ofFieldsWithId id (fieldsOf v) := by
  rw [ofValue, ofFields]
  split
  · exact ⟨_, rfl⟩
  · exact ⟨_, rfl⟩

/-- The rule is another one with entries laid over it, part by part: what the entries do not mention
is kept, and what they mention is taken from the entry that stands last under the key, as if it
stood alone. -/
structure IsOverlay (q r : Rule) (entries : Fields) : Prop where
  id : q.id = r.id
  kept : ∀ p : Part, p.key ∉ Table.keys entries → p.Agree q r
  taken : ∀ (p : Part) before v after, entries = before ++ (p.key, v) :: after →
    p.key ∉ Table.keys after → ∀ supply, p.Agree q (ofValue (.ofFields [(p.key, v)]) supply).1

end Rule

namespace Store

variable {r : Rule} {entries : Fields}

/-- What an update makes a part of. -/
theorem getD_overlaid (p : Rule.Part) (r : Rule) (entries : Fields) :
    Fields.getD ((r.toFields.overlay entries).set "id" (.str r.id)) p.key =
      ((Table.get? entries.reverse p.key).or (Table.get? r.toFields p.key)).getD .null := by
  rw [Fields.getD, Table.get?_set, if_neg p.key_ne_id, Table.get?_overlay]

/-- **Updating works part by part**: a settled rule with entries laid over it. -/
theorem overlay_isOverlay (hr : r.Settled) (entries : Fields) :
    (overlay r entries).IsOverlay r entries where
  id := rfl
  kept := by
    intro p hp
    have hnone : Table.get? entries.reverse p.key = none :=
      Table.get?_eq_none_iff.2 (by simpa [Table.keys] using hp)
    have hsame : Fields.getD ((r.toFields.overlay entries).set "id" (.str r.id)) p.key =
        Fields.getD r.toFields p.key := by
      rw [getD_overlaid, hnone, Option.none_or, Fields.getD]
    have hagree := p.agree_ofFieldsWithId hsame r.id r.id
    rwa [hr.ofFieldsWithId_toFields] at hagree
  taken := by
    rintro p before v after rfl hp supply
    have hnone : Table.get? after.reverse p.key = none :=
      Table.get?_eq_none_iff.2 (by simpa [Table.keys] using hp)
    have hsame : Fields.getD ((r.toFields.overlay (before ++ (p.key, v) :: after)).set "id"
        (.str r.id)) p.key = Fields.getD [(p.key, v)] p.key := by
      rw [getD_overlaid, List.reverse_append, List.reverse_cons, Table.get?_append,
        Table.get?_append, hnone, Fields.getD, Table.get?_cons, if_pos rfl]
      rfl
    obtain ⟨id, hmade⟩ := Rule.exists_ofValue_eq (.ofFields [(p.key, v)]) supply
    rw [hmade]
    exact p.agree_ofFieldsWithId hsame r.id id

/-- Entries in which the same is found are laid over a rule with the same result. -/
theorem overlay_eq_of_get? (r : Rule) {a b : Fields}
    (h : ∀ p : Rule.Part, Table.get? a.reverse p.key = Table.get? b.reverse p.key) :
    overlay r a = overlay r b := by
  refine Rule.eq_of_agree rfl fun p => p.agree_ofFieldsWithId ?_ r.id r.id
  rw [getD_overlaid, getD_overlaid, h p]

end Store

end Admission
