import Admission.Proofs.Condition.Canonical
import Admission.Proofs.Text.Trim
import Admission.Rule.Normal

/-!
# Rules that are settled

Whatever entries describe a rule, the rule that is made of them is canonical, and it is settled: it
is the rule that its own entries describe.  So a rule may be taken apart, kept as a mapping and put
together again without change and without drawing an id.

Main definition: `Rule.Settled` — a canonical rule whose condition is settled.

Main results:

* `Target.cleanKeys_clean`, `Target.Clean.cleanKeys_eq` — cleaning makes keys clean, and leaves
  clean keys alone;
* `Rule.ofFieldsWithId_settled`, `Rule.ofValue_settled` — **every rule that is made is settled**;
* `Rule.Settled.ofValue_toValue`, `Rule.Settled.ofValue_ready` — **a settled rule is made again
  from its mapping and from itself**.
-/

set_option autoImplicit false

namespace Admission

/-! ### Clean keys -/

namespace Target

theorem cleanKey?_eq_some_iff {v : Value} {key : String} :
    cleanKey? v = some key ↔ ∃ s, v = .str s ∧ key = Text.trim s ∧ key ≠ "" := by
  cases v <;> simp only [cleanKey?, reduceCtorEq, false_and, exists_false]
  case str s =>
    split
    · next h => simp_all
    · next h =>
        simp only [Option.some.injEq, Value.str.injEq, exists_eq_left']
        constructor
        · rintro rfl
          exact ⟨rfl, h⟩
        · rintro ⟨rfl, -⟩
          rfl

theorem mem_addKey {keys : List String} {key k : String} :
    k ∈ addKey keys key ↔ k ∈ keys ∨ k = key := by
  unfold addKey
  split
  · next h =>
      have hmem : key ∈ keys := by simpa using h
      constructor
      · exact .inl
      · rintro (h | rfl)
        · exact h
        · exact hmem
  · simp

theorem nodup_addKey {keys : List String} (h : keys.Nodup) (key : String) :
    (addKey keys key).Nodup := by
  unfold addKey
  split
  · exact h
  · next hnew =>
      have hnew : key ∉ keys := by simpa using hnew
      refine List.nodup_append.2 ⟨h, by simp, ?_⟩
      intro a ha b hb hab
      rw [List.mem_singleton.1 hb] at hab
      exact hnew (hab ▸ ha)

theorem mem_foldl_addKey {k : String} (new : List String) (keys : List String) :
    k ∈ new.foldl addKey keys ↔ k ∈ keys ∨ k ∈ new := by
  induction new generalizing keys with
  | nil => simp
  | cons key rest ih => rw [List.foldl_cons, ih, mem_addKey, List.mem_cons, or_assoc]

theorem nodup_foldl_addKey (new : List String) {keys : List String} (h : keys.Nodup) :
    (new.foldl addKey keys).Nodup := by
  induction new generalizing keys with
  | nil => exact h
  | cons key rest ih => exact ih (nodup_addKey h key)

/-- Keys that are all different are added one after the other. -/
theorem foldl_addKey_of_nodup (new keys : List String) (h : (keys ++ new).Nodup) :
    new.foldl addKey keys = keys ++ new := by
  induction new generalizing keys with
  | nil => simp
  | cons key rest ih =>
      have hnew : keys.contains key = false := by
        obtain ⟨_, _, hdisjoint⟩ := List.nodup_append.1 h
        rw [Bool.eq_false_iff, ne_eq, List.contains_iff_mem]
        intro hmem
        exact hdisjoint key hmem key List.mem_cons_self rfl
      rw [List.foldl_cons, addKey, hnew, if_neg Bool.false_ne_true, ih _ (by simpa using h)]
      simp

theorem mem_cleanKeys {items : List Value} {key : String} :
    key ∈ cleanKeys items ↔ ∃ s, .str s ∈ items ∧ key = Text.trim s ∧ key ≠ "" := by
  simp only [cleanKeys, mem_foldl_addKey, List.not_mem_nil, false_or, List.mem_filterMap,
    cleanKey?_eq_some_iff]
  constructor
  · rintro ⟨_, hmem, s, rfl, hs⟩
    exact ⟨s, hmem, hs⟩
  · rintro ⟨s, hmem, hs⟩
    exact ⟨.str s, hmem, s, rfl, hs⟩

/-- Keys are clean when they are trimmed, not empty and pairwise different. -/
def CleanKeys (keys : List String) : Prop :=
  keys.Nodup ∧ ∀ key ∈ keys, key ≠ "" ∧ Text.trim key = key

theorem cleanKeys_clean (items : List Value) : CleanKeys (cleanKeys items) := by
  refine ⟨nodup_foldl_addKey _ List.nodup_nil, ?_⟩
  intro key hkey
  obtain ⟨s, _, rfl, hne⟩ := mem_cleanKeys.1 hkey
  exact ⟨hne, Text.trim_trim s⟩

theorem keysOf_clean (v : Value) : CleanKeys (keysOf v) := by
  unfold keysOf
  split
  · exact cleanKeys_clean _
  · split
    · exact cleanKeys_clean _
    · exact ⟨List.nodup_nil, by simp⟩

/-- Clean keys stay as they are. -/
theorem CleanKeys.cleanKeys_eq {keys : List String} (h : CleanKeys keys) :
    cleanKeys (keys.map .str) = keys := by
  have hkept : (keys.map Value.str).filterMap cleanKey? = keys := by
    rw [List.filterMap_map, List.filterMap_eq_map_iff_forall_eq_some.2, List.map_id]
    intro key hkey
    obtain ⟨hne, htrim⟩ := h.2 key hkey
    rw [Function.comp_apply, id_eq]
    exact cleanKey?_eq_some_iff.2 ⟨key, rfl, htrim.symm, hne⟩
  rw [cleanKeys, hkept, foldl_addKey_of_nodup keys [] h.1, List.nil_append]

/-! ### Clean targets -/

theorem ofFields_clean (entries : Fields) : (ofFields entries).Clean := by
  unfold ofFields
  split
  · exact keysOf_clean _
  · exact keysOf_clean _
  · exact ⟨List.nodup_nil, by simp [keys]⟩

theorem everything_clean : Clean .everything := ⟨List.nodup_nil, by simp [keys]⟩

/-- The target of any value is clean. -/
theorem ofValue_clean (v : Value) : (ofValue v).Clean := by
  unfold ofValue
  split
  · exact ofFields_clean _
  · exact everything_clean
  · exact cleanKeys_clean _
  · exact cleanKeys_clean _
  · exact everything_clean

/-- A clean target is read back from its mapping. -/
theorem Clean.ofValue_toValue {t : Target} (h : t.Clean) : ofValue t.toValue = t := by
  cases t with
  | everything => rfl
  | plugins keys =>
      have hread : ofValue (plugins keys).toValue = plugins (cleanKeys (keys.map .str)) := rfl
      have hkeys : CleanKeys keys := h
      rw [hread, hkeys.cleanKeys_eq]
  | commands names =>
      have hread : ofValue (commands names).toValue = commands (cleanKeys (names.map .str)) := rfl
      have hnames : CleanKeys names := h
      rw [hread, hnames.cleanKeys_eq]

end Target

/-! ### Settled rules -/

/-- The rule is canonical, and its condition has no part that a copy would make anew. -/
structure Rule.Settled (r : Rule) : Prop extends r.Canonical where
  copied_eq : r.condition.copied = r.condition

namespace Rule

theorem Settled.condition_settled {r : Rule} (h : r.Settled) : r.condition.Settled :=
  ⟨h.condition_canonical, h.copied_eq⟩

theorem ne_empty_of_nonEmpty? {v : Value} {s : String} (h : nonEmpty? v = some s) : s ≠ "" := by
  unfold nonEmpty? at h
  split at h
  · split at h
    · cases h
    · next hne =>
        cases h
        exact hne
  · cases h

theorem nonEmpty?_str {s : String} (h : s ≠ "") : nonEmpty? (.str s) = some s := if_neg h

/-- The rule that entries describe under an id is settled, whatever the entries are. -/
theorem ofFieldsWithId_settled {id : String} (hid : id ≠ "") (entries : Fields) :
    (ofFieldsWithId id entries).Settled where
  id_ne := hid
  name_ne := by
    change (nonEmpty? (entries.getD "name")).getD defaultName ≠ ""
    cases h : nonEmpty? (entries.getD "name") with
    | none => decide
    | some name => exact ne_empty_of_nonEmpty? h
  target_clean := Target.ofValue_clean _
  condition_canonical := (Expr.ofValue_settled _).canonical
  copied_eq := (Expr.ofValue_settled _).copied_eq

theorem drawId_ne_empty (supply : Supply) : supply.drawId.1 ≠ "" := by
  intro h
  have hlength := congrArg String.length h
  simp [Supply.drawId, Supply.draw, Supply.idLength] at hlength

/-- The rule that a value describes is settled, whatever the value is and whatever ids are
drawn. -/
theorem ofValue_settled (v : Value) (supply : Supply) : (ofValue v supply).1.Settled := by
  unfold ofValue ofFields
  split
  · next id hid => exact ofFieldsWithId_settled (ne_empty_of_nonEmpty? hid) _
  · exact ofFieldsWithId_settled (drawId_ne_empty supply) _

/-- A settled rule is the rule that its own entries describe. -/
theorem Settled.ofFieldsWithId_toFields {r : Rule} (h : r.Settled) :
    ofFieldsWithId r.id r.toFields = r := by
  have hparts : ofFieldsWithId r.id r.toFields =
      { id := r.id
        name := (nonEmpty? (.str r.name)).getD defaultName
        enabled := r.enabled
        priority := r.priority
        action := if (Value.str r.action.name).isStr "bypass" then .bypass else .block
        target := Target.ofValue r.target.toValue
        condition := Expr.ofValue r.condition.toValue
        response := r.response } := rfl
  have haction :
      (if (Value.str r.action.name).isStr "bypass" then Action.bypass else .block) = r.action := by
    cases r.action <;> rfl
  rw [hparts, haction, nonEmpty?_str h.name_ne, h.target_clean.ofValue_toValue,
    h.condition_settled.ofValue_toValue_eq]
  rfl

/-- Nothing changes, and no id is drawn, when a settled rule is made again from its entries. -/
theorem Settled.ofFields_toFields {r : Rule} (h : r.Settled) (supply : Supply) :
    ofFields r.toFields supply = (r, supply) := by
  have hid : nonEmpty? (Fields.getD r.toFields "id") = some r.id := nonEmpty?_str h.id_ne
  rw [ofFields, hid]
  simp only [h.ofFieldsWithId_toFields]

theorem Settled.ofValue_toValue {r : Rule} (h : r.Settled) (supply : Supply) :
    ofValue r.toValue supply = (r, supply) :=
  h.ofFields_toFields supply

theorem Settled.ofValue_ready {r : Rule} (h : r.Settled) (supply : Supply) :
    ofValue r.ready supply = (r, supply) :=
  h.ofFields_toFields supply

/-- Rules that are settled are made again from their mappings, in order. -/
theorem ofValues_toValue_of_settled {rules : List Rule} (h : ∀ r ∈ rules, r.Settled)
    (supply : Supply) : ofValues (rules.map toValue) supply = (rules, supply) := by
  induction rules with
  | nil => rfl
  | cons r rest ih =>
      have hr := (h r List.mem_cons_self).ofValue_toValue supply
      have hrest := ih fun q hq => h q (List.mem_cons_of_mem r hq)
      simp only [List.map_cons, ofValues, hr, hrest]

end Rule

end Admission
