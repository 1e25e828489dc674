import Admission.Condition.Compare
import Admission.Proofs.Table

/-!
# Containers that are shared

A container is the same as another one only when both have the same origin.  So what matters of a
value, as far as the identity of its containers goes, are the origins that stand somewhere in it.  A
path leads to a part of a value, and a part has no origins that the whole has not.

A copy has the text of the value it was made of, and the same alternatives, copied.  It differs in
what is the same as it: that can be a container of the original, but not of the copy.  Where nothing
is shared, there is no such container, and the copy is as good as the original.

Main definitions:

* `Value.origins`, `Expr.origins` — the origins that stand in a value and in a condition.

Main results:

* `Value.lookup_origins` — a path leads to nothing new;
* `Value.alternatives_copied`, `Value.searchText_copied` — what a copy has in common with the value;
* `Value.same_copied` — **a copy is the same as what the value is the same as, where no container
  is shared**.
-/

set_option autoImplicit false

namespace Admission

mutual

/-- The origins of the containers in a value, at every depth. -/
def Value.origins : Value → List Nat
  | .list origin items => origin.toList ++ Value.originsIn items
  | .tuple origin items => origin.toList ++ Value.originsIn items
  | .mapping origin entries others =>
    origin.toList ++ Value.originsUnder entries ++ Value.originsBeside others
  | .object origin _ entries => origin.toList ++ Value.originsUnder entries
  | .expr e => e.origins
  | .rule _ _ _ _ _ _ condition _ => condition.origins
  | _ => []

def Value.originsIn : List Value → List Nat
  | [] => []
  | v :: rest => v.origins ++ Value.originsIn rest

def Value.originsUnder : List (String × Value) → List Nat
  | [] => []
  | (_, v) :: rest => v.origins ++ Value.originsUnder rest

/-- The origins in all the entries under keys that are no texts. -/
def Value.originsBeside : List (Nat × Value × Value) → List Nat
  | [] => []
  | (_, k, v) :: rest => k.origins ++ v.origins ++ Value.originsBeside rest

/-- The origins of the containers in the values that a condition compares with. -/
def Expr.origins : Expr → List Nat
  | .group _ children => Expr.originsIn children
  | .negation child => child.origins
  | .compare _ _ value => value.origins

def Expr.originsIn : List Expr → List Nat
  | [] => []
  | e :: rest => e.origins ++ Expr.originsIn rest

end

namespace Value

/-! ### The origins of parts -/

theorem origins_subset_of_mem {items : List Value} {v : Value} (h : v ∈ items) :
    v.origins ⊆ originsIn items := by
  induction items with
  | nil => cases h
  | cons first rest ih =>
      rw [originsIn]
      rcases List.mem_cons.1 h with rfl | hrest
      · exact List.subset_append_left _ _
      · exact List.subset_append_of_subset_right _ (ih hrest)

theorem origins_subset_of_get? {entries : Fields} {key : String} {v : Value}
    (h : Table.get? entries key = some v) : v.origins ⊆ originsUnder entries := by
  induction entries with
  | nil => cases h
  | cons e rest ih =>
      rw [originsUnder]
      rw [Table.get?_cons] at h
      split at h
      · cases h
        exact List.subset_append_left _ _
      · exact List.subset_append_of_subset_right _ (ih h)

theorem originsIn_texts (texts : List String) : originsIn (texts.map .str) = [] := by
  induction texts with
  | nil => rfl
  | cons text rest ih =>
      rw [List.map_cons, originsIn, ih]
      rfl

theorem originsIn_conditions (children : List Expr) :
    originsIn (children.map .expr) = Expr.originsIn children := by
  induction children with
  | nil => rfl
  | cons child rest ih => rw [List.map_cons, originsIn, ih, Expr.originsIn, origins]

/-- The attributes of a value have no other origins than the value. -/
theorem attributes_origins (v : Value) : originsUnder v.attributes ⊆ v.origins := by
  cases v with
  | object origin kind entries =>
      rw [attributes, origins]
      exact List.subset_append_right _ _
  | expr e =>
      cases e with
      | group operator children =>
          simp [attributes, originsUnder, origins, originsIn_conditions, Expr.origins]
      | negation child => simp [attributes, originsUnder, origins, Expr.origins]
      | compare field operator value => simp [attributes, originsUnder, origins, Expr.origins]
  | target t => simp [attributes, originsUnder, origins, originsIn_texts]
  | rule => simp [attributes, originsUnder, origins]
  | null | bool _ | int _ | float _ | str _ | list _ _ | tuple _ _ | mapping _ _ _ =>
      exact List.nil_subset _

theorem item_origins {items : List Value} {segment : List Char} {next : Value}
    (h : item items segment = .ok (some next)) : next.origins ⊆ originsIn items := by
  rw [item] at h
  split at h
  · cases hdigits : Integer.readDigits segment with
    | error fault =>
        rw [hdigits] at h
        cases h
    | ok n =>
        rw [hdigits] at h
        have hitem : items[n]? = some next := Except.ok.inj h
        exact origins_subset_of_mem (List.mem_of_getElem? hitem)
  · cases h

/-- One segment leads to nothing new. -/
theorem part_origins {v next : Value} {segment : List Char}
    (h : v.part segment = .ok (some next)) : next.origins ⊆ v.origins := by
  cases v with
  | null | bool _ | int _ | float _ | str _ => cases h
  | mapping origin entries others =>
      have hnext := origins_subset_of_get? (Except.ok.inj h)
      rw [origins]
      exact List.subset_append_of_subset_left _ (List.subset_append_of_subset_right _ hnext)
  | list origin items | tuple origin items =>
      rw [origins]
      exact List.subset_append_of_subset_right _ (item_origins h)
  | object _ _ _ | expr _ | target _ | rule =>
      exact List.Subset.trans (origins_subset_of_get? (Except.ok.inj h)) (attributes_origins _)

theorem follow_origins {path : List (List Char)} {v found : Value}
    (h : v.follow path = .ok (some found)) : found.origins ⊆ v.origins := by
  induction path generalizing v with
  | nil =>
      cases h
      exact List.Subset.refl _
  | cons segment rest ih =>
      rw [follow] at h
      split at h
      · next next hnext => exact List.Subset.trans (ih h) (part_origins hnext)
      · cases h
      · cases h

/-- What a path leads to has no other origins than the value. -/
theorem lookup_origins {v found : Value} {path : String} (h : v.lookup path = .ok (some found)) :
    found.origins ⊆ v.origins := by
  rw [lookup] at h
  split at h
  · cases h
  · exact follow_origins h

theorem items?_origins {v : Value} {items : List Value} (h : v.items? = some items) :
    originsIn items ⊆ v.origins := by
  cases v with
  | list origin found | tuple origin found =>
      cases h
      rw [origins]
      exact List.subset_append_right _ _
  | _ => cases h

theorem alternatives_origins {v c : Value} (h : c ∈ v.alternatives) : c.origins ⊆ v.origins := by
  cases v with
  | list origin items | tuple origin items =>
      exact List.Subset.trans (origins_subset_of_mem h) (items?_origins rfl)
  | str s =>
      have htext : ∃ t, c = .str t := by
        rw [alternatives] at h
        split at h
        · obtain ⟨t, -, rfl⟩ := List.mem_map.1 h
          exact ⟨t, rfl⟩
        · exact ⟨s, List.mem_singleton.1 h⟩
      obtain ⟨t, rfl⟩ := htext
      exact List.nil_subset _
  | null | bool _ | int _ | float _ | mapping _ _ _ | object _ _ _ | expr _ | target _ | rule =>
      rw [List.mem_singleton.1 h]
      exact List.Subset.refl _

/-! ### What a copy has in common with the value -/

theorem copiedItems_eq_map (items : List Value) : copiedItems items = items.map copied := by
  induction items with
  | nil => rfl
  | cons v rest ih => rw [copiedItems, ih, List.map_cons]

/-- What holds nothing that a copy would make anew is its own copy. -/
theorem copied_of_isFrozen {v : Value} (h : v.isFrozen = true) : v.copied = v := by
  cases v with
  | null | bool _ | int _ | float _ | str _ => rfl
  | tuple origin items =>
      rw [isFrozen] at h
      rw [copied, if_pos h]
  | list _ _ | mapping _ _ _ | object _ _ _ | expr _ | target _ | rule => cases h

theorem copiedItems_of_areFrozen {items : List Value} (h : areFrozen items = true) :
    copiedItems items = items := by
  induction items with
  | nil => rfl
  | cons v rest ih =>
      rw [areFrozen, Bool.and_eq_true] at h
      rw [copiedItems, copied_of_isFrozen h.1, ih h.2]

@[simp] theorem scalarText_copied (v : Value) : v.copied.scalarText = v.scalarText := by
  cases v with
  | tuple origin items =>
      rw [copied]
      split <;> rfl
  | _ => rfl

/-- The alternatives of a copy are the copies of the alternatives. -/
theorem alternatives_copied (v : Value) : v.copied.alternatives = v.alternatives.map copied := by
  cases v with
  | list origin items =>
      rw [copied, copiedItems_eq_map]
      rfl
  | tuple origin items =>
      have halternatives : (tuple origin items).alternatives = items := rfl
      rw [copied, halternatives, ← copiedItems_eq_map]
      split
      · next hfrozen => rw [halternatives, copiedItems_of_areFrozen hfrozen]
      · rfl
  | str s =>
      rw [copied, alternatives]
      split
      · rw [List.map_map]
        rfl
      · rfl
  | _ => rfl

end Value

mutual

/-- A copy is written like the value. -/
theorem Value.written_copied : ∀ v : Value, v.copied.written = v.written
  | .null => rfl
  | .bool _ => rfl
  | .int _ => rfl
  | .float _ => rfl
  | .str _ => rfl
  | .list _ items => by
      rw [Value.copied, Value.written, Value.written, Value.writtenItems_copied items]
  | .tuple _ items => by
      rw [Value.copied]
      split
      · rfl
      · rw [Value.written, Value.written, Value.writtenItems_copied items]
  | .mapping _ entries others => by
      rw [Value.copied, Value.written, Value.written, Value.writtenEntries_copied entries,
        Value.writtenOthers_copied others]
  | .object _ kind entries => by
      rw [Value.copied, Value.written, Value.written, Value.writtenAttributes_copied entries]
  | .expr e => by rw [Value.copied, Value.written, Value.written, Expr.written_copied e]
  | .target _ => rfl
  | .rule _ _ _ _ _ _ condition _ => by
      rw [Value.copied, Value.written, Value.written, Expr.written_copied condition]

theorem Value.writtenItems_copied : ∀ items : List Value,
    Value.writtenItems (Value.copiedItems items) = Value.writtenItems items
  | [] => rfl
  | v :: rest => by
      rw [Value.copiedItems, Value.writtenItems, Value.writtenItems, Value.written_copied v,
        Value.writtenItems_copied rest]

theorem Value.writtenEntries_copied : ∀ entries : List (String × Value),
    Value.writtenEntries (Value.copiedEntries entries) = Value.writtenEntries entries
  | [] => rfl
  | (_, v) :: rest => by
      rw [Value.copiedEntries, Value.writtenEntries, Value.writtenEntries, Value.written_copied v,
        Value.writtenEntries_copied rest]

theorem Value.writtenOthers_copied : ∀ others : List (Nat × Value × Value),
    Value.writtenOthers (Value.copiedOthers others) = Value.writtenOthers others
  | [] => rfl
  | (_, k, v) :: rest => by
      rw [Value.copiedOthers, Value.writtenOthers, Value.writtenOthers, Value.written_copied k,
        Value.written_copied v, Value.writtenOthers_copied rest]

theorem Value.writtenAttributes_copied : ∀ entries : List (String × Value),
    Value.writtenAttributes (Value.copiedEntries entries) = Value.writtenAttributes entries
  | [] => rfl
  | (_, v) :: rest => by
      rw [Value.copiedEntries, Value.writtenAttributes, Value.writtenAttributes,
        Value.written_copied v, Value.writtenAttributes_copied rest]

theorem Expr.written_copied : ∀ e : Expr, e.copied.written = e.written
  | .group _ children => by
      rw [Expr.copied, Expr.written, Expr.written, Expr.writtenAll_copied children]
  | .negation child => by rw [Expr.copied, Expr.written, Expr.written, Expr.written_copied child]
  | .compare _ _ value => by
      rw [Expr.copied, Expr.written, Expr.written, Value.written_copied value]

theorem Expr.writtenAll_copied :
    ∀ children : List Expr, Expr.writtenAll (Expr.copiedAll children) = Expr.writtenAll children
  | [] => rfl
  | e :: rest => by
      rw [Expr.copiedAll, Expr.writtenAll, Expr.writtenAll, Expr.written_copied e,
        Expr.writtenAll_copied rest]

end

namespace Value

theorem searchText_copied (v : Value) : v.copied.searchText = v.searchText := by
  cases v with
  | list _ _ | mapping _ _ _ | object _ _ _ | expr _ | rule => exact written_copied _
  | tuple origin items =>
      rw [copied]
      split
      · rfl
      · next hfresh =>
          have hwritten := written_copied (.tuple origin items)
          rw [copied, if_neg hfresh] at hwritten
          exact hwritten
  | _ => rfl

theorem normalized_of_scalarText {v : Value} {s : String} (h : v.scalarText = some s) :
    v.normalized = .str s := by
  rw [normalized, h]

theorem normalized_of_none {v : Value} (h : v.scalarText = none) : v.normalized = v := by
  rw [normalized, h]

theorem normalized_origins (v : Value) : v.normalized.origins ⊆ v.origins := by
  cases htext : v.scalarText with
  | some s =>
      rw [normalized_of_scalarText htext]
      exact List.nil_subset _
  | none =>
      rw [normalized_of_none htext]
      exact List.Subset.refl _

/-- A copy stands for the number that the value stands for. -/
theorem number?_normalized_copied (v : Value) :
    v.copied.normalized.number? = v.normalized.number? := by
  cases v with
  | tuple origin items =>
      rw [copied]
      split <;> rfl
  | _ => rfl

/-! ### What is the same as a copy -/

theorem sameOrigin_none (o : Option Nat) : sameOrigin o none = false := by
  cases o <;> rfl

theorem sameOrigin_of_disjoint {o p : Option Nat} {inner others : List Nat}
    (h : List.Disjoint (o.toList ++ inner) (p.toList ++ others)) : sameOrigin o p = false := by
  cases o with
  | none => rfl
  | some a =>
      cases p with
      | none => rfl
      | some b =>
          have hne : a ≠ b := by
            rintro rfl
            exact h List.mem_cons_self List.mem_cons_self
          exact beq_eq_false_iff_ne.2 hne

/-- A tuple that is not empty is the same as a tuple of its origin. -/
theorem identical_tuple_cons (o p : Option Nat) (xs : List Value) (y : Value) (ys : List Value) :
    identical (.tuple o xs) (.tuple p (y :: ys)) = sameOrigin o p := by
  cases xs <;> rfl

/-- A container is the very same as a copy exactly when it is the very same as the value, if
nothing is shared. -/
theorem identical_copied {a b : Value} (h : List.Disjoint a.origins b.origins) :
    identical a b.copied = identical a b := by
  cases b with
  | null | bool _ | int _ | float _ | str _ | target _ => rfl
  | expr _ | rule =>
      cases a with
      | tuple o xs => cases xs <;> rfl
      | _ => rfl
  | list p ys =>
      cases a with
      | list o xs => exact (sameOrigin_none o).trans (sameOrigin_of_disjoint h).symm
      | tuple o xs => cases xs <;> rfl
      | _ => rfl
  | mapping p ys vs =>
      cases a with
      | mapping o xs us =>
          rw [origins, origins, List.append_assoc, List.append_assoc] at h
          exact (sameOrigin_none o).trans (sameOrigin_of_disjoint h).symm
      | tuple o xs => cases xs <;> rfl
      | _ => rfl
  | object p kind ys =>
      cases a with
      | object o _ xs => exact (sameOrigin_none o).trans (sameOrigin_of_disjoint h).symm
      | tuple o xs => cases xs <;> rfl
      | _ => rfl
  | tuple p ys =>
      rw [copied]
      split
      · rfl
      · next hfresh =>
          cases ys with
          | nil => exact absurd rfl hfresh
          | cons y ys =>
              cases a with
              | tuple o xs =>
                  rw [copiedItems, identical_tuple_cons, identical_tuple_cons, sameOrigin_none,
                    sameOrigin_of_disjoint h]
              | _ => rfl

/-- What is compared with a container is compared with it as such. -/
theorem same_of_none {a b : Value} (h : b.scalarText = none) : a.same b = identical a b := by
  cases b with
  | str s => cases h
  | _ => cases a <;> rfl

/-- **A copy is the same as what the value is the same as, where no container is shared.** -/
theorem same_copied {a b : Value} (h : List.Disjoint a.origins b.origins) :
    a.normalized.same b.copied.normalized = a.normalized.same b.normalized := by
  have hcopy := scalarText_copied b
  cases htext : b.scalarText with
  | some s => rw [normalized_of_scalarText htext, normalized_of_scalarText (hcopy.trans htext)]
  | none =>
      have hapart : List.Disjoint a.normalized.origins b.origins :=
        fun _ ha hb => h (normalized_origins a ha) hb
      rw [normalized_of_none htext, normalized_of_none (hcopy.trans htext), same_of_none htext,
        same_of_none (hcopy.trans htext), identical_copied hapart]

end Value

end Admission
