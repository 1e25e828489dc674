import Admission.Proofs.Value.Origin
import Admission.Value.Equal

/-!
# Values that equal their copies

Whether two values are equal depends on the objects in them.  Objects of some kinds compare by their
attributes; an object of any other kind is equal to itself only, and never to a copy.  So a value
equals its copies only as long as no object of the second sort stands in it, at whatever depth: such
a value is *data*.

A number that is not a number counts as equal to itself, because a copy keeps it.

Main definitions:

* `Kinds` — which kinds of objects compare by their attributes;
* `Value.equals`, `Expr.equals` — equality under given kinds;
* `Value.isData`, `Expr.isData` — every object in the value, or in the values that a condition
  compares with, compares by its attributes.

Main results:

* `Value.isData_of_equals` — a copy that is equal to anything was made of data;
* `Value.equals_copied`, `Expr.equals_copied` — **two copies are equal exactly when they were made
  of data**.
-/

set_option autoImplicit false

namespace Admission

/-- How objects compare: by their attributes for some kinds, and for all others by being the very
same object. -/
structure Kinds where
  byAttributes : String → Bool

/-- Nothing but records compares by its attributes. -/
def Kinds.records : Kinds := ⟨(· == Value.recordKind)⟩

/-! ### Equality -/

mutual

/-- The values are equal.  A container is always equal to itself. -/
def Value.equals (kinds : Kinds) : Value → Value → Bool
  | .list o xs, .list p ys => Value.sameOrigin o p || Value.equalsItems kinds xs ys
  | .tuple o xs, .tuple p ys => Value.sameOrigin o p || Value.equalsItems kinds xs ys
  | .mapping o xs us, .mapping p ys vs =>
    Value.sameOrigin o p ||
      (xs.length == ys.length && us.length == vs.length
        && (Value.equalsEntries kinds xs ys && Value.equalsOthers kinds us vs))
  | .object o j xs, .object p k ys =>
    Value.sameOrigin o p ||
      (j == k && xs.length == ys.length
        && (kinds.byAttributes j && Value.equalsEntries kinds xs ys))
  | .expr d, .expr e => Expr.equals kinds d e
  | .target s, .target t => s == t
  | .rule i n e p a t c r, .rule i' n' e' p' a' t' c' r' =>
    i == i' && n == n' && e == e' && p == p' && a == a' && t == t' && r == r'
      && Expr.equals kinds c c'
  | .float d, .float e => d == e || d.sameNumber e
  | a, b => Value.scalarEqual a b
termination_by structural a => a

def Value.equalsItems (kinds : Kinds) : List Value → List Value → Bool
  | [], [] => true
  | x :: xs, y :: ys => Value.equals kinds x y && Value.equalsItems kinds xs ys
  | _, _ => false
termination_by structural a => a

/-- Each entry of the first list has an equal one under its key in the second list. -/
def Value.equalsEntries (kinds : Kinds) :
    List (String × Value) → List (String × Value) → Bool
  | [], _ => true
  | (k, x) :: xs, ys =>
    (ys.any fun other => k == other.1 && Value.equals kinds x other.2)
      && Value.equalsEntries kinds xs ys
termination_by structural a => a

/-- Each entry of the first list has an equal one under an equal key in the second list. -/
def Value.equalsOthers (kinds : Kinds) :
    List (Nat × Value × Value) → List (Nat × Value × Value) → Bool
  | [], _ => true
  | (_, k, x) :: xs, ys =>
    (ys.any fun other => Value.equals kinds k other.2.1 && Value.equals kinds x other.2.2)
      && Value.equalsOthers kinds xs ys
termination_by structural a => a

/-- The conditions are equal, with the values that they compare with. -/
def Expr.equals (kinds : Kinds) : Expr → Expr → Bool
  | .group o xs, .group p ys => o == p && Expr.equalsAll kinds xs ys
  | .negation d, .negation e => Expr.equals kinds d e
  | .compare f o v, .compare g p w => f == g && o == p && Value.equals kinds v w
  | _, _ => false
termination_by structural a => a

def Expr.equalsAll (kinds : Kinds) : List Expr → List Expr → Bool
  | [], [] => true
  | d :: ds, e :: es => Expr.equals kinds d e && Expr.equalsAll kinds ds es
  | _, _ => false
termination_by structural a => a

end

/-! ### Data -/

mutual

/-- Every object in the value compares by its attributes. -/
def Value.isData (kinds : Kinds) : Value → Bool
  | .list _ items => Value.areData kinds items
  | .tuple _ items => Value.areData kinds items
  | .mapping _ entries others =>
    Value.entriesAreData kinds entries && Value.othersAreData kinds others
  | .object _ kind entries => kinds.byAttributes kind && Value.entriesAreData kinds entries
  | .expr e => Expr.isData kinds e
  | .rule _ _ _ _ _ _ condition _ => Expr.isData kinds condition
  | _ => true

def Value.areData (kinds : Kinds) : List Value → Bool
  | [] => true
  | v :: rest => v.isData kinds && Value.areData kinds rest

def Value.entriesAreData (kinds : Kinds) : List (String × Value) → Bool
  | [] => true
  | (_, v) :: rest => v.isData kinds && Value.entriesAreData kinds rest

def Value.othersAreData (kinds : Kinds) : List (Nat × Value × Value) → Bool
  | [] => true
  | (_, k, v) :: rest => k.isData kinds && v.isData kinds && Value.othersAreData kinds rest

/-- Every object in the values that the condition compares with compares by its attributes. -/
def Expr.isData (kinds : Kinds) : Expr → Bool
  | .group _ children => Expr.areData kinds children
  | .negation child => Expr.isData kinds child
  | .compare _ _ value => value.isData kinds

def Expr.areData (kinds : Kinds) : List Expr → Bool
  | [] => true
  | e :: rest => Expr.isData kinds e && Expr.areData kinds rest

end

variable {kinds : Kinds}

/-! ### What equals something is data -/

theorem Value.sameOrigin_none_left (o : Option Nat) : sameOrigin none o = false := rfl

mutual

/-- What a copy may keep holds no objects. -/
theorem Value.isData_of_isFrozen : ∀ {v : Value}, v.isFrozen = true → v.isData kinds = true
  | .null, _ => rfl
  | .bool _, _ => rfl
  | .int _, _ => rfl
  | .float _, _ => rfl
  | .str _, _ => rfl
  | .tuple _ _, h => by
      rw [Value.isFrozen] at h
      rw [Value.isData, Value.areData_of_areFrozen h]

theorem Value.areData_of_areFrozen :
    ∀ {items : List Value}, Value.areFrozen items = true → Value.areData kinds items = true
  | [], _ => rfl
  | v :: rest, h => by
      rw [Value.areFrozen, Bool.and_eq_true] at h
      rw [Value.areData, Value.isData_of_isFrozen h.1, Value.areData_of_areFrozen h.2,
        Bool.and_self]

end

mutual

/-- A copy that is equal to anything was made of data: its objects are new, so none of them is the
very same as another one. -/
theorem Value.isData_of_equals :
    ∀ {v w : Value}, v.copied.equals kinds w = true → v.isData kinds = true
  | .null, _, _ => rfl
  | .bool _, _, _ => rfl
  | .int _, _, _ => rfl
  | .float _, _, _ => rfl
  | .str _, _, _ => rfl
  | .target _, _, _ => rfl
  | .list _ items, w, h => by
      cases w with
      | list p ys =>
          rw [Value.copied, Value.equals, Value.sameOrigin_none_left, Bool.false_or] at h
          exact Value.areData_of_equals h
      | _ => cases h
  | .tuple _ items, w, h => by
      rw [Value.isData]
      rw [Value.copied] at h
      -- a tuple without mutable parts is its own copy, and that alone says nothing about equality
      split at h
      · next hfrozen => exact Value.areData_of_areFrozen hfrozen
      · cases w with
        | tuple p ys =>
            rw [Value.equals, Value.sameOrigin_none_left, Bool.false_or] at h
            exact Value.areData_of_equals h
        | _ => cases h
  | .mapping _ entries others, w, h => by
      cases w with
      | mapping p ys vs =>
          rw [Value.copied, Value.equals, Value.sameOrigin_none_left, Bool.false_or,
            Bool.and_eq_true, Bool.and_eq_true, Bool.and_eq_true] at h
          rw [Value.isData, Value.entriesAreData_of_equals h.2.1,
            Value.othersAreData_of_equals h.2.2, Bool.and_self]
      | _ => cases h
  | .object _ kind entries, w, h => by
      cases w with
      | object p k ys =>
          -- the copy is a new object, so that its attributes must have been compared
          rw [Value.copied, Value.equals, Value.sameOrigin_none_left, Bool.false_or,
            Bool.and_eq_true, Bool.and_eq_true, Bool.and_eq_true] at h
          rw [Value.isData, h.2.1, Value.entriesAreData_of_equals h.2.2, Bool.and_self]
      | _ => cases h
  | .expr e, w, h => by
      cases w with
      | expr d =>
          rw [Value.copied, Value.equals] at h
          exact Expr.isData_of_equals h
      | _ => cases h
  | .rule _ _ _ _ _ _ condition _, w, h => by
      cases w with
      | rule =>
          rw [Value.copied, Value.equals, Bool.and_eq_true] at h
          exact Expr.isData_of_equals h.2
      | _ => cases h

theorem Value.areData_of_equals : ∀ {items others : List Value},
    Value.equalsItems kinds (Value.copiedItems items) others = true →
      Value.areData kinds items = true
  | [], _, _ => rfl
  | v :: rest, [], h => by cases h
  | v :: rest, w :: others, h => by
      rw [Value.copiedItems, Value.equalsItems, Bool.and_eq_true] at h
      rw [Value.areData, Value.isData_of_equals h.1, Value.areData_of_equals h.2, Bool.and_self]

theorem Value.entriesAreData_of_equals : ∀ {entries others : List (String × Value)},
    Value.equalsEntries kinds (Value.copiedEntries entries) others = true →
      Value.entriesAreData kinds entries = true
  | [], _, _ => rfl
  | (_, v) :: rest, others, h => by
      rw [Value.copiedEntries, Value.equalsEntries, Bool.and_eq_true, List.any_eq_true] at h
      obtain ⟨⟨other, -, hother⟩, hrest⟩ := h
      rw [Bool.and_eq_true] at hother
      rw [Value.entriesAreData, Value.isData_of_equals hother.2,
        Value.entriesAreData_of_equals hrest, Bool.and_self]

theorem Value.othersAreData_of_equals : ∀ {entries others : List (Nat × Value × Value)},
    Value.equalsOthers kinds (Value.copiedOthers entries) others = true →
      Value.othersAreData kinds entries = true
  | [], _, _ => rfl
  | (_, k, v) :: rest, others, h => by
      rw [Value.copiedOthers, Value.equalsOthers, Bool.and_eq_true, List.any_eq_true] at h
      obtain ⟨⟨other, -, hother⟩, hrest⟩ := h
      rw [Bool.and_eq_true] at hother
      rw [Value.othersAreData, Value.isData_of_equals hother.1, Value.isData_of_equals hother.2,
        Value.othersAreData_of_equals hrest, Bool.and_self, Bool.and_self]

theorem Expr.isData_of_equals :
    ∀ {e d : Expr}, e.copied.equals kinds d = true → e.isData kinds = true
  | .group _ children, d, h => by
      cases d with
      | group p ys =>
          rw [Expr.copied, Expr.equals, Bool.and_eq_true] at h
          exact Expr.areData_of_equals h.2
      | _ => cases h
  | .negation child, d, h => by
      cases d with
      | negation other =>
          rw [Expr.copied, Expr.equals] at h
          rw [Expr.isData]
          exact Expr.isData_of_equals h
      | _ => cases h
  | .compare _ _ value, d, h => by
      cases d with
      | compare g p w =>
          rw [Expr.copied, Expr.equals, Bool.and_eq_true] at h
          exact Value.isData_of_equals h.2
      | _ => cases h

theorem Expr.areData_of_equals : ∀ {children others : List Expr},
    Expr.equalsAll kinds (Expr.copiedAll children) others = true →
      Expr.areData kinds children = true
  | [], _, _ => rfl
  | e :: rest, [], h => by cases h
  | e :: rest, d :: others, h => by
      rw [Expr.copiedAll, Expr.equalsAll, Bool.and_eq_true] at h
      rw [Expr.areData, Expr.isData_of_equals h.1, Expr.areData_of_equals h.2, Bool.and_self]

end

/-! ### Data equals its copies -/

mutual

theorem Value.equals_of_isData :
    ∀ v : Value, v.isData kinds = true → v.copied.equals kinds v.copied = true
  | .null, _ => rfl
  | .bool b, _ => by simp [Value.copied, Value.equals, Value.scalarEqual, Value.integer?]
  | .int i, _ => by simp [Value.copied, Value.equals, Value.scalarEqual, Value.integer?]
  | .float d, _ => by simp [Value.copied, Value.equals]
  | .str s, _ => by simp [Value.copied, Value.equals, Value.scalarEqual]
  | .target t, _ => by simp [Value.copied, Value.equals]
  | .list _ items, h => by
      rw [Value.isData] at h
      rw [Value.copied, Value.equals, Value.equalsItems_of_areData items h, Bool.or_true]
  | .tuple origin items, h => by
      rw [Value.isData] at h
      have hitems := Value.equalsItems_of_areData items h
      rw [Value.copied]
      split
      · next hfrozen =>
          rw [Value.copiedItems_of_areFrozen hfrozen] at hitems
          rw [Value.equals, hitems, Bool.or_true]
      · rw [Value.equals, hitems, Bool.or_true]
  | .mapping _ entries others, h => by
      rw [Value.isData, Bool.and_eq_true] at h
      simp [Value.copied, Value.equals,
        Value.equalsEntries_of_areData entries h.1 (List.Subset.refl _),
        Value.equalsOthers_of_areData others h.2 (List.Subset.refl _)]
  | .object _ kind entries, h => by
      rw [Value.isData, Bool.and_eq_true] at h
      simp [Value.copied, Value.equals, h.1,
        Value.equalsEntries_of_areData entries h.2 (List.Subset.refl _)]
  | .expr e, h => by
      rw [Value.isData] at h
      rw [Value.copied, Value.equals, Expr.equals_of_isData e h]
  | .rule _ _ _ _ _ _ condition _, h => by
      rw [Value.isData] at h
      simp [Value.copied, Value.equals, Expr.equals_of_isData condition h]

theorem Value.equalsItems_of_areData : ∀ items : List Value, Value.areData kinds items = true →
    Value.equalsItems kinds (Value.copiedItems items) (Value.copiedItems items) = true
  | [], _ => rfl
  | v :: rest, h => by
      rw [Value.areData, Bool.and_eq_true] at h
      rw [Value.copiedItems, Value.equalsItems, Value.equals_of_isData v h.1,
        Value.equalsItems_of_areData rest h.2, Bool.and_self]

theorem Value.equalsEntries_of_areData : ∀ entries : List (String × Value),
    Value.entriesAreData kinds entries = true → ∀ {all : List (String × Value)},
    Value.copiedEntries entries ⊆ all →
      Value.equalsEntries kinds (Value.copiedEntries entries) all = true
  | [], _, _, _ => rfl
  | (key, v) :: rest, h, all, hall => by
      -- an entry is looked for among all entries, not only among those that are left
      rw [Value.entriesAreData, Bool.and_eq_true] at h
      obtain ⟨hmem, hrest⟩ := List.cons_subset.1 hall
      rw [Value.copiedEntries, Value.equalsEntries, Value.equalsEntries_of_areData rest h.2 hrest,
        Bool.and_true, List.any_eq_true]
      exact ⟨_, hmem, by rw [Value.equals_of_isData v h.1, beq_self_eq_true, Bool.and_self]⟩

theorem Value.equalsOthers_of_areData : ∀ entries : List (Nat × Value × Value),
    Value.othersAreData kinds entries = true → ∀ {all : List (Nat × Value × Value)},
    Value.copiedOthers entries ⊆ all →
      Value.equalsOthers kinds (Value.copiedOthers entries) all = true
  | [], _, _, _ => rfl
  | (place, key, v) :: rest, h, all, hall => by
      rw [Value.othersAreData, Bool.and_eq_true, Bool.and_eq_true] at h
      obtain ⟨hmem, hrest⟩ := List.cons_subset.1 hall
      rw [Value.copiedOthers, Value.equalsOthers, Value.equalsOthers_of_areData rest h.2 hrest,
        Bool.and_true, List.any_eq_true]
      exact ⟨_, hmem, by rw [Value.equals_of_isData key h.1.1, Value.equals_of_isData v h.1.2,
        Bool.and_self]⟩

theorem Expr.equals_of_isData :
    ∀ e : Expr, e.isData kinds = true → e.copied.equals kinds e.copied = true
  | .group _ children, h => by
      rw [Expr.isData] at h
      rw [Expr.copied, Expr.equals, Expr.equalsAll_of_areData children h, beq_self_eq_true,
        Bool.and_self]
  | .negation child, h => by
      rw [Expr.isData] at h
      rw [Expr.copied, Expr.equals, Expr.equals_of_isData child h]
  | .compare field operator value, h => by
      rw [Expr.isData] at h
      simp [Expr.copied, Expr.equals, Value.equals_of_isData value h]

theorem Expr.equalsAll_of_areData : ∀ children : List Expr, Expr.areData kinds children = true →
    Expr.equalsAll kinds (Expr.copiedAll children) (Expr.copiedAll children) = true
  | [], _ => rfl
  | e :: rest, h => by
      rw [Expr.areData, Bool.and_eq_true] at h
      rw [Expr.copiedAll, Expr.equalsAll, Expr.equals_of_isData e h.1,
        Expr.equalsAll_of_areData rest h.2, Bool.and_self]

end

/-- An empty record equals its copies, and an empty object of another kind does not. -/
example :
    let record := Value.object (some 0) Value.recordKind []
    let plain := Value.object (some 0) "object" []
    record.copied.equals .records record.copied = true ∧
      plain.equals .records plain = true ∧ plain.copied.equals .records plain.copied = false := by
  decide

end Admission
