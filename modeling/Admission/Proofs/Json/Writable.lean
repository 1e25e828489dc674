import Admission.Rule.File

/-!
# Which rules can be written

Writing refuses integers beyond the digit limit, plain objects, and ready-made parts of rules; it
refuses nothing else, so containers are written when all that they hold is; the keys of a mapping
have to be texts, numbers, booleans or null.  A rule can be written
exactly when its priority can, and every value that its condition compares with.

To be written is less than to be *storable*: a tuple is written like a list, and keys that occur
twice are written twice, although neither is read back as it was.

Main definitions:

* `Value.isWritable`, `Expr.isWritable`, `Rule.isWritable` — values, conditions and rules without
  a part that is refused.

Main results:

* `Json.write_isOk` — a value is written exactly when no part of it is refused;
* `RuleFile.render_isOk` — **rules have a text exactly when all of them can be written**.
-/

set_option autoImplicit false

namespace Admission

/-! ### Values -/

def Value.isKey : Value → Bool
  | .null => true
  | .bool _ => true
  | .int i => Integer.isWritable i
  | .float _ => true
  | .str _ => true
  | _ => false

mutual

/-- No part of the value is refused by writing. -/
def Value.isWritable : Value → Bool
  | .null => true
  | .bool _ => true
  | .int i => Integer.isWritable i
  | .float _ => true
  | .str _ => true
  | .list _ items => Value.areWritable items
  | .tuple _ items => Value.areWritable items
  | .mapping _ entries others => Value.entriesWritable entries && Value.othersWritable others
  | .object _ _ _ => false
  | .expr _ => false
  | .target _ => false
  | .rule .. => false

def Value.areWritable : List Value → Bool
  | [] => true
  | v :: rest => v.isWritable && Value.areWritable rest

def Value.entriesWritable : List (String × Value) → Bool
  | [] => true
  | (_, v) :: rest => v.isWritable && Value.entriesWritable rest

/-- No part of the entries under keys that are no texts is refused by writing. -/
def Value.othersWritable : List (Nat × Value × Value) → Bool
  | [] => true
  | (_, k, v) :: rest => k.isKey && v.isWritable && Value.othersWritable rest

end

theorem isOk_map {α β : Type} (f : α → β) (x : Except Fault α) : (x.map f).isOk = x.isOk := by
  cases x <;> rfl

/-- Two parts are written when each of them is. -/
theorem isOk_both {α β γ : Type} (x : Except Fault α) (y : Except Fault β) (f : α → β → γ) :
    (do return f (← x) (← y) : Except Fault γ).isOk = (x.isOk && y.isOk) := by
  cases x with
  | error fault => rfl
  | ok a => cases y <;> rfl

theorem isOk_decimal? (i : Int) : (Integer.decimal? i).isOk = Integer.isWritable i := by
  rw [Integer.decimal?]
  cases Integer.isWritable i <;> rfl

/-- Several parts are written when each of them is. -/
theorem isOk_mapM_id {α : Type} (parts : List (Except Fault α)) :
    (parts.mapM id).isOk = parts.all Except.isOk := by
  induction parts with
  | nil => rfl
  | cons x rest ih =>
      rw [List.mapM_cons, List.all_cons, ← ih]
      exact isOk_both x (rest.mapM id) _

theorem Value.all_interleave {α : Type} (p : α → Bool) (others : List (Nat × α)) :
    ∀ (place : Nat) (items : List α),
      (interleave place items others).all p =
        (items.all p && others.all fun other => p other.2) := by
  induction others with
  | nil => intro place items; simp [interleave]
  | cons other rest ih =>
      obtain ⟨n, a⟩ := other
      intro place items
      have hitems : items.all p =
          ((items.take (n - place)).all p && (items.drop (n - place)).all p) := by
        rw [← List.all_append, List.take_append_drop]
      rw [interleave, List.all_append, List.all_cons, ih, List.all_cons, hitems]
      cases p a <;> simp [Bool.and_assoc]

theorem Json.writeKey_isOk (style : Style) (k : Value) : (writeKey style k).isOk = k.isKey := by
  cases k with
  | int i => rw [writeKey, isOk_map, isOk_decimal?, Value.isKey]
  | _ => rfl

mutual

/-- Where nothing is written as its text, a value is written when no part of it is refused. -/
theorem Json.write_isOk {style : Style} (hstrict : style.lenient = false) :
    ∀ (depth : Nat) (v : Value), (write style depth v).isOk = v.isWritable
  | _, .null => rfl
  | _, .bool _ => rfl
  | _, .int i => by
      rw [write, isOk_map, Value.isWritable, isOk_decimal?]
  | _, .float _ => rfl
  | _, .str _ => rfl
  | depth, .list _ items => by
      rw [write, isOk_map, Value.isWritable, Json.writeItems_isOk hstrict (depth + 1) items]
  | depth, .tuple _ items => by
      rw [write, isOk_map, Value.isWritable, Json.writeItems_isOk hstrict (depth + 1) items]
  | depth, .mapping _ entries others => by
      rw [write, isOk_map, isOk_mapM_id, Value.all_interleave, Value.isWritable,
        Json.writeEntries_isOk hstrict (depth + 1) entries,
        Json.writeOthers_isOk hstrict (depth + 1) others]
  | _, .object _ _ _ => by rw [write, writeOther, hstrict]; rfl
  | _, .expr _ => by rw [write, writeOther, hstrict]; rfl
  | _, .target _ => by rw [write, writeOther, hstrict]; rfl
  | _, .rule .. => by rw [write, writeOther, hstrict]; rfl

theorem Json.writeItems_isOk {style : Style} (hstrict : style.lenient = false) :
    ∀ (depth : Nat) (items : List Value),
    (writeItems style depth items).isOk = Value.areWritable items
  | _, [] => rfl
  | depth, v :: rest => by
      rw [writeItems, Value.areWritable, ← Json.write_isOk hstrict depth v,
        ← Json.writeItems_isOk hstrict depth rest]
      exact isOk_both _ _ _

theorem Json.writeEntries_isOk {style : Style} (hstrict : style.lenient = false) :
    ∀ (depth : Nat) (entries : List (String × Value)),
    (writeEntries style depth entries).all Except.isOk = Value.entriesWritable entries
  | _, [] => rfl
  | depth, (_, v) :: rest => by
      rw [writeEntries, Value.entriesWritable, List.all_cons, isOk_map,
        Json.write_isOk hstrict depth v, Json.writeEntries_isOk hstrict depth rest]

theorem Json.writeOthers_isOk {style : Style} (hstrict : style.lenient = false) :
    ∀ (depth : Nat) (others : List (Nat × Value × Value)),
    ((writeOthers style depth others).all fun other => other.2.isOk) = Value.othersWritable others
  | _, [] => rfl
  | depth, (_, k, v) :: rest => by
      rw [writeOthers, Value.othersWritable, List.all_cons, isOk_both, writeKey_isOk,
        Json.write_isOk hstrict depth v, Json.writeOthers_isOk hstrict depth rest]

end

/-! ### Copies -/

theorem Value.isKey_copied (k : Value) : k.copied.isKey = k.isKey := by
  cases k with
  | tuple origin items =>
      rw [copied]
      split <;> rfl
  | _ => rfl

mutual

theorem Value.isWritable_copied : ∀ v : Value, v.copied.isWritable = v.isWritable
  | .null => rfl
  | .bool _ => rfl
  | .int _ => rfl
  | .float _ => rfl
  | .str _ => rfl
  | .list _ items => by rw [copied, isWritable, isWritable, areWritable_copiedItems items]
  | .tuple _ items => by
      rw [copied]
      split
      · rfl
      · rw [isWritable, isWritable, areWritable_copiedItems items]
  | .mapping _ entries others => by
      rw [copied, isWritable, isWritable, entriesWritable_copiedEntries entries,
        othersWritable_copiedOthers others]
  | .object _ _ _ => rfl
  | .expr _ => rfl
  | .target _ => rfl
  | .rule .. => rfl

theorem Value.areWritable_copiedItems :
    ∀ items : List Value, areWritable (copiedItems items) = areWritable items
  | [] => rfl
  | v :: rest => by
      rw [copiedItems, areWritable, areWritable, isWritable_copied v, areWritable_copiedItems rest]

theorem Value.entriesWritable_copiedEntries : ∀ entries : List (String × Value),
    entriesWritable (copiedEntries entries) = entriesWritable entries
  | [] => rfl
  | (_, v) :: rest => by
      rw [copiedEntries, entriesWritable, entriesWritable, isWritable_copied v,
        entriesWritable_copiedEntries rest]

theorem Value.othersWritable_copiedOthers : ∀ others : List (Nat × Value × Value),
    othersWritable (copiedOthers others) = othersWritable others
  | [] => rfl
  | (_, k, v) :: rest => by
      rw [copiedOthers, othersWritable, othersWritable, isKey_copied k, isWritable_copied v,
        othersWritable_copiedOthers rest]

end

/-! ### Conditions and rules -/

mutual

/-- Every value that the condition compares with can be written. -/
def Expr.isWritable : Expr → Bool
  | .group _ children => Expr.areWritable children
  | .negation child => child.isWritable
  | .compare _ _ value => value.isWritable

def Expr.areWritable : List Expr → Bool
  | [] => true
  | e :: rest => e.isWritable && Expr.areWritable rest

end

mutual

theorem Expr.isWritable_toValue : ∀ e : Expr, e.toValue.isWritable = e.isWritable
  | .group _ children => by
      simp [toValue, isWritable, Value.isWritable, Value.entriesWritable, Value.othersWritable,
        areWritable_toValues children]
  | .negation child => by
      simp [toValue, isWritable, Value.isWritable, Value.entriesWritable, Value.othersWritable,
        isWritable_toValue child]
  | .compare _ _ value => by
      simp [toValue, isWritable, Value.isWritable, Value.entriesWritable, Value.othersWritable,
        Value.isWritable_copied value]

theorem Expr.areWritable_toValues :
    ∀ children : List Expr, Value.areWritable (toValues children) = areWritable children
  | [] => rfl
  | e :: rest => by
      rw [toValues, Value.areWritable, areWritable, isWritable_toValue e,
        areWritable_toValues rest]

end

theorem Value.areWritable_iff {items : List Value} :
    areWritable items = true ↔ ∀ v ∈ items, v.isWritable = true := by
  induction items with
  | nil => simp [areWritable]
  | cons v rest ih => rw [areWritable, Bool.and_eq_true, ih, List.forall_mem_cons]

theorem Target.toValue_isWritable (t : Target) : t.toValue.isWritable = true := by
  have htexts : ∀ keys : List String, Value.areWritable (keys.map .str) = true := by
    intro keys
    rw [Value.areWritable_iff]
    intro v hv
    obtain ⟨key, -, rfl⟩ := List.mem_map.1 hv
    rfl
  cases t with
  | everything => rfl
  | plugins keys =>
      simp [toValue, Value.isWritable, Value.entriesWritable, Value.othersWritable, htexts]
  | commands names =>
      simp [toValue, Value.isWritable, Value.entriesWritable, Value.othersWritable, htexts]

/-- The priority of the rule and every value that its condition compares with can be written. -/
def Rule.isWritable (r : Rule) : Bool := Integer.isWritable r.priority && r.condition.isWritable

theorem Rule.isWritable_toValue (r : Rule) : r.toValue.isWritable = r.isWritable := by
  simp [toValue, toFields, isWritable, Value.isWritable, Value.entriesWritable,
    Value.othersWritable, Target.toValue_isWritable, Expr.isWritable_toValue]

/-- Rules have a text exactly when each of them can be written. -/
theorem RuleFile.render_isOk (rules : List Rule) :
    (render rules).isOk = rules.all Rule.isWritable := by
  rw [render, Json.render, isOk_map, Json.write_isOk rfl, Value.isWritable]
  induction rules with
  | nil => rfl
  | cons r rest ih => rw [List.map_cons, Value.areWritable, List.all_cons, ih,
      Rule.isWritable_toValue]

end Admission
