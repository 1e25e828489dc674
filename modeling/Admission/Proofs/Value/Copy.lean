import Admission.Value.Basic

/-!
# Copies of copies

A copy has no part that a second copy would make anew, so copying twice is copying once.  Tuples
are the only containers that a copy may keep: a tuple that holds nothing new stays the tuple it is,
and any other one is made anew and holds copies.

Main results:

* `Value.copied_copied`, `Expr.copied_copied` — **a copy is its own copy**.
-/

set_option autoImplicit false

namespace Admission

mutual

/-- A copy of a value is its own copy. -/
theorem Value.copied_copied : ∀ v : Value, v.copied.copied = v.copied
  | .null => rfl
  | .bool _ => rfl
  | .int _ => rfl
  | .float _ => rfl
  | .str _ => rfl
  | .list _ items => by simp only [Value.copied, Value.copiedItems_copiedItems items]
  | .tuple origin items => by
      rw [Value.copied]
      split
      · next hfrozen => rw [Value.copied, if_pos hfrozen]
      · simp only [Value.copied, Value.copiedItems_copiedItems items, ite_self]
  | .mapping _ entries others => by
      simp only [Value.copied, Value.copiedEntries_copiedEntries entries,
        Value.copiedOthers_copiedOthers others]
  | .object _ _ entries => by simp only [Value.copied, Value.copiedEntries_copiedEntries entries]
  | .expr e => by simp only [Value.copied, Expr.copied_copied e]
  | .target _ => rfl
  | .rule _ _ _ _ _ _ condition _ => by simp only [Value.copied, Expr.copied_copied condition]

theorem Value.copiedItems_copiedItems :
    ∀ items : List Value, Value.copiedItems (Value.copiedItems items) = Value.copiedItems items
  | [] => rfl
  | v :: rest => by
      simp only [Value.copiedItems, Value.copied_copied v, Value.copiedItems_copiedItems rest]

theorem Value.copiedEntries_copiedEntries :
    ∀ entries : List (String × Value),
      Value.copiedEntries (Value.copiedEntries entries) = Value.copiedEntries entries
  | [] => rfl
  | (_, v) :: rest => by
      simp only [Value.copiedEntries, Value.copied_copied v,
        Value.copiedEntries_copiedEntries rest]

theorem Value.copiedOthers_copiedOthers :
    ∀ others : List (Nat × Value × Value),
      Value.copiedOthers (Value.copiedOthers others) = Value.copiedOthers others
  | [] => rfl
  | (_, k, v) :: rest => by
      simp only [Value.copiedOthers, Value.copied_copied k, Value.copied_copied v,
        Value.copiedOthers_copiedOthers rest]

/-- A copy of a condition is its own copy. -/
theorem Expr.copied_copied : ∀ e : Expr, e.copied.copied = e.copied
  | .group _ children => by simp only [Expr.copied, Expr.copiedAll_copiedAll children]
  | .negation child => by simp only [Expr.copied, Expr.copied_copied child]
  | .compare _ _ value => by simp only [Expr.copied, Value.copied_copied value]

theorem Expr.copiedAll_copiedAll :
    ∀ children : List Expr, Expr.copiedAll (Expr.copiedAll children) = Expr.copiedAll children
  | [] => rfl
  | e :: rest => by
      simp only [Expr.copiedAll, Expr.copied_copied e, Expr.copiedAll_copiedAll rest]

end

attribute [simp] Value.copied_copied Expr.copied_copied

end Admission
