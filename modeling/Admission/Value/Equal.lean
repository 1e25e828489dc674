import Admission.Value.Basic

/-!
# Equality of data

Two values are equal as data when they say the same, wherever they come from: numbers by their
value, a boolean counting as zero or one; texts by their characters; lists and tuples item by item;
mappings and objects entry by entry, in any order.  A list never equals a tuple.

Main definition: `Value.equal`.
-/

set_option autoImplicit false

namespace Admission

def Value.integer? : Value → Option Int
  | .bool b => some (if b then 1 else 0)
  | .int i => some i
  | _ => none

/-- Equality of two values that are no containers. -/
def Value.scalarEqual (a b : Value) : Bool :=
  match a, b with
  | .null, .null => true
  | .str s, .str t => s == t
  | .float d, .float e => d.sameNumber e
  | a, b =>
    match a.integer?, b.integer? with
    | some i, some j => i == j
    | some i, none => match b with
      | .float d => d.isInt i
      | _ => false
    | none, some j => match a with
      | .float d => d.isInt j
      | _ => false
    | none, none => false

mutual

/-- Equality as data. -/
def Value.equal : Value → Value → Bool
  | .list _ xs, .list _ ys => Value.equalItems xs ys
  | .tuple _ xs, .tuple _ ys => Value.equalItems xs ys
  | .mapping _ xs us, .mapping _ ys vs =>
    xs.length == ys.length && Value.equalEntries xs ys
      && us.length == vs.length && Value.equalOthers us vs
  | .object _ j xs, .object _ k ys =>
    j == k && xs.length == ys.length && Value.equalEntries xs ys
  | .expr a, .expr b => a == b
  | .target a, .target b => a == b
  | a, b => Value.scalarEqual a b
termination_by structural a => a

def Value.equalItems : List Value → List Value → Bool
  | [], [] => true
  | x :: xs, y :: ys => Value.equal x y && Value.equalItems xs ys
  | _, _ => false

/-- Every entry of the first list is equal to the entry of the second one under the same key. -/
def Value.equalEntries : List (String × Value) → List (String × Value) → Bool
  | [], _ => true
  | (k, x) :: xs, ys =>
    (match Table.get? ys k with
      | some y => Value.equal x y
      | none => false) && Value.equalEntries xs ys

/-- Every entry of the first list is equal to an entry of the second one under an equal key. -/
def Value.equalOthers : List (Nat × Value × Value) → List (Nat × Value × Value) → Bool
  | [], _ => true
  | (_, k, x) :: xs, ys =>
    (ys.any fun (_, l, y) => Value.equal k l && Value.equal x y) && Value.equalOthers xs ys

end

end Admission
