import Admission.Action
import Admission.Number.Double
import Admission.Table
import Admission.Target

/-!
# Values and expressions

A value is what a rule file, an administrator or a host may hand over: null, booleans, integers of
any size, doubles, texts, lists, tuples, mappings, plain objects with attributes, and ready-made
targets, expressions and rules.  The entries of a mapping keep their order.  Nearly all keys are
texts, and an entry is only ever looked up under a text; so the entries under other keys are kept
apart, each with its place.

An expression is a condition on the attributes of an event: a group of conditions joined by `and`
or `or`, a negation, or the comparison of the attribute at a dotted path with a value.  Operators
are kept as written, because a ready-made expression may name any; what an unknown operator means
is settled where expressions are evaluated.

Containers are equal to each other only when they are the very same container.  A container that
occurs in several places carries an `origin`, a number that tells it from all others; every other
container has none and is the same as no other.

Main definitions:

* `Value`, `Expr` — the two types;
* `Value.identical` — the very same value;
* `Value.copied` — a fresh copy, the same as nothing else;
* `Value.beq`, `Expr.beq` — equality of contents.
-/

set_option autoImplicit false

namespace Admission

mutual

/-- What can be handed over from outside. -/
inductive Value where
  | null
  | bool (b : Bool)
  | int (i : Int)
  | float (d : Double)
  | str (s : String)
  | list (origin : Option Nat) (items : List Value)
  | tuple (origin : Option Nat) (items : List Value)
  /-- The entries under texts, and those under other keys.  The place of one of these is the number
  of entries under texts before it. -/
  | mapping (origin : Option Nat) (entries : List (String × Value))
      (others : List (Nat × Value × Value))
  /-- An object of some kind with attributes; not a mapping.  It can be copied, and a copy is of the
  same kind and has copies of the attributes. -/
  | object (origin : Option Nat) (kind : String) (attributes : List (String × Value))
  /-- A ready-made expression. -/
  | expr (e : Expr)
  /-- A ready-made target. -/
  | target (t : Target)
  /-- A ready-made rule, by its parts. -/
  | rule (id name : String) (enabled : Bool) (priority : Int) (action : Action) (target : Target)
      (condition : Expr) (response : String)

/-- A condition on the attributes of an event. -/
inductive Expr where
  | group (operator : String) (children : List Expr)
  | negation (child : Expr)
  | compare (field operator : String) (value : Value)

end

instance : Inhabited Value := ⟨.null⟩

instance : Inhabited Expr := ⟨.group "and" []⟩

/-- The entries of a mapping or an object, in order. -/
abbrev Fields := Table Value

/-- The value under a key, null when there is none. -/
def Fields.getD (fields : Fields) (key : String) : Value := (Table.get? fields key).getD .null

namespace Value

/-- A list that is the same as no other. -/
abbrev ofList (items : List Value) : Value := .list none items

/-- A mapping that is the same as no other. -/
abbrev ofFields (entries : Fields) : Value := .mapping none entries []

/-- The kind of objects that are written and compared by their attributes. -/
def recordKind : String := "SimpleNamespace"

def str? : Value → Option String
  | .str s => some s
  | _ => none

/-- The entries of a mapping under texts. -/
def fields? : Value → Option Fields
  | .mapping _ entries _ => some entries
  | _ => none

def items? : Value → Option (List Value)
  | .list _ items => some items
  | .tuple _ items => some items
  | _ => none

/-- A text value that holds the given text. -/
def isStr (v : Value) (s : String) : Bool :=
  match v with
  | .str t => t == s
  | _ => false

/-- What counts as true: everything but null, false, zero and what is empty. -/
def truthy : Value → Bool
  | .null => false
  | .bool b => b
  | .int i => i != 0
  | .float d => d.isNonzero
  | .str s => s != ""
  | .list _ items => !items.isEmpty
  | .tuple _ items => !items.isEmpty
  | .mapping _ entries others => !entries.isEmpty || !others.isEmpty
  | .object _ _ _ => true
  | .expr _ => true
  | .target _ => true
  | .rule .. => true

/-- Two origins that name the same container. -/
def sameOrigin : Option Nat → Option Nat → Bool
  | some a, some b => a == b
  | _, _ => false

/-- The very same value.  Null is one value, and so is the empty tuple; other containers are the
same when they have the same origin.  Texts and numbers are compared by their contents before this
question arises, and are not decided here. -/
def identical : Value → Value → Bool
  | .null, .null => true
  | .list a _, .list b _ => sameOrigin a b
  | .tuple _ [], .tuple _ [] => true
  | .tuple a _, .tuple b _ => sameOrigin a b
  | .mapping a _ _, .mapping b _ _ => sameOrigin a b
  | .object a _ _, .object b _ _ => sameOrigin a b
  | _, _ => false

/-- Items with others among them, each of which has its place. -/
def interleave {α : Type} (place : Nat) (items : List α) : List (Nat × α) → List α
  | [] => items
  | (n, a) :: rest =>
    items.take (n - place) ++ a :: interleave (max n place) (items.drop (n - place)) rest

end Value

/-! ### Copies -/

mutual

/-- The value has no part that a copy would make anew: a scalar, or a tuple of such values. -/
def Value.isFrozen : Value → Bool
  | .null => true
  | .bool _ => true
  | .int _ => true
  | .float _ => true
  | .str _ => true
  | .tuple _ items => Value.areFrozen items
  | .list _ _ => false
  | .mapping _ _ _ => false
  | .object _ _ _ => false
  | .expr _ => false
  | .target _ => false
  | .rule .. => false

/-- All the values have no part that a copy would make anew. -/
def Value.areFrozen : List Value → Bool
  | [] => true
  | v :: rest => v.isFrozen && Value.areFrozen rest

end

mutual

/-- A copy of a value all the way down.  Its containers are new, but for tuples that hold nothing
new, which stay the tuples they are. -/
def Value.copied : Value → Value
  | .null => .null
  | .bool b => .bool b
  | .int i => .int i
  | .float d => .float d
  | .str s => .str s
  | .list _ items => .list none (Value.copiedItems items)
  | .tuple origin items =>
    if Value.areFrozen items then .tuple origin items
    else .tuple none (Value.copiedItems items)
  | .mapping _ entries others =>
    .mapping none (Value.copiedEntries entries) (Value.copiedOthers others)
  | .object _ kind entries => .object none kind (Value.copiedEntries entries)
  | .expr e => .expr e.copied
  | .target t => .target t
  | .rule id name enabled priority action target condition response =>
    .rule id name enabled priority action target condition.copied response

def Value.copiedItems : List Value → List Value
  | [] => []
  | v :: rest => v.copied :: Value.copiedItems rest

def Value.copiedEntries : List (String × Value) → List (String × Value)
  | [] => []
  | (k, v) :: rest => (k, v.copied) :: Value.copiedEntries rest

/-- Copies of all the entries under keys that are no texts. -/
def Value.copiedOthers : List (Nat × Value × Value) → List (Nat × Value × Value)
  | [] => []
  | (n, k, v) :: rest => (n, k.copied, v.copied) :: Value.copiedOthers rest

/-- A copy of an expression with copies of the values it compares with. -/
def Expr.copied : Expr → Expr
  | .group operator children => .group operator (Expr.copiedAll children)
  | .negation child => .negation child.copied
  | .compare field operator value => .compare field operator value.copied

def Expr.copiedAll : List Expr → List Expr
  | [] => []
  | e :: rest => e.copied :: Expr.copiedAll rest

end

/-! ### Equality of contents -/

mutual

/-- The same contents and the same origins throughout. -/
def Value.beq : Value → Value → Bool
  | .null, .null => true
  | .bool a, .bool b => a == b
  | .int a, .int b => a == b
  | .float a, .float b => a == b
  | .str a, .str b => a == b
  | .list o xs, .list p ys => o == p && Value.beqItems xs ys
  | .tuple o xs, .tuple p ys => o == p && Value.beqItems xs ys
  | .mapping o xs us, .mapping p ys vs =>
    o == p && Value.beqEntries xs ys && Value.beqOthers us vs
  | .object o j xs, .object p k ys => o == p && j == k && Value.beqEntries xs ys
  | .expr a, .expr b => Expr.beq a b
  | .target a, .target b => a == b
  | .rule i n e p a t c r, .rule i' n' e' p' a' t' c' r' =>
    i == i' && n == n' && e == e' && p == p' && a == a' && t == t' && Expr.beq c c' && r == r'
  | _, _ => false

def Value.beqItems : List Value → List Value → Bool
  | [], [] => true
  | x :: xs, y :: ys => Value.beq x y && Value.beqItems xs ys
  | _, _ => false

def Value.beqEntries : List (String × Value) → List (String × Value) → Bool
  | [], [] => true
  | (j, x) :: xs, (k, y) :: ys => j == k && Value.beq x y && Value.beqEntries xs ys
  | _, _ => false

/-- Equality of lists of entries under keys that are no texts. -/
def Value.beqOthers : List (Nat × Value × Value) → List (Nat × Value × Value) → Bool
  | [], [] => true
  | (m, j, x) :: xs, (n, k, y) :: ys =>
    m == n && Value.beq j k && Value.beq x y && Value.beqOthers xs ys
  | _, _ => false

def Expr.beq : Expr → Expr → Bool
  | .group o xs, .group p ys => o == p && Expr.beqAll xs ys
  | .negation a, .negation b => Expr.beq a b
  | .compare f o v, .compare g p w => f == g && o == p && Value.beq v w
  | _, _ => false

def Expr.beqAll : List Expr → List Expr → Bool
  | [], [] => true
  | x :: xs, y :: ys => Expr.beq x y && Expr.beqAll xs ys
  | _, _ => false

end

instance : BEq Value := ⟨Value.beq⟩

instance : BEq Expr := ⟨Expr.beq⟩

end Admission
