import Admission.Value.Display

/-!
# Authority

How much a caller may do is said by a number: an operation asks for a least authority, and the
caller has to have it.  Numbers of any kind are compared by their exact values; what is no number
cannot be compared with one.

Main definitions:

* `Value.below?` — the order of values, where there is one;
* `Authority.check` — refusing a caller with too little authority.
-/

set_option autoImplicit false

namespace Admission

/-- The largest integer that is at most a finite double. -/
def Double.floor (d : Double) : Int :=
  if d.isIntegral || d.below (Double.zero false) = false then d.truncate else d.truncate - 1

/-- An integer is strictly below a double. -/
def Double.isAbove (d : Double) (i : Int) : Bool :=
  match d with
  | .finite .. => if d.isIntegral then i < d.truncate else i ≤ d.floor
  | .infinite negative => !negative
  | .nan => false

/-- A double is strictly below an integer. -/
def Double.isBelow (d : Double) (i : Int) : Bool :=
  match d with
  | .finite .. => d.floor < i
  | .infinite negative => negative
  | .nan => false

/-- The integer that a value is, a boolean counting as zero or one. -/
def Value.wholeNumber? : Value → Option Int
  | .bool b => some (if b then 1 else 0)
  | .int i => some i
  | _ => none

/-- The first value is strictly below the second; none when they have no order. -/
def Value.below? (a b : Value) : Option Bool :=
  match a, b with
  | .float d, .float e => some (d.below e)
  | .str s, .str t => some (decide (s < t))
  | .float d, b => b.wholeNumber?.map fun j => d.isBelow j
  | a, .float e => a.wholeNumber?.map fun i => e.isAbove i
  | a, b =>
    match a.wholeNumber?, b.wholeNumber? with
    | some i, some j => some (decide (i < j))
    | _, _ => none

namespace Authority

/-- The caller of an operation has the authority that it asks for. -/
def check (event : String) (required granted : Value) : Except Fault Unit :=
  match granted.below? required with
  | none => .error (.incomparable granted.kindName required.kindName)
  | some false => .ok ()
  | some true => do
    let required ← required.display
    let granted ← granted.display
    .error (.authority event required granted)

end Authority

end Admission
