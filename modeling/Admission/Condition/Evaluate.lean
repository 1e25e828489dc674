import Admission.Condition.Compare
import Admission.Condition.Normal

/-!
# Evaluating conditions

A condition holds or does not hold of the attributes of an event.  An empty group holds whatever
joins it.  Children are looked at in order until one of them decides, so a fault behind it does not
come to light.

Main definitions:

* `Expr.evaluate` — the outcome of a condition;
* `Value.evaluate` — the outcome of a condition given as a value.
-/

set_option autoImplicit false

namespace Admission

mutual

/-- The condition holds of the attributes. -/
def Expr.evaluate (vars : Value) : Expr → Except Fault Bool
  | .group operator children =>
    if children.isEmpty then .ok true
    else if operator = "and" then Expr.allHold vars children
    else Expr.someHolds vars children
  | .negation child => (Expr.evaluate vars child).map Bool.not
  | .compare field operator value => do
    Comparison.namedHolds operator (← vars.lookup field) value

def Expr.allHold (vars : Value) : List Expr → Except Fault Bool
  | [] => .ok true
  | e :: rest => do if ← Expr.evaluate vars e then Expr.allHold vars rest else return false

def Expr.someHolds (vars : Value) : List Expr → Except Fault Bool
  | [] => .ok false
  | e :: rest => do if ← Expr.evaluate vars e then return true else Expr.someHolds vars rest

end

/-- The outcome of a condition given as a value.  A mapping is made canonical first; what is
neither a mapping nor a condition does not hold. -/
def Value.evaluate (vars : Value) : Value → Except Fault Bool
  | .mapping origin entries others =>
    (Expr.ofValue (.mapping origin entries others)).evaluate vars
  | .expr e => e.evaluate vars
  | _ => .ok false

end Admission
