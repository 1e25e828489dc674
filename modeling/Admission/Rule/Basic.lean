import Admission.Condition.Normal

/-!
# Rules

A rule says what happens to the events of its target that satisfy its condition.  Rules are
evaluated in the order of their priorities, lower ones first, and in the order of their ids where
priorities agree.

Main definitions:

* `Rule` — a rule;
* `Rule.toValue` — a rule as a mapping;
* `Rule.precedes`, `Rule.sort` — the order of evaluation;
* `Target.covers` — whether an event belongs to a target.
-/

set_option autoImplicit false

namespace Admission

/-- A rule. -/
structure Rule where
  id : String
  name : String
  enabled : Bool
  priority : Int
  action : Action
  target : Target
  condition : Expr
  response : String

namespace Rule

/-- The name of a rule that was given none. -/
def defaultName : String := "new-rule"

/-- A rule of which nothing but the id is known. -/
def blank (id : String) : Rule where
  id := id
  name := defaultName
  enabled := true
  priority := 0
  action := .block
  target := .everything
  condition := .group "and" []
  response := ""

/-- Equality of all parts. -/
def beq (a b : Rule) : Bool :=
  a.id == b.id && a.name == b.name && a.enabled == b.enabled && a.priority == b.priority
    && a.action == b.action && a.target == b.target && a.condition == b.condition
    && a.response == b.response

instance : BEq Rule := ⟨beq⟩

/-- A copy that shares nothing with the rule. -/
def copied (r : Rule) : Rule := { r with condition := r.condition.copied }

end Rule

/-- A target as a mapping. -/
def Target.toValue : Target → Value
  | .everything => .ofFields [("type", .str "global")]
  | .plugins keys => .ofFields [("type", .str "plugin"), ("value", .ofList (keys.map .str))]
  | .commands names => .ofFields [("type", .str "command"), ("value", .ofList (names.map .str))]

namespace Rule

/-- The entries of a rule as a mapping. -/
def toFields (r : Rule) : Fields :=
  [("id", .str r.id), ("name", .str r.name), ("enabled", .bool r.enabled),
   ("priority", .int r.priority), ("action", .str r.action.name), ("target", r.target.toValue),
   ("condition", r.condition.toValue), ("response", .str r.response)]

/-- A rule as a mapping. -/
def toValue (r : Rule) : Value := .ofFields r.toFields

/-! ### The order of evaluation -/

/-- The first rule is evaluated no later than the second. -/
def precedes (a b : Rule) : Bool :=
  a.priority < b.priority || (a.priority == b.priority && decide (a.id ≤ b.id))

/-- The rules in the order of evaluation. -/
def sort (rules : List Rule) : List Rule := rules.mergeSort precedes

end Rule

/-! ### Targets of events -/

namespace Target

/-- The value is a text with something in it, and one of the keys. -/
def holds (keys : List String) : Value → Bool
  | .str key => key != "" && keys.contains key
  | _ => false

/-- The event with these attributes belongs to the target. -/
def covers : Target → Fields → Bool
  | .everything, _ => true
  | .plugins keys, vars => holds keys (vars.getD "pluginKey")
  | .commands names, vars => holds names (vars.getD "commandName")

end Target

end Admission
