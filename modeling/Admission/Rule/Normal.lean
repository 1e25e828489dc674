import Admission.Number.Numeral
import Admission.Rule.Basic
import Admission.Rule.Supply

/-!
# Canonical rules

Any value is made into a rule.  What is missing or malformed is replaced by a default, never
refused: an id is generated, a name and a response are filled in, a priority is read off whatever
looks like a number, and target keys are trimmed, emptied of blanks and kept once.

Main definitions:

* `Target.ofValue` — the target that a value describes;
* `Rule.priorityOf` — the priority that a value stands for;
* `Rule.ofValue` — the rule that a value describes;
* `Rule.Canonical` — what every rule made in this way satisfies.
-/

set_option autoImplicit false

namespace Admission

/-! ### Targets -/

/-- The trimmed form of a value that is a text with something in it. -/
def Target.cleanKey? (v : Value) : Option String :=
  match v with
  | .str s =>
    let key := Text.trim s
    if key = "" then none else some key
  | _ => none

/-- Adds a key unless it is there already. -/
def Target.addKey (keys : List String) (key : String) : List String :=
  if keys.contains key then keys else keys ++ [key]

/-- The keys that a list of values names: trimmed, not empty, each at its first place. -/
def Target.cleanKeys (items : List Value) : List String :=
  (items.filterMap Target.cleanKey?).foldl Target.addKey []

/-- The keys that a value names: one for a text, several for a list or tuple. -/
def Target.keysOf (v : Value) : List String :=
  match v with
  | .str s => Target.cleanKeys [.str s]
  | _ =>
    match v.items? with
    | some items => Target.cleanKeys items
    | none => []

/-- The target that the entries of a mapping describe. -/
def Target.ofFields (entries : Fields) : Target :=
  match (entries.getD "type").str? with
  | some "plugin" => .plugins (Target.keysOf (entries.getD "value"))
  | some "command" => .commands (Target.keysOf (entries.getD "value"))
  | _ => .everything

/-- The target that a value describes, the global one unless it is a mapping that says
otherwise. -/
def Target.ofValue : Value → Target
  | .mapping _ entries _ => Target.ofFields entries
  | .target .everything => .everything
  | .target (.plugins keys) => .plugins (Target.cleanKeys (keys.map .str))
  | .target (.commands names) => .commands (Target.cleanKeys (names.map .str))
  | _ => .everything

/-! ### Rules -/

namespace Rule

/-- The integer before the point of a finite double, and zero for the others. -/
def priorityOfDouble (d : Double) : Int := if d.isFinite then d.truncate else 0

/-- The priority that a value stands for, zero when it is no number. -/
def priorityOf : Value → Int
  | .bool b => if b then 1 else 0
  | .int i => i
  | .float d => priorityOfDouble d
  | .str s =>
    match Numeral.read? (Text.trim s) with
    | some d => priorityOfDouble d
    | none => 0
  | _ => 0

/-- A text with something in it. -/
def nonEmpty? (v : Value) : Option String :=
  match v with
  | .str s => if s = "" then none else some s
  | _ => none

/-- The rule that entries describe, under the given id. -/
def ofFieldsWithId (id : String) (entries : Fields) : Rule where
  id := id
  name := (nonEmpty? (entries.getD "name")).getD defaultName
  enabled :=
    -- only null and a missing entry stand for the default; other values count as true or false
    match entries.getD "enabled" with
    | .null => true
    | v => v.truthy
  priority := priorityOf (entries.getD "priority")
  action := if (entries.getD "action").isStr "bypass" then .bypass else .block
  target := Target.ofValue (entries.getD "target")
  condition := Expr.ofValue (entries.getD "condition")
  response := ((entries.getD "response").str?).getD ""

/-- The rule that entries describe.  An id is drawn when they name none. -/
def ofFields (entries : Fields) (supply : Supply) : Rule × Supply :=
  match nonEmpty? (entries.getD "id") with
  | some id => (ofFieldsWithId id entries, supply)
  | none =>
    let (id, supply) := supply.drawId
    (ofFieldsWithId id entries, supply)

/-- The entries by which a value describes a rule; none for what is neither a mapping nor a
rule. -/
def fieldsOf : Value → Fields
  | .mapping _ entries _ => entries
  | .rule id name enabled priority action target condition response =>
    toFields ⟨id, name, enabled, priority, action, target, condition, response⟩
  | _ => []

/-- The rule that a value describes. -/
def ofValue (v : Value) (supply : Supply) : Rule × Supply := ofFields (fieldsOf v) supply

/-- The rules that values describe, ids being drawn in order. -/
def ofValues : List Value → Supply → List Rule × Supply
  | [], supply => ([], supply)
  | v :: rest, supply =>
    let (rule, supply) := ofValue v supply
    let (rules, supply) := ofValues rest supply
    (rule :: rules, supply)

/-- A rule as a ready-made value. -/
def ready (r : Rule) : Value :=
  .rule r.id r.name r.enabled r.priority r.action r.target r.condition r.response

end Rule

/-! ### What canonical rules satisfy -/

/-- The keys of a target are trimmed, not empty and pairwise different. -/
def Target.Clean (t : Target) : Prop :=
  t.keys.Nodup ∧ ∀ key ∈ t.keys, key ≠ "" ∧ Text.trim key = key

/-- Id and name are not empty, the keys of the target are clean, and the condition is canonical. -/
structure Rule.Canonical (r : Rule) : Prop where
  id_ne : r.id ≠ ""
  name_ne : r.name ≠ ""
  target_clean : r.target.Clean
  condition_canonical : r.condition.isCanonical = true

end Admission
