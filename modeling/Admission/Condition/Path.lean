import Admission.Number.Integer
import Admission.Text.Split
import Admission.Value.Basic

/-!
# Dotted paths

A path names a part of a value: its segments, separated by points, lead through the entries of
mappings, the items of lists and tuples by their number, and the attributes of objects.  A path
that leads nowhere finds nothing, which is different from finding null.

Main definitions:

* `Value.attributes` — what an object holds under names;
* `Value.part` — what one segment leads to;
* `Value.lookup` — what a path leads to.
-/

set_option autoImplicit false

namespace Admission

namespace Value

/-- The attributes of an object or of a ready-made part of a rule. -/
def attributes : Value → Fields
  | .object _ _ attributes => attributes
  | .expr (.group operator children) =>
    [("operator", .str operator), ("children", .ofList (children.map .expr))]
  | .expr (.negation child) => [("child", .expr child)]
  | .expr (.compare field operator value) =>
    [("field", .str field), ("operator", .str operator), ("value", value)]
  | .target t => [("type", .str t.kind.name), ("values", .ofList (t.keys.map .str))]
  | .rule ident label enabled priority action scope condition response =>
    [("id", .str ident), ("name", .str label), ("enabled", .bool enabled),
     ("priority", .int priority), ("action", .str action.name), ("target", .target scope),
     ("condition", .expr condition), ("response", .str response)]
  | _ => []

/-- A segment that can be the number of an item. -/
def isIndex (segment : List Char) : Bool := !segment.isEmpty && segment.all Char.isDigit

def item (items : List Value) (segment : List Char) : Except Fault (Option Value) :=
  if isIndex segment then (Integer.readDigits segment).map fun n => items[n]?
  else .ok none

/-- What one segment leads to. -/
def part (v : Value) (segment : List Char) : Except Fault (Option Value) :=
  match v with
  | .null => .ok none
  | .bool _ => .ok none
  | .int _ => .ok none
  | .float _ => .ok none
  | .str _ => .ok none
  | .mapping _ entries _ => .ok (Table.get? entries (String.ofList segment))
  | .list _ items => item items segment
  | .tuple _ items => item items segment
  | v => .ok (v.attributes.get? (String.ofList segment))

/-- What a sequence of segments leads to. -/
def follow (v : Value) : List (List Char) → Except Fault (Option Value)
  | [] => .ok (some v)
  | segment :: rest =>
    match v.part segment with
    | .ok (some next) => next.follow rest
    | .ok none => .ok none
    | .error fault => .error fault

/-- The segments of a path. -/
def segments (path : String) : List (List Char) := Text.splitBy (· == '.') path.toList

/-- What a path leads to.  The empty path leads nowhere. -/
def lookup (v : Value) (path : String) : Except Fault (Option Value) :=
  if path = "" then .ok none else v.follow (segments path)

end Value

end Admission
