import Admission.Pattern.Syntax

/-!
# The class that a pattern begins with

A search passes over the characters that no match can begin with.  Where a pattern begins with a
class, it reads the named classes in it under the flags of the whole pattern, even if a group with
flags of its own stands around them.  So a match is found only where the class holds in both
readings.

Main definitions:

* `Pattern.Node.lead?` — the class at the front of a pattern;
* `Pattern.Node.searched` — a pattern together with the condition on where a match may begin.
-/

set_option autoImplicit false

namespace Admission.Pattern

namespace ClassItem

/-- The member read under flags that choose ASCII or all characters. -/
def reread (ascii : Bool) : ClassItem → ClassItem
  | .category kind negated _ => .category kind negated ascii
  | item => item

/-- Ignoring case makes no difference to the member.  A range that leaves the basic plane counts as
one to which it makes a difference. -/
def isCaseless (f : Folding) : ClassItem → Bool
  | .code c => !f.isCased c
  | .range low high => f == .exact || (high ≤ lastBasic && !f.hasCased low high)
  | .category .. => true

end ClassItem

namespace CharTest

/-- The members of a class that is no complement, or the literal as its only member. -/
def members? : CharTest → Option (List ClassItem × Folding)
  | .literal false c f => some ([.code c], f)
  | .oneOf false items f => some (items, f)
  | _ => none

/-- The class that holds what either of two holds. -/
def either? (first second : CharTest) : Option CharTest :=
  match first.members?, second.members? with
  | some (a, f), some (b, _) => some (.oneOf false (a ++ b) f)
  | _, _ => none

/-- The class under flags that choose ASCII or all characters, if it is another one then and
ignoring case makes no difference to it. -/
def reread? (ascii : Bool) : CharTest → Option CharTest
  | .oneOf negated items f =>
    let others := items.map (·.reread ascii)
    if others = items || !items.all (·.isCaseless f) then none
    else some (.oneOf negated others .exact)
  | _ => none

end CharTest

namespace Node

def isEmpty : Node → Bool
  | .empty => true
  | .cat first second => first.isEmpty && second.isEmpty
  | _ => false

/-- A pattern for one character, alternatives of such patterns included. -/
def single? : Node → Option CharTest
  | .one test => some test
  | .alt first second =>
    match first.single?, second.single? with
    | some a, some b => a.either? b
    | _, _ => none
  | .cat first second =>
    if first.isEmpty then second.single?
    else if second.isEmpty then first.single?
    else none
  | _ => none

/-- The first part of a pattern, if it is for one character.  Alternatives have a first part in
common when it is the same in all of them. -/
def front? : Node → Option CharTest
  | .one test => some test
  | .cat first second => if first.isEmpty then second.front? else first.front?
  | .alt first second =>
    match (Node.alt first second).single? with
    | some test => some test
    | none =>
      let other := second.front?
      if first.front? = other then other else none
  | _ => none

/-- The first part of a pattern, if it is for one character, inside the groups that begin with
the pattern. -/
def lead? : Node → Option CharTest
  | .capture _ body => body.lead?
  | .scoped body => body.lead?
  | .cat first second => if first.isEmpty then second.lead? else first.lead?
  | node => node.front?

/-- The pattern as it is searched for, under flags that choose ASCII or all characters. -/
def searched (ascii : Bool) (pattern : Node) : Node :=
  match pattern.lead?.bind (·.reread? ascii) with
  | some start => .cat (.look none false (.one start)) pattern
  | none => pattern

end Node

end Admission.Pattern
