import Admission.Condition.Operator
import Admission.Condition.Path
import Admission.Number.Numeral
import Admission.Pattern.Parser
import Admission.Value.Display

/-!
# Comparisons

How the value of an attribute is compared with the value of a condition.

* Scalars are compared by their text: `true` and `false` for booleans, no point in a double that is
  a whole number, hexadecimal digits for an integer too large for decimal ones.  Containers are
  equal only when they are the same container.
* Several operators take a list of alternatives, or a text in which commas separate them.
* Numbers are compared as doubles; what is no finite number compares as false.
* An attribute that is missing fails every operator but `ne`.

Main definitions:

* `Value.scalarText`, `Value.normalized` — scalars as text;
* `Value.same` — equality in comparisons;
* `Value.number?` — the finite double that a value stands for;
* `Value.alternatives` — the values that a value lists;
* `Comparison.holds` — the outcome of a comparison.
-/

set_option autoImplicit false

namespace Admission

namespace Value

def scalarText : Value → Option String
  | .bool b => some (if b then "true" else "false")
  | .int i => some (Integer.text i)
  | .float d =>
    some (if d.isIntegral then Integer.text d.truncate else d.text Double.plainSpelling)
  | .str s => some s
  | _ => none

/-- A scalar as its text, any other value itself. -/
def normalized (v : Value) : Value :=
  match v.scalarText with
  | some s => .str s
  | none => v

/-- Equality of normalized values: the same text, or the very same container. -/
def same (a b : Value) : Bool :=
  match a, b with
  | .str s, .str t => s == t
  | a, b => identical a b

/-- A text that may spell a number: not blank, and without low lines. -/
def mayBeNumeral (s : String) : Bool := Text.trim s != "" && !s.toList.contains '_'

/-- The finite double that a value stands for.  Booleans are no numbers. -/
def number? (v : Value) : Option Double :=
  let number := match v with
    | .int i => Double.ofInt? i
    | .float d => some d
    | .str s => if mayBeNumeral s then Numeral.read? s else none
    | _ => none
  number.filter Double.isFinite

def isComma (c : Char) : Bool := c == ',' || c == '，'

/-- The trimmed parts between commas that are not empty. -/
def commaParts (s : String) : List String :=
  ((Text.splitBy isComma s.toList).map fun part => String.ofList (Text.trimBy Text.isBlank part)).filter
    (· != "")

/-- The values that a value lists: the items of a list or tuple, the parts of a text with at least
two of them, and otherwise the value itself. -/
def alternatives (v : Value) : List Value :=
  match v with
  | .list _ items => items
  | .tuple _ items => items
  | .str s =>
    let parts := commaParts s
    -- a single part stays as it is written, blanks and commas included
    if 1 < parts.length then parts.map .str else [.str s]
  | v => [v]

def searchText (v : Value) : Except Fault String :=
  match v.normalized with
  | .null => .ok ""
  | .str s => .ok s
  | w => w.display

/-- For each alternative whether the value contains it; none when nothing can be searched in the
value.  In a text it is searched as text, in a list or tuple among the items. -/
def containment (left : Value) (candidates : List Value) : Except Fault (Option (List Bool)) :=
  match left.normalized with
  | .str s => do
    -- all alternatives are written out first, so a fault in any of them counts
    let texts ← candidates.mapM searchText
    return some (texts.map fun t => Text.containsPart t.toList s.toList)
  | _ =>
    match left.items? with
    | some items =>
      return some (candidates.map fun c => items.any fun i => same i.normalized c.normalized)
    | none => return none

/-- The text of the first alternative as a pattern, the empty pattern when there is none. -/
def patternText : List Value → Except Fault String
  | [] => .ok ""
  | v :: _ => v.searchText

/-- The number that the first alternative spells. -/
def boundOf : List Value → Option Double
  | [] => none
  | v :: _ => v.normalized.number?

end Value

namespace Comparison

/-- The outcome of an operator on two numbers. -/
def ordered : Comparison → Double → Double → Bool
  | .greater, a, b => b.below a
  | .atLeast, a, b => b.atMost a
  | .less, a, b => a.below b
  | .atMost, a, b => a.atMost b
  | _, _, _ => false

/-- The outcome of comparing the value of an attribute that is there. -/
def holdsFor (op : Comparison) (left right : Value) : Except Fault Bool :=
  let candidates := right.alternatives
  match op with
  | .present => .ok (match left with | .null => false | _ => true)
  | .equal => .ok (left.normalized.same right.normalized)
  | .notEqual => .ok (!left.normalized.same right.normalized)
  | .member => .ok (candidates.any fun c => left.normalized.same c.normalized)
  | .notMember => .ok (candidates.all fun c => !left.normalized.same c.normalized)
  | .includes => do
    return match ← left.containment candidates with
      | some hits => hits.any id
      | none => false
  | .notIncludes => do
    return match ← left.containment candidates with
      | some hits => !hits.any id
      | none => false
  | .pattern =>
    match left.normalized with
    | .str s => do Pattern.search (← Value.patternText candidates) s
    | _ => .ok false
  | op =>
    match left.number?, Value.boundOf candidates with
    | some a, some b => .ok (op.ordered a b)
    | _, _ => .ok false

/-- The outcome of a comparison; `left` is the value of the attribute if it is there. -/
def holds (op : Comparison) (left : Option Value) (right : Value) : Except Fault Bool :=
  match left with
  | none => .ok (op == .notEqual)
  | some left => op.holdsFor left right

end Comparison

/-- The outcome of the operator with a written name; an unknown one never holds. -/
def Comparison.namedHolds (operator : String) (left : Option Value) (right : Value) :
    Except Fault Bool :=
  match Comparison.ofName? operator with
  | some op => op.holds left right
  | none => .ok false

end Admission
