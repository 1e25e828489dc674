import Admission.Number.Integer
import Admission.Number.Shortest
import Admission.Text.Quoted
import Admission.Value.Basic

/-!
# The text of a value

How a value reads as text: a text stands for itself, and everything else is written with its
structure, texts inside containers being quoted.  An integer too large for decimal digits has no
text, and neither has what holds one.

Main definitions:

* `Value.written` — a value with its structure, texts quoted;
* `Value.display` — the same, but a text stands for itself;
* `Value.kindName` — how faults name the kind of a value.
-/

set_option autoImplicit false

namespace Admission

/-- The names of the numbers that are not finite, in the text of a value. -/
def Double.plainSpelling : Double.Spelling := ⟨"nan", "inf"⟩

/-- The items of a container between its brackets. -/
def Value.bracketed (opening closing : String) (items : List String) : String :=
  opening ++ String.intercalate ", " items ++ closing

/-- A named part of what is written by its parts. -/
def Value.named (part : String × String) : String := part.1 ++ "=" ++ part.2

def TargetKind.label : TargetKind → String
  | .everything => "<TargetType.GLOBAL: 'global'>"
  | .plugins => "<TargetType.PLUGIN: 'plugin'>"
  | .commands => "<TargetType.COMMAND: 'command'>"

def Action.label : Action → String
  | .block => "<RuleAction.BLOCK: 'block'>"
  | .bypass => "<RuleAction.BYPASS: 'bypass'>"

/-- A target with its parts. -/
def Target.written (t : Target) : String :=
  Value.bracketed "Target(" ")" ([("type", t.kind.label),
    ("values", Value.bracketed "[" "]" (t.keys.map Text.quoted))].map Value.named)

mutual

/-- A value with its structure. -/
def Value.written : Value → Except Fault String
  | .null => .ok "None"
  | .bool b => .ok (if b then "True" else "False")
  | .int i => Integer.decimal? i
  | .float d => .ok (d.text Double.plainSpelling)
  | .str s => .ok (Text.quoted s)
  | .list _ items => (Value.writtenItems items).map (Value.bracketed "[" "]")
  | .tuple _ items =>
    (Value.writtenItems items).map fun texts =>
      match texts with
      | [one] => "(" ++ one ++ ",)"
      | _ => Value.bracketed "(" ")" texts
  | .mapping _ entries others => do
    let texts ← Value.writtenEntries entries
    let more ← Value.writtenOthers others
    return Value.bracketed "\x7b" "\x7d" (Value.interleave 0 texts more)
  | .object _ kind entries =>
    -- what has no text of its own is written as the kind that it is of
    if kind = Value.recordKind then
      (Value.writtenAttributes entries).map (Value.bracketed "namespace(" ")")
    else .ok ("<" ++ kind ++ " object>")
  | .expr e => Expr.written e
  | .target t => .ok t.written
  | .rule id name enabled priority action target condition response => do
    let priority ← Integer.decimal? priority
    let condition ← Expr.written condition
    return Value.bracketed "Rule(" ")" ([("id", Text.quoted id), ("name", Text.quoted name),
      ("enabled", if enabled then "True" else "False"), ("priority", priority),
      ("action", action.label), ("target", target.written), ("condition", condition),
      ("response", Text.quoted response)].map Value.named)

def Value.writtenItems : List Value → Except Fault (List String)
  | [] => .ok []
  | v :: rest => do
    let text ← Value.written v
    let texts ← Value.writtenItems rest
    return text :: texts

def Value.writtenEntries : List (String × Value) → Except Fault (List String)
  | [] => .ok []
  | (k, v) :: rest => do
    let text ← Value.written v
    let texts ← Value.writtenEntries rest
    return (Text.quoted k ++ ": " ++ text) :: texts

/-- The entries of a mapping under keys that are no texts. -/
def Value.writtenOthers : List (Nat × Value × Value) → Except Fault (List (Nat × String))
  | [] => .ok []
  | (n, k, v) :: rest => do
    let key ← Value.written k
    let text ← Value.written v
    let texts ← Value.writtenOthers rest
    return (n, key ++ ": " ++ text) :: texts

/-- The attributes of an object with their structure.  One with an empty name is passed over. -/
def Value.writtenAttributes : List (String × Value) → Except Fault (List String)
  | [] => .ok []
  | (k, v) :: rest =>
    if k = "" then Value.writtenAttributes rest
    else do
      let text ← Value.written v
      let texts ← Value.writtenAttributes rest
      return Value.named (k, text) :: texts

/-- A condition with its parts. -/
def Expr.written : Expr → Except Fault String
  | .group operator children =>
    (Expr.writtenAll children).map fun texts =>
      Value.bracketed "GroupExpr(" ")" ([("operator", Text.quoted operator),
        ("children", Value.bracketed "[" "]" texts)].map Value.named)
  | .negation child =>
    (Expr.written child).map fun text =>
      Value.bracketed "NotExpr(" ")" [Value.named ("child", text)]
  | .compare field operator value =>
    (Value.written value).map fun text =>
      Value.bracketed "CompareExpr(" ")" ([("field", Text.quoted field),
        ("operator", Text.quoted operator), ("value", text)].map Value.named)

def Expr.writtenAll : List Expr → Except Fault (List String)
  | [] => .ok []
  | e :: rest => do
    let text ← Expr.written e
    let texts ← Expr.writtenAll rest
    return text :: texts

end

/-- The kind of a value, as faults name it. -/
def Value.kindName : Value → String
  | .null => "NoneType"
  | .bool _ => "bool"
  | .int _ => "int"
  | .float _ => "float"
  | .str _ => "str"
  | .list .. => "list"
  | .tuple .. => "tuple"
  | .mapping .. => "dict"
  | .object _ kind _ => kind
  | .expr (.group ..) => "GroupExpr"
  | .expr (.negation _) => "NotExpr"
  | .expr (.compare ..) => "CompareExpr"
  | .target _ => "Target"
  | .rule .. => "Rule"

/-- The text of a value. -/
def Value.display : Value → Except Fault String
  | .str s => .ok s
  | v => v.written

end Admission
