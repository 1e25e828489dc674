import Admission.Condition.Operator
import Admission.Value.Basic

/-!
# Canonical conditions

Whatever a rule file or an administrator gives as a condition is made into a canonical one: groups
are joined by `and` or `or`, comparisons use one of the known operators, and everything that is not
a condition becomes the starting condition, which asks for an empty guild.

Main definitions:

* `Expr.starting` — the condition of a rule that has not been edited yet;
* `Expr.toValue` — a condition as a mapping;
* `Expr.ofValue` — the canonical condition of any value;
* `Expr.Canonical` — the conditions that are canonical already.
-/

set_option autoImplicit false

namespace Admission

/-- The name of the operator that joins a group, `and` unless it is `or`. -/
def Expr.joinName (operator : String) : String := if operator = "or" then "or" else "and"

/-- The name of a comparison operator, `eq` unless it is a known one. -/
def Expr.compareName (operator : String) : String :=
  if Comparison.isName operator then operator else "eq"

/-- The attribute that a comparison without one looks at. -/
def Expr.defaultField : String := "content"

/-- The condition of a rule that has not been edited yet. -/
def Expr.starting : Expr := .group "and" [.compare "guildId" "eq" (.str "")]

/-! ### Conditions as mappings -/

mutual

def Expr.toValue : Expr → Value
  | .group operator children =>
    .ofFields [("type", .str "group"), ("operator", .str operator),
      ("children", .ofList (Expr.toValues children))]
  | .negation child => .ofFields [("type", .str "not"), ("child", child.toValue)]
  | .compare field operator value =>
    .ofFields [("type", .str "compare"), ("field", .str field), ("operator", .str operator),
      ("value", value.copied)]

def Expr.toValues : List Expr → List Value
  | [] => []
  | e :: rest => e.toValue :: Expr.toValues rest

end

/-! ### Any value as a condition -/

/-- The kinds of condition that a mapping can name. -/
inductive Expr.Kind where
  | group
  | negation
  | compare
  deriving DecidableEq, Repr

/-- The kind of condition that the entries of a mapping name. -/
def Expr.kind? (entries : Fields) : Option Expr.Kind :=
  match entries.getD "type" with
  | .str s =>
    if s = "group" then some .group
    else if s = "not" then some .negation
    else if s = "compare" then some .compare
    else none
  | _ => none

/-- The text under a key, or a default when there is no text. -/
def Fields.textD (entries : Fields) (key default : String) : String :=
  ((entries.getD key).str?).getD default

mutual

/-- The canonical condition of a value. -/
def Expr.ofValue : Value → Expr
  | .mapping _ entries _ =>
    match Expr.kind? entries with
    | some .group =>
      .group (Expr.joinName (Fields.textD entries "operator" "and")) (Expr.childrenIn entries)
    | some .negation => .negation (Expr.childIn entries)
    | some .compare =>
      .compare (Fields.textD entries "field" Expr.defaultField)
        (Expr.compareName (Fields.textD entries "operator" "eq"))
        (Fields.getD entries "value").copied
    | none => Expr.starting
  | .expr e => Expr.normalized e
  | _ => Expr.starting

/-- The canonical conditions of the children that the entries of a group name; none unless the
children are a list. -/
def Expr.childrenIn : List (String × Value) → List Expr
  | [] => []
  | (key, .list _ items) :: rest =>
    if key == "children" then Expr.ofValues items else Expr.childrenIn rest
  | (key, _) :: rest => if key == "children" then [] else Expr.childrenIn rest

/-- The canonical condition of the child that the entries of a negation name. -/
def Expr.childIn : List (String × Value) → Expr
  | [] => Expr.starting
  | (key, v) :: rest => if key == "child" then Expr.ofValue v else Expr.childIn rest

/-- The canonical conditions of values. -/
def Expr.ofValues : List Value → List Expr
  | [] => []
  | v :: rest => Expr.ofValue v :: Expr.ofValues rest

def Expr.normalized : Expr → Expr
  | .group operator children => .group (Expr.joinName operator) (Expr.normalizedAll children)
  | .negation child => .negation (Expr.normalized child)
  | .compare field operator value =>
    .compare field (Expr.compareName operator) value.copied

def Expr.normalizedAll : List Expr → List Expr
  | [] => []
  | e :: rest => Expr.normalized e :: Expr.normalizedAll rest

end

/-! ### Canonical conditions -/

mutual

/-- Every group is joined by `and` or `or`, and every comparison uses a known operator. -/
def Expr.isCanonical : Expr → Bool
  | .group operator children =>
    (operator == "and" || operator == "or") && Expr.areCanonical children
  | .negation child => child.isCanonical
  | .compare _ operator _ => Comparison.isName operator

def Expr.areCanonical : List Expr → Bool
  | [] => true
  | e :: rest => e.isCanonical && Expr.areCanonical rest

end

end Admission
