import Admission.Condition.Evaluate
import Admission.Rule.Basic
import Admission.Session
import Admission.Trace

/-!
# Decisions

The rules for an event are tried in the order of evaluation.  The first enabled rule of the right
kind of target that covers the event and whose condition holds decides: it blocks the event, or it
lets the event bypass all later rules.  An event that no rule decides is allowed.

Every condition that is evaluated leaves a trace, and so does the outcome.

Main definitions:

* `Decision` — what is decided, and by which rule;
* `Rule.applies` — the rules that are asked at all;
* `Decision.forEvent` — the decision for an attribute map;
* `admits` — whether the rules for a plugin let a session through.
-/

set_option autoImplicit false

namespace Admission

/-- What is decided about an event, and by which rule. -/
structure Decision where
  verdict : Verdict
  response : String
  ruleId : String
  ruleName : String
  deriving DecidableEq, Repr, Inhabited

namespace Decision

/-- The decision about an event that no rule matches. -/
def allowed : Decision := ⟨.allow, "", "", ""⟩

def ofRule (r : Rule) : Decision where
  verdict := r.action.verdict
  response :=
    match r.action with
    | .block => r.response
    | .bypass => ""
  ruleId := r.id
  ruleName := r.name

def isBlocked (d : Decision) : Bool := d.verdict == .block

def isAllowed (d : Decision) : Bool := !d.isBlocked

end Decision

namespace Rule

/-- The rule is enabled, its target is of the given kind and it covers the event. -/
def applies (kind : TargetKind) (vars : Fields) (r : Rule) : Bool :=
  r.enabled && r.target.kind == kind && r.target.covers vars

/-- The condition of the rule holds of the attributes. -/
def matchesEvent (vars : Fields) (r : Rule) : Except Fault Bool :=
  r.condition.evaluate (.ofFields vars)

/-- The trace of an evaluated condition. -/
def evaluateEvent (stage : String) (r : Rule) (matched : Bool) : TraceEvent :=
  ⟨stage ++ ":evaluate", [("ruleId", .str r.id), ("ruleName", .str r.name),
    ("action", .str r.action.name), ("matched", .bool matched)]⟩

/-- The trace of a rule that decides. -/
def actionEvent (stage : String) (r : Rule) : TraceEvent :=
  ⟨stage ++ ":action", [("ruleId", .str r.id), ("action", .str r.action.name),
    ("response", .str r.response)]⟩

end Rule

/-- The trace of an event that no rule decides. -/
def passEvent (stage : String) : TraceEvent :=
  ⟨stage ++ ":pass", [("reason", .str "no-rule-matched")]⟩

/-- The decision of the first rule in the list whose condition holds. -/
def firstMatch (stage : String) (vars : Fields) :
    List Rule → List TraceEvent × Except Fault Decision
  | [] => ([passEvent stage], .ok .allowed)
  | r :: rest =>
    match r.matchesEvent vars with
    -- a fault leaves no trace of its own
    | .error fault => ([], .error fault)
    | .ok true => ([r.evaluateEvent stage true, r.actionEvent stage], .ok (.ofRule r))
    | .ok false =>
      let (events, outcome) := firstMatch stage vars rest
      (r.evaluateEvent stage false :: events, outcome)

/-- The decision of the rules for an event with the given attributes, and its trace. -/
def Decision.forEvent (rules : List Rule) (vars : Fields) (kind : TargetKind) (stage : String) :
    List TraceEvent × Except Fault Decision :=
  firstMatch stage vars ((Rule.sort rules).filter (Rule.applies kind vars))

/-- Whether the rules for a plugin let a session through: only a rule that blocks does not. -/
def admits (key : String) (rules : List Rule) (session : Session) :
    List TraceEvent × Except Fault Bool :=
  match session.varsWith [("pluginKey", .str key)] with
  | .error fault => ([], .error fault)
  | .ok vars =>
    let (events, outcome) := Decision.forEvent rules vars .plugins "native-filter"
    (events, outcome.map Decision.isAllowed)

/-- The keys of plugins that some enabled rule names, each once. -/
def activeKeys (rules : List Rule) : List String :=
  (rules.flatMap fun r =>
    match r.enabled, r.target with
    | true, .plugins keys => keys
    | _, _ => []).eraseDups

end Admission
