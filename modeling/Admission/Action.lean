/-!
# Actions and verdicts

What a rule does with an event whose condition holds, and what is decided about an event in the
end.  A rule that blocks drops the event; a rule that bypasses lets it through and shields it from
all later rules.  An event that no rule matches is allowed.
-/

set_option autoImplicit false

namespace Admission

/-- What a rule does with an event. -/
inductive Action where
  | block
  | bypass
  deriving DecidableEq, Repr, Inhabited

/-- What is decided about an event. -/
inductive Verdict where
  | allow
  | bypass
  | block
  deriving DecidableEq, Repr, Inhabited

namespace Action

def name : Action → String
  | .block => "block"
  | .bypass => "bypass"

/-- The verdict of a rule with this action. -/
def verdict : Action → Verdict
  | .block => .block
  | .bypass => .bypass

end Action

namespace Verdict

def name : Verdict → String
  | .allow => "allow"
  | .bypass => "bypass"
  | .block => "block"

end Verdict

end Admission
