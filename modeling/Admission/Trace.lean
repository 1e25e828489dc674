import Admission.Value.Basic

/-!
# Trace events

What happens inside is reported as events: a stage, which says where, and a payload of named
values.
-/

set_option autoImplicit false

namespace Admission

/-- A report of what happens inside. -/
structure TraceEvent where
  stage : String
  payload : Fields

namespace TraceEvent

def count (n : Nat) : Value := .int (n : Int)

end TraceEvent

end Admission
