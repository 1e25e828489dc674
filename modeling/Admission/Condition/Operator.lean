/-!
# Comparison operators

The twelve ways in which the value of an attribute is compared with the value of a condition, and
their written names.
-/

set_option autoImplicit false

namespace Admission

/-- How an attribute is compared. -/
inductive Comparison where
  /-- The same text, or the very same container. -/
  | equal
  | notEqual
  /-- Equal to one of several values. -/
  | member
  | notMember
  /-- Contains one of several values. -/
  | includes
  | notIncludes
  /-- Matched by a pattern. -/
  | pattern
  | greater
  | atLeast
  | less
  | atMost
  /-- Present and not null. -/
  | present
  deriving DecidableEq, Repr, Inhabited

namespace Comparison

def name : Comparison → String
  | .equal => "eq"
  | .notEqual => "ne"
  | .member => "in"
  | .notMember => "nin"
  | .includes => "includes"
  | .notIncludes => "notincludes"
  | .pattern => "regex"
  | .greater => "gt"
  | .atLeast => "gte"
  | .less => "lt"
  | .atMost => "lte"
  | .present => "exists"

def all : List Comparison :=
  [.equal, .notEqual, .member, .notMember, .includes, .notIncludes, .pattern, .greater, .atLeast,
   .less, .atMost, .present]

def ofName? (s : String) : Option Comparison := all.find? (·.name == s)

def isName (s : String) : Bool := (ofName? s).isSome

end Comparison

end Admission
