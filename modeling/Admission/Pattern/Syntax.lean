import Admission.Pattern.Class

/-!
# The syntax of patterns

The tree of a pattern.  All that depends on flags is settled in the tree, and lookbehind assertions
carry the number of characters that they look back.
-/

set_option autoImplicit false

namespace Admission.Pattern

/-- A place between characters. -/
inductive Anchor where
  | textStart
  | lineStart
  | textEnd
  | lineEnd
  /-- The end of the text, or before a line end that is its last character. -/
  | lastLineEnd
  | boundary (ascii : Bool)
  | nonBoundary (ascii : Bool)
  deriving DecidableEq, Repr

/-- The order in which numbers of repetitions are tried. -/
inductive Greed where
  /-- As many as possible first. -/
  | greedy
  /-- As few as possible first. -/
  | reluctant
  /-- As many as possible, and no other number. -/
  | possessive
  deriving DecidableEq, Repr

/-- A pattern. -/
inductive Node where
  | empty
  | one (test : CharTest)
  | anchor (place : Anchor)
  | cat (first second : Node)
  | alt (first second : Node)
  /-- At least `least` and at most `most` repetitions. -/
  | loop (greed : Greed) (least : Nat) (most : Option Nat) (body : Node)
  /-- A group whose text is kept under a number. -/
  | capture (number : Nat) (body : Node)
  /-- A group with flags of its own, which are settled in its body. -/
  | scoped (body : Node)
  /-- A pattern that is matched in its first way only. -/
  | atomic (body : Node)
  /-- A pattern that has to match, or must not match, at this place without taking anything;
  `back` characters before it for a lookbehind. -/
  | look (back : Option Nat) (negated : Bool) (body : Node)
  /-- The text of a group again. -/
  | again (number : Nat) (folding : Folding)
  /-- One of two patterns, according to whether a group has a text. -/
  | ifGroup (number : Nat) (yes no : Node)
  deriving DecidableEq, Repr, Inhabited

end Admission.Pattern
