import Admission.Text.Split

/-!
# Paths

A path is a root, which a relative path does not have, and components.  The text of a path is put
into a normal form when it is read: repeated slashes and components that stand for the place itself
are dropped, but a component that leads upwards is kept, because what it means depends on the files
there are.  Exactly two slashes in front are a root of their own.

Main definitions:

* `Path` — a path in normal form;
* `Path.ofText`, `Path.text` — reading and writing;
* `Path.join` — a path seen from the end of another one;
* `Path.marked` — the path of a neighbour.
-/

set_option autoImplicit false

namespace Admission

/-- A path in normal form. -/
structure Path where
  /-- The slashes in front, empty for a relative path. -/
  root : String
  parts : List String
  deriving DecidableEq, Repr, Inhabited

namespace Path

/-- The slashes in front of a path that count as its root. -/
def rootOf : List Char → String
  | '/' :: '/' :: '/' :: _ => "/"
  | '/' :: '/' :: _ => "//"
  | '/' :: _ => "/"
  | _ => ""

/-- A component that changes where a path leads. -/
def isProper (part : String) : Bool := part != "" && part != "."

/-- The path that a text describes. -/
def ofText (s : String) : Path where
  root := rootOf s.toList
  parts := ((Text.splitBy (· == '/') s.toList).map String.ofList).filter isProper

def text (p : Path) : String :=
  if p.root = "" ∧ p.parts = [] then "." else p.root ++ String.intercalate "/" p.parts

/-- The path that a text describes when it is seen from the end of another path. -/
def join (p : Path) (s : String) : Path :=
  let q := ofText s
  if q.root = "" then { p with parts := p.parts ++ q.parts } else q

/-- The components from the directory that relative paths start in.  An absolute path starts in a
directory of its own, whose name no relative path can have. -/
def components (p : Path) : List String := if p.root = "" then p.parts else p.root :: p.parts

end Path

/-- The components with a mark at the end of the last one. -/
def markLast (mark : String) : List String → List String
  | [] => []
  | [last] => [last ++ mark]
  | part :: rest => part :: markLast mark rest

end Admission
