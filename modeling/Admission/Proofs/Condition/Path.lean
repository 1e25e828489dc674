import Admission.Condition.Path
import Admission.Proofs.Text.Split

/-!
# Paths of paths

A path may be cut at any of its points.  What lies behind the cut is a path of its own, to be
followed from wherever the first part has led: what is found is found by the parts one after the
other, what is missing is missing at the same place, and a number with too many digits stops both in
the same way.  It does not matter what the parts look like, as long as there is something on both
sides of the cut: points at their ends and next to each other make empty segments, which name
entries like any others.

Main definition: `Value.lookupIn` — what a path leads to in what may be missing.

Main results:

* `Value.segments_append` — a point divides the segments of a path;
* `Value.follow_append` — segments are followed one after the other;
* `Value.lookup_append` — **a path leads where its parts lead one after the other**.
-/

set_option autoImplicit false

namespace Admission.Value

/-- What a path leads to in what may be missing.  In what is missing it leads nowhere. -/
def lookupIn (found : Option Value) (path : String) : Except Fault (Option Value) :=
  match found with
  | some v => v.lookup path
  | none => .ok none

/-- What segments lead to in what may be missing. -/
def followIn (found : Option Value) (path : List (List Char)) : Except Fault (Option Value) :=
  match found with
  | some v => v.follow path
  | none => .ok none

theorem segments_append (p q : String) : segments (p ++ "." ++ q) = segments p ++ segments q := by
  have htext : (p ++ "." ++ q).toList = p.toList ++ '.' :: q.toList := by
    simp [String.toList_append]
  rw [segments, htext, Text.splitBy_append_cons (by rfl)]
  rfl

theorem follow_cons (v : Value) (segment : List Char) (rest : List (List Char)) :
    v.follow (segment :: rest) = (v.part segment).bind (followIn · rest) := by
  rw [follow]
  cases v.part segment with
  | error fault => rfl
  | ok found => cases found <;> rfl

/-- Segments are followed one after the other, wherever the first ones stop. -/
theorem follow_append (v : Value) (before after : List (List Char)) :
    v.follow (before ++ after) = (v.follow before).bind (followIn · after) := by
  induction before generalizing v with
  | nil => rfl
  | cons segment rest ih =>
      rw [List.cons_append, follow_cons, follow_cons]
      cases v.part segment with
      | error fault => rfl
      | ok found =>
          cases found with
          | none => rfl
          | some next => exact ih next

theorem lookup_of_ne (v : Value) {path : String} (h : path ≠ "") :
    v.lookup path = v.follow (segments path) := by
  rw [lookup, if_neg h]

theorem lookupIn_of_ne (found : Option Value) {path : String} (h : path ≠ "") :
    lookupIn found path = followIn found (segments path) := by
  cases found with
  | none => rfl
  | some v => exact v.lookup_of_ne h

/-- A path that consists of two paths with a point between them leads where the second one leads
from what the first one finds.  It finds nothing when either of them finds nothing, and it stops
where either of them stops. -/
theorem lookup_append (v : Value) {p q : String} (hp : p ≠ "") (hq : q ≠ "") :
    v.lookup (p ++ "." ++ q) = (v.lookup p).bind (lookupIn · q) := by
  have hwhole : p ++ "." ++ q ≠ "" := by simp [hp]
  rw [lookup_of_ne v hwhole, segments_append, follow_append, lookup_of_ne v hp]
  congr 1
  funext found
  exact (lookupIn_of_ne found hq).symm

/-- Containers of three kinds, one in the other, with an attribute under the empty name. -/
def nested : Value :=
  ofFields [("a", .tuple none [.null, .object none recordKind [("", ofFields [("b", .int 7)])]])]

/-- The cut may be next to another point. -/
theorem lookup_append_nested :
    "a.1." ≠ "" ∧ "b" ≠ "" ∧
      nested.lookup ("a.1." ++ "." ++ "b") = (nested.lookup "a.1.").bind (lookupIn · "b") ∧
      nested.lookup ("a.1." ++ "." ++ "b") = .ok (some (.int 7)) := by
  have hcut := nested.lookup_append (p := "a.1.") (q := "b") (by decide) (by decide)
  exact ⟨by decide, by decide, hcut, hcut.trans rfl⟩

end Admission.Value
