import Admission.Pattern.Syntax

/-!
# Matching by backtracking

A pattern is run at a place of the subject with a continuation, which is what has to match behind
it.  Where a pattern can match in several ways they are tried in order, until the continuation
succeeds too.

Repetition stops when a repetition has taken nothing, so that along one way there are at most as
many of them as required, plus the characters that are left, plus two.  That number is the fuel of
the loops.

Main definitions:

* `Pattern.Node.run` — a pattern at a place;
* `Pattern.Node.occursIn` — whether a pattern matches anywhere in a subject.
-/

set_option autoImplicit false

namespace Admission.Pattern

/-- The places where groups begin and end, the latest first.  The group `n` begins at the mark
`2 * n - 2` and ends at the mark `2 * n - 1`. -/
abbrev Marks := List (Nat × Nat)

/-- The place and the marks where a match ends. -/
abbrev Outcome := Option (Nat × Marks)

/-- What has to match behind a pattern. -/
abbrev Continuation := Nat → Marks → Outcome

namespace Marks

def set (marks : Marks) (mark place : Nat) : Marks := (mark, place) :: marks

/-- The bounds of a group that has a text. -/
def group? (marks : Marks) (number : Nat) : Option (Nat × Nat) :=
  match marks.lookup (2 * number - 2), marks.lookup (2 * number - 1) with
  | some start, some stop => if start ≤ stop then some (start, stop) else none
  | _, _ => none

end Marks

def orElse (first : Outcome) (second : Unit → Outcome) : Outcome :=
  match first with
  | some r => some r
  | none => second ()

/-- One more repetition is allowed. -/
def below (count : Nat) : Option Nat → Bool
  | some most => count < most
  | none => true

/-! ### Repetition -/

/-- As many repetitions as possible first.  `last` is where the latest one beyond the required
ones began. -/
def greedyLoop (body : Continuation → Continuation) (next : Continuation) (least : Nat)
    (most : Option Nat) : Nat → Nat → Option Nat → Continuation
  | 0, _, _ => fun _ _ => none
  | fuel + 1, count, last => fun place marks =>
    if count < least then
      body (greedyLoop body next least most fuel (count + 1) last) place marks
    else if below count most && last != some place then
      orElse (body (greedyLoop body next least most fuel (count + 1) (some place)) place marks)
        fun _ => next place marks
    else next place marks

/-- As few repetitions as possible first. -/
def reluctantLoop (body : Continuation → Continuation) (next : Continuation) (least : Nat)
    (most : Option Nat) : Nat → Nat → Option Nat → Continuation
  | 0, _, _ => fun _ _ => none
  | fuel + 1, count, last => fun place marks =>
    if count < least then
      body (reluctantLoop body next least most fuel (count + 1) last) place marks
    else
      orElse (next place marks) fun _ =>
        if below count most && last != some place then
          body (reluctantLoop body next least most fuel (count + 1) (some place)) place marks
        else none

/-- As many repetitions as possible, each in its first way only. -/
def possessiveLoop (body : Continuation → Continuation) (next : Continuation) (least : Nat)
    (most : Option Nat) : Nat → Nat → Option Nat → Continuation
  | 0, _, _ => fun _ _ => none
  | fuel + 1, count, last => fun place marks =>
    if count < least then
      match body (fun p m => some (p, m)) place marks with
      | some (p, m) => possessiveLoop body next least most fuel (count + 1) last p m
      | none => none
    else if below count most && last != some place then
      match body (fun p m => some (p, m)) place marks with
      | some (p, m) => possessiveLoop body next least most fuel (count + 1) (some place) p m
      | none => next place marks
    else next place marks

/-! ### Places -/

/-- The character before a place is one of a word. -/
def wordBefore (subject : Array Char) (ascii : Bool) (place : Nat) : Bool :=
  match place with
  | 0 => false
  | p + 1 => (subject[p]?).any fun c => Category.word.accepts ascii c.toNat

/-- The character at a place is one of a word. -/
def wordAt (subject : Array Char) (ascii : Bool) (place : Nat) : Bool :=
  (subject[place]?).any fun c => Category.word.accepts ascii c.toNat

/-- The place is of the given kind.  An empty subject has neither boundaries nor places that are
none. -/
def Anchor.holds (subject : Array Char) (place : Nat) : Anchor → Bool
  | .textStart => place == 0
  | .lineStart =>
    match place with
    | 0 => true
    | p + 1 => subject[p]? == some '\n'
  | .textEnd => place == subject.size
  | .lineEnd => place == subject.size || subject[place]? == some '\n'
  | .lastLineEnd =>
    place == subject.size || (place + 1 == subject.size && subject[place]? == some '\n')
  | .boundary ascii =>
    !subject.isEmpty && wordBefore subject ascii place != wordAt subject ascii place
  | .nonBoundary ascii =>
    !subject.isEmpty && wordBefore subject ascii place == wordAt subject ascii place

/-- The characters from `start` on, `length` of them, stand again at `place`. -/
def repeated (subject : Array Char) (f : Folding) (start place : Nat) : Nat → Bool
  | 0 => true
  | length + 1 =>
    match subject[start]?, subject[place]? with
    | some a, some b =>
      f.lower a.toNat == f.lower b.toNat && repeated subject f (start + 1) (place + 1) length
    | _, _ => false

/-! ### Matching -/

namespace Node

def run (subject : Array Char) : Node → Continuation → Continuation
  | .empty, next => next
  | .one test, next => fun place marks =>
    match subject[place]? with
    | some c => if test.accepts c then next (place + 1) marks else none
    | none => none
  | .anchor kind, next => fun place marks =>
    if kind.holds subject place then next place marks else none
  | .cat first second, next => run subject first (run subject second next)
  | .alt first second, next => fun place marks =>
    orElse (run subject first next place marks) fun _ => run subject second next place marks
  | .loop greed least most body, next => fun place marks =>
    -- behind the required repetitions each one takes a character, but for the last
    let fuel := least + (subject.size - place) + 2
    match greed with
    | .greedy => greedyLoop (run subject body) next least most fuel 0 none place marks
    | .reluctant => reluctantLoop (run subject body) next least most fuel 0 none place marks
    | .possessive => possessiveLoop (run subject body) next least most fuel 0 none place marks
  | .capture number body, next => fun place marks =>
    run subject body (fun p m => next p (m.set (2 * number - 1) p)) place
      (marks.set (2 * number - 2) place)
  | .scoped body, next => run subject body next
  | .atomic body, next => fun place marks =>
    match run subject body (fun p m => some (p, m)) place marks with
    | some (p, m) => next p m
    | none => none
  | .look back negated body, next => fun place marks =>
    let width := back.getD 0
    -- there are too few characters to look back
    if place < width then (if negated then next place marks else none)
    else
      match run subject body (fun p m => some (p, m)) (place - width) marks with
      | some (_, m) => if negated then none else next place m
      | none => if negated then next place marks else none
  | .again number folding, next => fun place marks =>
    match marks.group? number with
    | some (start, stop) =>
      if repeated subject folding start place (stop - start) then
        next (place + (stop - start)) marks
      else none
    | none => none
  | .ifGroup number yes no, next => fun place marks =>
    match marks.group? number with
    | some _ => run subject yes next place marks
    | none => run subject no next place marks

def occursIn (pattern : Node) (subject : Array Char) : Bool :=
  (List.range (subject.size + 1)).any fun place =>
    (run subject pattern (fun p m => some (p, m)) place []).isSome

end Node

end Admission.Pattern
