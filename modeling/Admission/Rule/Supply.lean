/-!
# Generated ids

An id is eight letters of an alphabet without look-alikes.  Letters come from a supply, an endless
sequence of which some have been drawn.  When an id must not be in use, candidates are drawn until
one is free; the supply says how many may be tried, so that the search always ends.

Main definitions:

* `Supply` — a supply of letters;
* `Supply.draw` — a text of the next letters;
* `Supply.freshId?` — the first candidate that is not in use;
* `Supply.counting` — the supply whose ids are consecutive numbers in base 31.
-/

set_option autoImplicit false

namespace Admission

/-- An endless sequence of letters of which some have been drawn. -/
structure Supply where
  /-- The letters. -/
  letter : Nat → Char
  /-- How many of them have been drawn. -/
  drawn : Nat
  /-- How many candidates are tried when an id has to be free. -/
  patience : Nat

namespace Supply

def alphabet : List Char := "23456789abcdefghjkmnpqrstuvwxyz".toList

/-- The number of letters in an id. -/
def idLength : Nat := 8

def draw (s : Supply) (length : Nat) : String × Supply :=
  (String.ofList ((List.range length).map fun i => s.letter (s.drawn + i)),
   { s with drawn := s.drawn + length })

def drawId (s : Supply) : String × Supply := s.draw idLength

/-- Draws ids until one is not in use, at most the given number. -/
def search (taken : List String) : Nat → Supply → Option (String × Supply)
  | 0, _ => none
  | tries + 1, s =>
    let (id, s') := s.drawId
    if taken.contains id then search taken tries s' else some (id, s')

/-- The first candidate that is not in use. -/
def freshId? (taken : List String) (s : Supply) : Option (String × Supply) :=
  search taken s.patience s

/-- The digit of a number in base 31, as a letter, at a place counted from the most significant of
eight. -/
def digitLetter (number place : Nat) : Char :=
  alphabet.getD (number / Nat.pow 31 (idLength - 1 - place) % 31) '2'

/-- The supply whose ids spell consecutive numbers in base 31 from the given one on. -/
def counting (start patience : Nat) : Supply where
  letter d := digitLetter (start + d / idLength) (d % idLength)
  drawn := 0
  patience := patience

end Supply

end Admission
