import Admission.Text.Blank
import Admission.Text.Case
import Admission.Text.Digit
import Admission.Text.Word

/-!
# Classes of characters in patterns

One place of a pattern stands for one character of the subject: a literal, any character, or a
class in square brackets.  With case ignored, a character is compared by its small letter, and
letters that share a capital count as the same.

Characters of a pattern are code points, since an escape may name one that no text can hold.

Main definitions:

* `Pattern.Folding` — whether and how case is ignored;
* `Pattern.ClassItem` — one member of a class;
* `Pattern.CharTest` — what stands for one character;
* `Pattern.CharTest.accepts` — the characters it stands for.
-/

set_option autoImplicit false

namespace Admission.Pattern

/-- Whether case is ignored, and for which letters. -/
inductive Folding where
  | exact
  | ascii
  | unicode
  deriving DecidableEq, Repr, Inhabited

namespace Folding

/-- The small letter of an ASCII capital, and any other code point itself. -/
def asciiLower (c : Nat) : Nat := if 65 ≤ c ∧ c ≤ 90 then c + 32 else c

/-- The form by which characters are compared. -/
def lower : Folding → Nat → Nat
  | .exact, c => c
  | .ascii, c => asciiLower c
  | .unicode, c => Text.lowercase c

def isCased : Folding → Nat → Bool
  | .exact, _ => false
  | .ascii, c => (65 ≤ c && c ≤ 90) || (97 ≤ c && c ≤ 122)
  | .unicode, c => Text.isCased c

def hasCased : Folding → Nat → Nat → Bool
  | .exact, _, _ => false
  | .ascii, low, high => (low ≤ 90 && 65 ≤ high) || (low ≤ 122 && 97 ≤ high)
  | .unicode, low, high => Text.hasCased low high

/-- The other small letters that share a capital with a small letter. -/
def kin : Folding → Nat → List Nat
  | .unicode, c => Text.caseKin c
  | _, _ => []

/-- All characters that are compared as the given small letter. -/
def sources : Folding → Nat → List Nat
  | .exact, c => [c]
  | .ascii, c => if 97 ≤ c ∧ c ≤ 122 then [c, c - 32] else if 65 ≤ c ∧ c ≤ 90 then [] else [c]
  | .unicode, c => Text.capitalsOf c

end Folding

/-- The named classes. -/
inductive Category where
  | digit
  | blank
  | word
  deriving DecidableEq, Repr

/-- One member of a class. -/
inductive ClassItem where
  | code (c : Nat)
  | range (low high : Nat)
  /-- A named class or its complement, among ASCII or all characters. -/
  | category (kind : Category) (negated ascii : Bool)
  deriving DecidableEq, Repr

namespace Category

def accepts (kind : Category) (ascii : Bool) (c : Nat) : Bool :=
  let char := Char.ofNat c
  match kind, ascii with
  | .digit, true => char.isDigit
  | .digit, false => Text.isDigit char
  | .blank, true => Text.isAsciiBlank char
  | .blank, false => Text.isBlank char
  | .word, true => Text.isAsciiWord char
  | .word, false => Text.isWord char

end Category

namespace ClassItem

/-- The last code point of the basic plane. -/
def lastBasic : Nat := 0xFFFF

def accepts (c : Nat) : ClassItem → Bool
  | .code d => c == d
  | .range low high => low ≤ c && c ≤ high
  | .category kind negated ascii => kind.accepts ascii c != negated

/-- Case is ignored, and the member has characters of another case.  Beyond the basic plane every
character counts as such. -/
def hasCased (f : Folding) : ClassItem → Bool
  | .code d => f.isCased d || (f != .exact && lastBasic < f.lower d)
  | .range low high => f.hasCased low high || (f != .exact && lastBasic < high)
  | .category .. => false

/-- Case is ignored, and the member holds the small letter `c`.  Beyond the basic plane a range is
searched for the letter and its capital, and a single character stands for itself. -/
def acceptsFolded (f : Folding) (c : Nat) : ClassItem → Bool
  | .code d =>
    let small := f.lower d
    if lastBasic < small then c == d else c == small || (f.kin small).contains c
  | .range low high =>
    let basic := (c :: f.kin c).any fun small =>
      (f.sources small).any fun source => low ≤ source && source ≤ min high lastBasic
    basic || (lastBasic < high &&
      ((low ≤ c && c ≤ high) || (low ≤ Text.uppercase c && Text.uppercase c ≤ high)))
  | .category kind negated ascii => kind.accepts ascii c != negated

end ClassItem

/-- What stands for one character of the subject. -/
inductive CharTest where
  /-- Any character, line ends included or not. -/
  | any (lineEnds : Bool)
  | literal (negated : Bool) (c : Nat) (folding : Folding)
  | oneOf (negated : Bool) (items : List ClassItem) (folding : Folding)
  deriving DecidableEq, Repr

namespace CharTest

/-- The character is the literal, or a letter that differs from it in case only. -/
def sameLetter (f : Folding) (d c : Nat) : Bool :=
  if f.isCased d then
    let small := f.lower d
    f.lower c == small || (f.kin small).contains (f.lower c)
  else c == d

def accepts (t : CharTest) (char : Char) : Bool :=
  let c := char.toNat
  match t with
  | .any lineEnds => lineEnds || char != '\n'
  | .literal negated d f => sameLetter f d c != negated
  | .oneOf negated items f =>
    let found :=
      if items.any (ClassItem.hasCased f) then items.any (ClassItem.acceptsFolded f (f.lower c))
      else items.any (ClassItem.accepts c)
    found != negated

end CharTest

end Admission.Pattern
