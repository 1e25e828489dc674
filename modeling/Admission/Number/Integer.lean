import Admission.Fault

/-!
# The written form of integers

An integer is written in decimal as long as that takes at most 4300 digits, and a decimal numeral
is read as an integer under the same limit.  Where a larger integer has to be written all the same,
it is written in hexadecimal.

Main definitions:

* `Integer.decimal` — the decimal form;
* `Integer.decimal?` — the decimal form under the limit;
* `Integer.hexadecimal` — the form that has no limit;
* `Integer.readDigits` — the number that decimal digits spell, under the limit.
-/

set_option autoImplicit false

namespace Admission.Integer

/-- The most decimal digits that an integer may have to be read or written. -/
def digitLimit : Nat := 4300

/-- The smallest magnitude that is too large to be written in decimal. -/
def writeLimit : Nat := Nat.pow 10 digitLimit

/-- The integer is small enough to be written in decimal. -/
def isWritable (i : Int) : Bool := i.natAbs < writeLimit

def decimal (i : Int) : String :=
  if i < 0 then "-" ++ Nat.repr i.natAbs else Nat.repr i.natAbs

/-- The decimal form, refused beyond the limit. -/
def decimal? (i : Int) : Except Fault String :=
  if isWritable i then .ok (decimal i) else .error .integerTooLarge

def hexadecimal (i : Int) : String :=
  (if i < 0 then "-0x" else "0x") ++ String.ofList (Nat.toDigits 16 i.natAbs)

/-- The decimal form, or the hexadecimal one beyond the limit. -/
def text (i : Int) : String := if isWritable i then decimal i else hexadecimal i

/-- The number that ASCII digits spell, refused when there are too many of them. -/
def readDigits (digits : List Char) : Except Fault Nat :=
  if digitLimit < digits.length then .error (.numeralTooLong digits.length)
  else .ok (Nat.ofDigitChars 10 digits 0)

end Admission.Integer
