import Admission.Number.Double
import Admission.Text.Blank
import Admission.Text.Digit

/-!
# Numerals

The reading of a text as a double.  A numeral is a sign, digits with an optional point and an
optional exponent, or one of the names of infinity and not-a-number in any case.  Digits may belong
to any script; a low line may stand between two digits.  Blanks around the numeral are skipped.

Main definitions:

* `Numeral.toAscii` — digits of all scripts as ASCII digits and blanks as spaces;
* `Numeral.read?` — the double that a text spells.
-/

set_option autoImplicit false

namespace Admission.Numeral

/-- A character beyond ASCII as the ASCII digit of its value, or as a space if it is a blank. -/
def asciiOf (c : Char) : Char :=
  if c.toNat < 128 then c
  else
    match Text.digitValue? c with
    | some d => Nat.digitChar d
    | none => if Text.isBlank c then ' ' else c

/-- A text with the digits of all scripts as ASCII digits, and the blanks beyond ASCII as
spaces. -/
def toAscii (cs : List Char) : List Char := cs.map asciiOf

/-- Removes the low lines of a numeral.  Each must stand between two digits. -/
def dropLowLines (previous : Char) : List Char → Option (List Char)
  | [] => if previous == '_' then none else some []
  | '_' :: rest => if previous.isDigit then dropLowLines '_' rest else none
  | c :: rest =>
    if previous == '_' && !c.isDigit then none
    else (dropLowLines c rest).map (c :: ·)

def splitSign : List Char → Bool × List Char
  | '-' :: rest => (true, rest)
  | '+' :: rest => (false, rest)
  | rest => (false, rest)

/-- The exponent of a numeral, zero when there is none. -/
def exponent? : List Char → Option Int
  | [] => some 0
  | e :: rest =>
    if e == 'e' || e == 'E' then
      let (negative, digits) := splitSign rest
      if digits.isEmpty || !digits.all Char.isDigit then none
      else
        let n : Int := Nat.ofDigitChars 10 digits 0
        some (if negative then -n else n)
    else none

/-- The double that digits, an optional point with more digits and an optional exponent spell. -/
def unsigned? (negative : Bool) (cs : List Char) : Option Double :=
  let whole := cs.takeWhile Char.isDigit
  let rest := cs.dropWhile Char.isDigit
  let (fraction, rest) : List Char × List Char := match rest with
    | '.' :: more => (more.takeWhile Char.isDigit, more.dropWhile Char.isDigit)
    | _ => ([], rest)
  if whole.isEmpty && fraction.isEmpty then none
  else
    (exponent? rest).map fun e =>
      Double.ofDecimal negative (Nat.ofDigitChars 10 (whole ++ fraction) 0)
        (e - (fraction.length : Int))

/-- The double that a name of infinity or of not-a-number stands for. -/
def named? (negative : Bool) (cs : List Char) : Option Double :=
  let name := String.ofList (cs.map Char.toLower)
  if name == "inf" || name == "infinity" then some (.infinite negative)
  else if name == "nan" then some .nan
  else none

/-- The double that a text spells. -/
def read? (s : String) : Option Double :=
  match dropLowLines ' ' (Text.trimBy Text.isAsciiBlank (toAscii s.toList)) with
  | none => none
  | some cs =>
    let (negative, body) := splitSign cs
    match named? negative body with
    | some d => some d
    | none => unsigned? negative body

end Admission.Numeral
