import Admission.Number.Double

/-!
# The shortest decimal that reads back

Every finite double is the nearest double to infinitely many decimals.  The one written out is the
one with the fewest significant digits; among those of that length, the one nearest to the number;
and of two equally near, the one whose last digit is even.

A grid of decimals with `n` significant digits has the number between two neighbouring points, so
only those two are tried, for `n = 1, 2, …, 17`.  Seventeen digits always suffice; should they not,
the exact decimal expansion, which every double has, is taken, so the result reads back in any case.

Main definitions:

* `Double.Decimal` — a decimal as digits and a power of ten;
* `Double.shortest` — the decimal chosen for a rank;
* `Double.text` — its written form, positional for exponents from -4 to 15, with a point and at
  least one digit after it, and otherwise with a signed exponent of at least two digits.
-/

set_option autoImplicit false

namespace Admission

namespace Double

/-- The number `digits * 10 ^ exponent`. -/
structure Decimal where
  digits : Nat
  exponent : Int
  deriving DecidableEq, Repr

namespace Decimal

/-- Moves trailing zeros of the digits into the exponent, at most `fuel` of them. -/
def stripZeros : Nat → Decimal → Decimal
  | 0, d => d
  | fuel + 1, d =>
    if d.digits % 10 = 0 ∧ d.digits ≠ 0 then
      stripZeros fuel ⟨d.digits / 10, d.exponent + 1⟩
    else d

/-- The decimal without trailing zeros among its digits. -/
def normalized (d : Decimal) : Decimal := stripZeros d.digits.log2 d

end Decimal

/-- The decimal is nearest to the double of this rank. -/
def readsBack (rank : Nat) (d : Decimal) : Bool :=
  match ofDecimal false d.digits d.exponent with
  | .finite _ r => r.val == rank
  | _ => false

/-- The fraction `num / den` divided by `10 ^ k`. -/
def shiftDown (num den : Nat) (k : Int) : Nat × Nat :=
  if 0 ≤ k then (num, den * Nat.pow 10 k.toNat) else (num * Nat.pow 10 (-k).toNat, den)

/-- The power of ten of the leading digit of a positive fraction.  The binary logarithm, times the
logarithm of two, is at most one too small. -/
def leadingPower (num den : Nat) : Int :=
  let estimate := ((num.log2 : Int) - (den.log2 : Int) - 1) * 30103 / 100000
  let reaches (k : Int) : Bool :=
    let (n, d) := shiftDown num den k
    d ≤ n
  -- the estimate may be off by one on either side, so the powers around it are tried
  if reaches (estimate + 2) then estimate + 2
  else if reaches (estimate + 1) then estimate + 1
  else if reaches estimate then estimate
  else estimate - 1

/-- The candidate with the given number of significant digits: of the two grid points around the
number those that read back, the nearer of two, and the even one of two equally near. -/
def candidate? (rank : Nat) (power : Int) (count : Nat) : Option Decimal :=
  let k := power - (count : Int) + 1
  let (num, den) := shiftDown (grains rank) grainsPerOne k
  let lower : Decimal := ⟨num / den, k⟩
  let upper : Decimal := ⟨num / den + 1, k⟩
  let rest := 2 * (num % den)
  -- where both grid points read back, the exact number decides
  match readsBack rank lower, readsBack rank upper with
  | true, true =>
    if rest < den ∨ (rest = den ∧ num / den % 2 = 0) then some lower else some upper
  | true, false => some lower
  | false, true => some upper
  | false, false => none

def exactDecimal (rank : Nat) : Decimal := ⟨grains rank * Nat.pow 5 1074, -1074⟩

def shortest (rank : Nat) : Decimal :=
  let power := leadingPower (grains rank) grainsPerOne
  match (List.range 17).findSome? (fun n => candidate? rank power (n + 1)) with
  | some d => d.normalized
  | none => (exactDecimal rank).normalized

/-! ### Written form -/

/-- The exponent as written: a sign and at least two digits. -/
def exponentText (e : Int) : String :=
  let digits := Nat.repr e.natAbs
  (if e < 0 then "-" else "+") ++ (if digits.length < 2 then "0" ++ digits else digits)

/-- The written form of a decimal.  With `point` digits before the decimal point, the positional
form is used for `-3 ≤ point ≤ 16`. -/
def Decimal.text (d : Decimal) : String :=
  let digits := Nat.toDigits 10 d.digits
  let count := digits.length
  let point : Int := (count : Int) + d.exponent
  if -4 < point ∧ point ≤ 16 then
    if point ≤ 0 then
      "0." ++ String.ofList (List.replicate (-point).toNat '0' ++ digits)
    else if (count : Int) ≤ point then
      String.ofList (digits ++ List.replicate (point.toNat - count) '0') ++ ".0"
    else
      String.ofList (digits.take point.toNat) ++ "." ++ String.ofList (digits.drop point.toNat)
  else
    let fraction := digits.drop 1
    String.ofList (digits.take 1)
      ++ (if fraction.isEmpty then "" else "." ++ String.ofList fraction)
      ++ "e" ++ exponentText (point - 1)

/-- How the numbers that are not finite are spelled. -/
structure Spelling where
  nan : String
  infinity : String

/-- The written form of a double. -/
def text (spelling : Spelling) : Double → String
  | .finite negative rank =>
    (if negative then "-" else "") ++
      (if rank.val = 0 then "0.0" else (shortest rank).text)
  | .infinite negative => (if negative then "-" else "") ++ spelling.infinity
  | .nan => spelling.nan

end Double

end Admission
