/-!
# Binary64 numbers, exactly

A finite double is a sign and a *rank*: the place of its magnitude in the increasing list of all
finite magnitudes, zero being rank 0.  Neighbouring doubles have neighbouring ranks, so order is
the order of ranks, and every pair of a sign and a rank below `Double.ranks` is a different double.
There is one not-a-number.

The value of a rank is a whole number of *grains* of size `2 ^ (-1074)`, the smallest positive
double.  All arithmetic below is on natural numbers and integers; no machine float is involved.

Main definitions:

* `Double` — the numbers;
* `Double.grains` — the value of a rank, in grains;
* `Double.ofRatio` — the nearest double to a fraction, a tie going to the even significand;
* `Double.ofInt?` — the nearest double to an integer, `none` when it would be infinite;
* `Double.truncate`, `Double.isIntegral` — the part of a double before the point.
-/

set_option autoImplicit false

namespace Admission

/-- The number of finite magnitudes: 2047 binades of `2 ^ 52` each. -/
abbrev Double.ranks : Nat := 2047 * Nat.pow 2 52

/-- A binary64 number. -/
inductive Double where
  /-- The finite number of the given sign whose magnitude has the given rank. -/
  | finite (negative : Bool) (rank : Fin Double.ranks)
  /-- One of the two infinities. -/
  | infinite (negative : Bool)
  /-- Not a number. -/
  | nan
  deriving DecidableEq, Repr, Inhabited

namespace Double

/-! ### The value of a rank -/

/-- The significand of a rank: its last 52 bits, and the leading bit that all but the lowest
binade have. -/
def significand (rank : Nat) : Nat :=
  if rank < Nat.pow 2 52 then rank else Nat.pow 2 52 + rank % Nat.pow 2 52

/-- How many times the significand of a rank is doubled.  The two lowest binades share a scale. -/
def scale (rank : Nat) : Nat := rank / Nat.pow 2 52 - 1

/-- The magnitude of a rank, counted in grains. -/
def grains (rank : Nat) : Nat := significand rank * Nat.pow 2 (scale rank)

def grainsPerOne : Nat := Nat.pow 2 1074

/-! ### Rounding -/

/-- The quotient rounded to the nearest whole number, a tie going to the even one. -/
def roundHalfEven (num den : Nat) : Nat :=
  let whole := num / den
  let rest := 2 * (num % den)
  if rest < den then whole
  else if den < rest then whole + 1
  else whole + whole % 2

/-- The rank nearest to `num / den` grains.  The scale is chosen so that the significand has 53
bits, or is zero below that; the significand is then rounded once.  A significand that rounds up
to `2 ^ 53` carries into the next binade by itself.  The result may lie beyond the last finite
rank. -/
def nearestRank (num den : Nat) : Nat :=
  let shift := (num / den).log2 - 52
  shift * Nat.pow 2 52 + roundHalfEven num (den * Nat.pow 2 shift)

/-- The double of a sign and a rank, infinite beyond the last finite rank. -/
def ofRank (negative : Bool) (rank : Nat) : Double :=
  if h : rank < ranks then .finite negative ⟨rank, h⟩ else .infinite negative

def ofRatio (negative : Bool) (num den : Nat) : Double :=
  ofRank negative (nearestRank (num * grainsPerOne) den)

def zero (negative : Bool) : Double := ofRank negative 0

/-- The double nearest to an integer; none when the integer is too large for a finite one. -/
def ofInt? (i : Int) : Option Double :=
  match ofRatio (decide (i < 0)) i.natAbs 1 with
  | .infinite _ => none
  | d => some d

/-- The double nearest to `digits * 10 ^ exponent`.  An exponent out of all proportion to the
digits is settled without computing the power: above 400 every nonzero number is infinite, and
below `10 ^ (-400)` every number rounds to zero. -/
def ofDecimal (negative : Bool) (digits : Nat) (exponent : Int) : Double :=
  if digits = 0 then zero negative
  else if 400 < exponent then .infinite negative
  else if 0 ≤ exponent then ofRatio negative (digits * Nat.pow 10 exponent.toNat) 1
  else if (digits.log2 : Int) < 3 * (-exponent - 400) then zero negative
  else ofRatio negative digits (Nat.pow 10 (-exponent).toNat)

/-! ### Tests and conversions -/

/-- Neither an infinity nor not-a-number. -/
def isFinite : Double → Bool
  | .finite _ _ => true
  | _ => false

/-- A finite number with nothing after the point. -/
def isIntegral : Double → Bool
  | .finite _ rank => grains rank % grainsPerOne == 0
  | _ => false

/-- The integer before the point of a finite number, zero for the others. -/
def truncate : Double → Int
  | .finite negative rank =>
    let whole := grains rank / grainsPerOne
    if negative then -(whole : Int) else whole
  | _ => 0

/-- The place of a number on the line: finite numbers by signed rank, so that both zeros share a
place, and the infinities outside.  Not-a-number has no place. -/
def place? : Double → Option Int
  | .finite negative rank => some (if negative then -(rank.val : Int) else rank.val)
  | .infinite negative => some (if negative then -(ranks : Int) else ranks)
  | .nan => none

/-- Strictly below; not-a-number is below nothing and nothing is below it. -/
def below (a b : Double) : Bool :=
  match a.place?, b.place? with
  | some x, some y => decide (x < y)
  | _, _ => false

/-- At most; false whenever not-a-number is involved. -/
def atMost (a b : Double) : Bool :=
  match a.place?, b.place? with
  | some x, some y => decide (x ≤ y)
  | _, _ => false

/-- Equal as numbers: the two zeros are equal and not-a-number is equal to nothing. -/
def sameNumber (a b : Double) : Bool :=
  match a.place?, b.place? with
  | some x, some y => x == y
  | _, _ => false

def isInt (a : Double) (i : Int) : Bool := a.isIntegral && a.truncate == i

/-- Different from zero; not-a-number counts as different. -/
def isNonzero : Double → Bool
  | .finite _ rank => rank.val != 0
  | _ => true

end Double

end Admission
