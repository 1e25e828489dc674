import Admission.Number.Shortest
import Mathlib.Algebra.Order.Group.Nat
import Mathlib.Tactic.Ring

/-!
# Decimals and the doubles nearest to them

The rank nearest to a fraction depends on the number that the fraction stands for and on nothing
else, so a decimal may be written with more or fewer zeros without changing the double it is read
as.  The shortcuts that reading a decimal takes for extreme exponents agree with the rounding that
they replace.

Since a double is the nearest one to itself, the exact expansion of a rank reads back; together
with the test that every shorter candidate has to pass, this makes the decimal that is written for
a double the double again.

Main definition: `Double.decimalRank` — the rank nearest to a decimal, without shortcuts.

Main results:

* `Double.nearestRank_eq_of_cross` — equal numbers have equal ranks;
* `Double.nearestRank_grains` — **a rank is nearest to its own value**;
* `Double.ofDecimal_eq` — the shortcuts change nothing;
* `Double.ofDecimal_shortest` — **the shortest decimal of a rank reads back**.
-/

set_option autoImplicit false

namespace Admission.Double

/-! ### Rounding of equal fractions -/

theorem roundHalfEven_mul {c : Nat} (hc : 0 < c) (num den : Nat) :
    roundHalfEven (c * num) (c * den) = roundHalfEven num den := by
  have hrest : 2 * (c * num % (c * den)) = c * (2 * (num % den)) := by
    rw [Nat.mul_mod_mul_left, Nat.mul_left_comm]
  simp only [roundHalfEven, hrest, Nat.mul_div_mul_left num den hc, Nat.mul_lt_mul_left hc]

theorem roundHalfEven_one (n : Nat) : roundHalfEven n 1 = n := by
  simp [roundHalfEven, Nat.mod_one]

theorem nearestRank_mul {c : Nat} (hc : 0 < c) (num den : Nat) :
    nearestRank (c * num) (c * den) = nearestRank num den := by
  simp only [nearestRank, Nat.mul_div_mul_left num den hc, Nat.mul_assoc, roundHalfEven_mul hc]

/-- Fractions that stand for one number are nearest to one rank. -/
theorem nearestRank_eq_of_cross {num den num' den' : Nat} (hden : 0 < den) (hden' : 0 < den')
    (h : num * den' = num' * den) : nearestRank num den = nearestRank num' den' := by
  calc nearestRank num den
      = nearestRank (den' * num) (den' * den) := (nearestRank_mul hden' num den).symm
    _ = nearestRank (den * num') (den * den') := by
        rw [Nat.mul_comm den' num, h, Nat.mul_comm num' den, Nat.mul_comm den' den]
    _ = nearestRank num' den' := nearestRank_mul hden num' den'

/-! ### Fractions out of range -/

/-- What is less than half a grain rounds to zero. -/
theorem nearestRank_eq_zero {num den : Nat} (h : 2 * num < den) : nearestRank num den = 0 := by
  have hwhole : num / den = 0 := Nat.div_eq_of_lt (by omega)
  have hrest : num % den = num := Nat.mod_eq_of_lt (by omega)
  simp [nearestRank, roundHalfEven, hwhole, hrest, h]

/-- A number far beyond the largest double has no finite rank. -/
theorem ranks_le_nearestRank {num k : Nat} (hk : 2099 ≤ k) (h : 2 ^ k ≤ num) :
    ranks ≤ nearestRank num 1 := by
  have hne : num ≠ 0 := Nat.ne_of_gt (Nat.lt_of_lt_of_le (Nat.two_pow_pos k) h)
  have hlog : k ≤ num.log2 := (Nat.le_log2 hne).2 h
  have hshift : 2047 ≤ (num / 1).log2 - 52 := by
    rw [Nat.div_one]
    omega
  calc ranks = 2047 * Nat.pow 2 52 := rfl
    _ ≤ ((num / 1).log2 - 52) * Nat.pow 2 52 := Nat.mul_le_mul_right _ hshift
    _ ≤ nearestRank num 1 := Nat.le_add_right _ _

/-! ### A rank is nearest to its own value -/

theorem nearestRank_one_of_lt {n : Nat} (h : n < 2 ^ 52) : nearestRank n 1 = n := by
  have hlog : n.log2 - 52 = 0 := by
    rcases Nat.eq_zero_or_pos n with rfl | hpos
    · rfl
    · have := (Nat.log2_lt (by omega)).2 h
      omega
  simp [nearestRank, hlog, roundHalfEven_one]

/-- The place of a whole number of grains that is a significand of 53 bits, doubled a number of
times. -/
theorem nearestRank_doubled {m : Nat} (hm : m < 2 ^ 52) (k : Nat) :
    nearestRank ((2 ^ 52 + m) * 2 ^ k) 1 = (k + 1) * 2 ^ 52 + m := by
  have hlog : ((2 ^ 52 + m) * 2 ^ k).log2 = 52 + k := by
    have hlower : 2 ^ (52 + k) ≤ (2 ^ 52 + m) * 2 ^ k := by
      rw [Nat.pow_add]
      exact Nat.mul_le_mul_right _ (Nat.le_add_right _ _)
    have hupper : (2 ^ 52 + m) * 2 ^ k < 2 ^ (52 + k + 1) := by
      rw [show 52 + k + 1 = 53 + k by omega, Nat.pow_add]
      exact Nat.mul_lt_mul_of_pos_right (by omega) (Nat.two_pow_pos k)
    have hne : (2 ^ 52 + m) * 2 ^ k ≠ 0 := by
      have := Nat.two_pow_pos (52 + k)
      omega
    have := (Nat.le_log2 hne).2 hlower
    have := (Nat.log2_lt hne).2 hupper
    omega
  have hround : roundHalfEven ((2 ^ 52 + m) * 2 ^ k) (1 * 2 ^ k) = 2 ^ 52 + m := by
    rw [Nat.mul_comm _ (2 ^ k), Nat.mul_comm 1 (2 ^ k), roundHalfEven_mul (Nat.two_pow_pos k),
      roundHalfEven_one]
  simp only [nearestRank, Nat.div_one, hlog, Nat.add_sub_cancel_left, Nat.pow_eq, hround]
  omega

/-- A rank is the one nearest to its own value. -/
theorem nearestRank_grains (rank : Nat) : nearestRank (grains rank) 1 = rank := by
  rcases Nat.lt_or_ge rank (2 ^ 52) with hlow | hhigh
  · have hscale : scale rank = 0 := by
      rw [scale, Nat.pow_eq, Nat.div_eq_of_lt hlow]
    have hgrains : grains rank = rank := by
      simp only [grains, hscale, significand, Nat.pow_eq, if_pos hlow, Nat.pow_zero, Nat.mul_one]
    rw [hgrains, nearestRank_one_of_lt hlow]
  · have hgrains : grains rank = (2 ^ 52 + rank % 2 ^ 52) * 2 ^ (rank / 2 ^ 52 - 1) := by
      simp only [grains, scale, significand, Nat.pow_eq, if_neg (Nat.not_lt.2 hhigh)]
    have hquotient : 1 ≤ rank / 2 ^ 52 := (Nat.one_le_div_iff (Nat.two_pow_pos 52)).2 hhigh
    rw [hgrains, nearestRank_doubled (Nat.mod_lt _ (Nat.two_pow_pos 52)),
      Nat.sub_add_cancel hquotient, Nat.mul_comm]
    exact Nat.div_add_mod rank (2 ^ 52)

/-! ### Reading decimals -/

def decimalRank (digits : Nat) (exponent : Int) : Nat :=
  nearestRank (digits * 10 ^ exponent.toNat * grainsPerOne) (10 ^ (-exponent).toNat)

theorem grainsPerOne_eq : grainsPerOne = 2 ^ 1074 := Nat.pow_eq

theorem grainsPerOne_pos : 0 < grainsPerOne := by
  rw [grainsPerOne_eq]
  exact Nat.two_pow_pos 1074

theorem decimalRank_zero (exponent : Int) : decimalRank 0 exponent = 0 := by
  have hpos : 0 < 10 ^ (-exponent).toNat := Nat.pow_pos (by omega)
  rw [decimalRank, nearestRank_eq_zero (by omega)]

/-- Zeros may be moved from the digits into the exponent. -/
theorem decimalRank_mul_pow (digits k : Nat) (exponent : Int) :
    decimalRank (digits * 10 ^ k) (exponent - k) = decimalRank digits exponent := by
  have hpow : ∀ n : Nat, 0 < 10 ^ n := fun n => Nat.pow_pos (by omega)
  have hexponents : k + (exponent - k).toNat + (-exponent).toNat
      = exponent.toNat + (-(exponent - k)).toNat := by omega
  have hpowers : 10 ^ k * 10 ^ (exponent - k).toNat * 10 ^ (-exponent).toNat
      = 10 ^ exponent.toNat * 10 ^ (-(exponent - k)).toNat := by
    rw [← Nat.pow_add, ← Nat.pow_add, ← Nat.pow_add, hexponents]
  refine nearestRank_eq_of_cross (hpow _) (hpow _) ?_
  calc digits * 10 ^ k * 10 ^ (exponent - k).toNat * grainsPerOne * 10 ^ (-exponent).toNat
      = digits * grainsPerOne
          * (10 ^ k * 10 ^ (exponent - k).toNat * 10 ^ (-exponent).toNat) := by ring
    _ = digits * grainsPerOne * (10 ^ exponent.toNat * 10 ^ (-(exponent - k)).toNat) := by
        rw [hpowers]
    _ = digits * 10 ^ exponent.toNat * grainsPerOne * 10 ^ (-(exponent - k)).toNat := by ring

/-- An exponent above 400 is too large for any digits but zero. -/
theorem ranks_le_decimalRank {digits : Nat} {exponent : Int} (hdigits : digits ≠ 0)
    (h : 400 < exponent) : ranks ≤ decimalRank digits exponent := by
  have hden : (-exponent).toNat = 0 := by omega
  rw [decimalRank, hden, Nat.pow_zero]
  refine ranks_le_nearestRank (show 2099 ≤ 3 * exponent.toNat + 1074 by omega) ?_
  calc 2 ^ (3 * exponent.toNat + 1074)
      = 1 * 8 ^ exponent.toNat * grainsPerOne := by
        rw [Nat.pow_add, Nat.pow_mul, Nat.one_mul, grainsPerOne_eq]
    _ ≤ digits * 10 ^ exponent.toNat * grainsPerOne := by
        refine Nat.mul_le_mul_right _ (Nat.mul_le_mul (by omega) ?_)
        exact Nat.pow_le_pow_left (by omega) _

/-- Digits that an exponent pushes below `10 ^ (-400)` round to zero. -/
theorem decimalRank_eq_zero {digits : Nat} {exponent : Int} (hneg : exponent < 0)
    (h : (digits.log2 : Int) < 3 * (-exponent - 400)) : decimalRank digits exponent = 0 := by
  have hexponent : exponent.toNat = 0 := by omega
  rw [decimalRank, hexponent, Nat.pow_zero, Nat.mul_one]
  refine nearestRank_eq_zero ?_
  calc 2 * (digits * grainsPerOne)
      < 2 * (2 ^ (digits.log2 + 1) * grainsPerOne) := by
        refine Nat.mul_lt_mul_of_pos_left ?_ (by omega)
        exact Nat.mul_lt_mul_of_pos_right Nat.lt_log2_self grainsPerOne_pos
    _ = 2 ^ (digits.log2 + 1 + 1 + 1074) := by
        rw [grainsPerOne_eq, ← Nat.mul_assoc, ← Nat.pow_succ', ← Nat.pow_add]
    _ ≤ 2 ^ (3 * (-exponent).toNat) := Nat.pow_le_pow_right (by omega) (by omega)
    _ = 8 ^ (-exponent).toNat := by rw [Nat.pow_mul]
    _ ≤ 10 ^ (-exponent).toNat := Nat.pow_le_pow_left (by omega) _

theorem ofRank_of_ranks_le {rank : Nat} (h : ranks ≤ rank) (negative : Bool) :
    ofRank negative rank = .infinite negative := dif_neg (Nat.not_lt.2 h)

/-- The shortcuts for extreme exponents agree with rounding. -/
theorem ofDecimal_eq (negative : Bool) (digits : Nat) (exponent : Int) :
    ofDecimal negative digits exponent = ofRank negative (decimalRank digits exponent) := by
  unfold ofDecimal
  split
  · next hzero => rw [hzero, decimalRank_zero, zero]
  · next hdigits =>
      split
      · next hlarge => rw [ofRank_of_ranks_le (ranks_le_decimalRank hdigits hlarge)]
      · split
        · next hpos =>
            have hden : (-exponent).toNat = 0 := by omega
            rw [ofRatio, decimalRank, hden, Nat.pow_zero, Nat.pow_eq]
        · next hneg =>
            split
            · next hsmall => rw [decimalRank_eq_zero (by omega) hsmall, zero]
            · have hnum : exponent.toNat = 0 := by omega
              rw [ofRatio, decimalRank, hnum, Nat.pow_zero, Nat.mul_one, Nat.pow_eq]

/-! ### The shortest decimal -/

theorem readsBack_iff {rank : Nat} {d : Decimal} (hrank : rank < ranks) :
    readsBack rank d = true ↔ decimalRank d.digits d.exponent = rank := by
  rw [readsBack, ofDecimal_eq, ofRank]
  split
  · next r heq =>
      split at heq
      · cases heq
        exact beq_iff_eq
      · cases heq
  · next hnone =>
      split at hnone
      · exact absurd rfl (hnone _ _)
      · constructor
        · intro h
          cases h
        · intro h
          omega

namespace Decimal

/-- Stripping zeros keeps the number that a decimal is read as. -/
theorem decimalRank_stripZeros (fuel : Nat) (d : Decimal) :
    decimalRank (stripZeros fuel d).digits (stripZeros fuel d).exponent
      = decimalRank d.digits d.exponent := by
  induction fuel generalizing d with
  | zero => rfl
  | succ fuel ih =>
      rw [stripZeros]
      split
      · next h =>
          have hdigits : d.digits = d.digits / 10 * 10 ^ 1 := by omega
          have hexponent : d.exponent = d.exponent + 1 - (1 : Nat) := by omega
          rw [ih]
          conv_rhs => rw [hdigits, hexponent]
          exact (decimalRank_mul_pow _ 1 _).symm
      · rfl

theorem decimalRank_normalized (d : Decimal) :
    decimalRank d.normalized.digits d.normalized.exponent = decimalRank d.digits d.exponent :=
  decimalRank_stripZeros _ d

end Decimal

/-- A candidate has passed the test. -/
theorem readsBack_of_candidate? {rank : Nat} {power : Int} {count : Nat} {d : Decimal}
    (h : candidate? rank power count = some d) : readsBack rank d = true := by
  simp only [candidate?] at h
  split at h
  · next hlower hupper =>
      split at h
      · cases h
        exact hlower
      · cases h
        exact hupper
  · next hlower _ =>
      cases h
      exact hlower
  · next hupper =>
      cases h
      exact hupper
  · cases h

/-- A whole number of grains with its fraction of one written out in decimal. -/
theorem nearestRank_expanded (g n : Nat) :
    nearestRank (g * 5 ^ n * 2 ^ n) (10 ^ n) = nearestRank g 1 := by
  have hpow : 5 ^ n * 2 ^ n = 10 ^ n := (Nat.mul_pow 5 2 n).symm
  refine nearestRank_eq_of_cross (Nat.pow_pos (by omega)) Nat.one_pos ?_
  rw [Nat.mul_one, Nat.mul_assoc, hpow]

/-- The exact expansion of a rank is nearest to that rank. -/
theorem decimalRank_exactDecimal (rank : Nat) :
    decimalRank (exactDecimal rank).digits (exactDecimal rank).exponent = rank := by
  have hdown : (-1074 : Int).toNat = 0 := by decide
  have hup : (-(-1074) : Int).toNat = 1074 := by decide
  simp only [decimalRank, exactDecimal, hdown, hup, Nat.pow_zero, Nat.mul_one, Nat.pow_eq,
    grainsPerOne_eq]
  rw [nearestRank_expanded, nearestRank_grains]

/-- The shortest decimal of a rank is nearest to that rank. -/
theorem decimalRank_shortest {rank : Nat} (hrank : rank < ranks) :
    decimalRank (shortest rank).digits (shortest rank).exponent = rank := by
  unfold shortest
  dsimp only
  split
  · next d hfound =>
      obtain ⟨n, _, hcandidate⟩ := List.exists_of_findSome?_eq_some hfound
      rw [Decimal.decimalRank_normalized]
      exact (readsBack_iff hrank).1 (readsBack_of_candidate? hcandidate)
  · rw [Decimal.decimalRank_normalized, decimalRank_exactDecimal]

theorem shortest_digits_pos {rank : Nat} (hrank : rank < ranks) (hpos : rank ≠ 0) :
    0 < (shortest rank).digits := by
  refine Nat.pos_of_ne_zero fun hzero => hpos ?_
  have h := decimalRank_shortest hrank
  rw [hzero, decimalRank_zero] at h
  exact h.symm

/-- The shortest decimal of a rank, however many zeros are written after it, is read as the double
of that rank. -/
theorem ofDecimal_shortest (negative : Bool) (rank : Fin ranks) (k : Nat) :
    ofDecimal negative ((shortest rank).digits * 10 ^ k) ((shortest rank).exponent - k)
      = .finite negative rank := by
  rw [ofDecimal_eq, decimalRank_mul_pow, decimalRank_shortest rank.isLt]
  exact dif_pos rank.isLt

end Admission.Double
