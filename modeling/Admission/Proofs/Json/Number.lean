import Admission.Json.Reader
import Admission.Proofs.Number.Rounding
import Mathlib.Data.List.Basic

/-!
# Numbers are read back

A number is written as digits, perhaps with a point and more digits, perhaps with an exponent.  The
reader takes the longest numeral that it finds, so what stands behind a number must not continue
it: a number is *delimited* by the end of the text, or by a character that occurs in no numeral.

The four layouts of a decimal spell the same digits under the same power of ten, but for zeros that
are written out; reading is not sensitive to these.

Main definitions:

* `Json.Delimited` — what stands behind a number does not continue it;
* `Json.Whole` — digits that may stand before the point;
* `Json.Spells` — characters that stand for a decimal.

Main results:

* `Json.spells_text` — the written form of a decimal spells that decimal;
* `Json.readScalar_int` — **a writable integer is read back**;
* `Json.readScalar_finite` — **a finite double is read back**.
-/

set_option autoImplicit false

namespace Admission.Json

/-! ### Digits -/

/-- The characters do not begin with a digit. -/
def NoDigit (rest : List Char) : Prop := ∀ c ∈ rest.head?, c.isDigit = false

/-- The characters do not begin with anything that continues a number. -/
def Delimited (rest : List Char) : Prop :=
  ∀ c ∈ rest.head?, c.isDigit = false ∧ c ≠ '.' ∧ c ≠ 'e' ∧ c ≠ 'E'

theorem Delimited.noDigit {rest : List Char} (h : Delimited rest) : NoDigit rest :=
  fun c hc => (h c hc).1

theorem noDigit_cons {c : Char} {rest : List Char} (h : c.isDigit = false) :
    NoDigit (c :: rest) := by
  intro d hd
  cases Option.some.inj hd
  exact h

theorem takeWhile_digits {digits rest : List Char} (h : ∀ c ∈ digits, c.isDigit = true)
    (hrest : NoDigit rest) : (digits ++ rest).takeWhile Char.isDigit = digits := by
  rw [List.takeWhile_append_of_pos h]
  cases rest with
  | nil => simp
  | cons c rest => simp [hrest c rfl]

theorem dropWhile_digits {digits rest : List Char} (h : ∀ c ∈ digits, c.isDigit = true)
    (hrest : NoDigit rest) : (digits ++ rest).dropWhile Char.isDigit = rest := by
  rw [List.dropWhile_append_of_pos h]
  cases rest with
  | nil => rfl
  | cons c rest => simp [hrest c rfl]

/-- Digits that may stand before the point: a zero alone, or digits that begin with another one. -/
inductive Whole : List Char → Prop where
  | zero : Whole ['0']
  | digits {c : Char} {rest : List Char} (head : c ≠ '0') (all : ∀ d ∈ c :: rest, d.isDigit = true) :
      Whole (c :: rest)

theorem Whole.exists_cons {whole : List Char} (h : Whole whole) :
    ∃ c rest, whole = c :: rest ∧ c.isDigit = true := by
  cases h with
  | zero => exact ⟨'0', [], rfl, by decide⟩
  | @digits c rest _ all => exact ⟨c, rest, rfl, all c List.mem_cons_self⟩

theorem Whole.append {whole more : List Char} (h : Whole whole) (hne : whole ≠ ['0'])
    (hmore : ∀ c ∈ more, c.isDigit = true) : Whole (whole ++ more) := by
  cases h with
  | zero => exact absurd rfl hne
  | digits head all =>
      rw [List.cons_append]
      refine .digits head ?_
      rw [← List.cons_append]
      intro d hd
      rcases List.mem_append.1 hd with hd | hd
      · exact all d hd
      · exact hmore d hd

theorem Whole.take {whole : List Char} (h : Whole whole) {n : Nat} (hn : 0 < n) :
    Whole (whole.take n) := by
  obtain ⟨n, rfl⟩ := Nat.exists_eq_succ_of_ne_zero (Nat.ne_of_gt hn)
  cases h with
  | zero => simpa using .zero
  | digits head all =>
      rw [List.take_succ_cons]
      refine .digits head ?_
      rw [← List.take_succ_cons]
      exact fun d hd => all d (List.mem_of_mem_take hd)

theorem wholeDigits?_append {whole rest : List Char} (h : Whole whole) (hrest : NoDigit rest) :
    wholeDigits? (whole ++ rest) = some (whole, rest) := by
  cases h with
  | zero => rfl
  | digits head all =>
      rw [wholeDigits?]
      · simp only [takeWhile_digits all hrest, dropWhile_digits all hrest]
        rfl
      · intro tail htail
        exact head (List.cons.inj htail).1

theorem isDigit_toDigits (n : Nat) : ∀ c ∈ Nat.toDigits 10 n, c.isDigit = true :=
  fun _ hc => Nat.isDigit_of_mem_toDigits (by omega) (by omega) hc

/-- The decimal digits of a positive number do not begin with a zero. -/
theorem whole_toDigits_of_pos {n : Nat} (h : 0 < n) : Whole (Nat.toDigits 10 n) := by
  induction n using Nat.strongRecOn with
  | _ n ih =>
      rcases Nat.lt_or_ge n 10 with hlow | hhigh
      · rw [Nat.toDigits_of_lt_base hlow]
        refine .digits ?_ ?_
        · intro hzero
          have := Nat.digitChar_eq_zero.1 hzero
          omega
        · intro d hd
          exact isDigit_toDigits n d (by rwa [Nat.toDigits_of_lt_base hlow])
      · have hwhole := ih (n / 10) (by omega) (by omega)
        rw [Nat.toDigits_of_base_le (by omega) hhigh]
        refine hwhole.append ?_ ?_
        · intro hzero
          have hvalue := Nat.ofDigitChars_ten_toDigits (n := n / 10)
          rw [hzero] at hvalue
          have : (0 : Nat) = n / 10 := hvalue
          omega
        · intro c hc
          rw [List.mem_singleton.1 hc]
          rw [Nat.isDigit_digitChar, decide_eq_true (Nat.mod_lt n (by omega))]

theorem whole_toDigits (n : Nat) : Whole (Nat.toDigits 10 n) := by
  rcases Nat.eq_zero_or_pos n with rfl | hpos
  · exact .zero
  · exact whole_toDigits_of_pos hpos

/-! ### The parts of a number -/

theorem fractionDigits_point {digits rest : List Char} (hne : digits ≠ [])
    (h : ∀ c ∈ digits, c.isDigit = true) (hrest : NoDigit rest) :
    fractionDigits ('.' :: (digits ++ rest)) = (digits, rest) := by
  simp only [fractionDigits, takeWhile_digits h hrest, dropWhile_digits h hrest,
    List.isEmpty_eq_false_iff.2 hne]
  rfl

theorem fractionDigits_none {rest : List Char} (h : ∀ c ∈ rest.head?, c ≠ '.') :
    fractionDigits rest = ([], rest) := by
  unfold fractionDigits
  split
  · next tail => exact absurd rfl (h '.' rfl)
  · rfl

/-- An exponent as it is written: the sign always, then digits. -/
theorem exponentPart_mark {digits rest : List Char} (negative : Bool) (hne : digits ≠ [])
    (h : ∀ c ∈ digits, c.isDigit = true) (hrest : NoDigit rest) :
    exponentPart ('e' :: (if negative then '-' else '+') :: (digits ++ rest)) =
      (some (if negative then -(Nat.ofDigitChars 10 digits 0 : Int)
        else Nat.ofDigitChars 10 digits 0), rest) := by
  cases negative <;>
    simp [exponentPart, takeWhile_digits h hrest, dropWhile_digits h hrest, hne]

theorem exponentPart_none {rest : List Char} (h : ∀ c ∈ rest.head?, c ≠ 'e' ∧ c ≠ 'E') :
    exponentPart rest = (none, rest) := by
  cases rest with
  | nil => rfl
  | cons c rest => simp [exponentPart, h c rfl]

/-- A whole number that nothing continues is an integer. -/
theorem readUnsigned_whole {whole rest : List Char} (negative : Bool) (hwhole : Whole whole)
    (hlength : whole.length ≤ Integer.digitLimit) (hrest : Delimited rest) :
    readUnsigned negative (whole ++ rest) =
      .ok (.int (if negative then -(Nat.ofDigitChars 10 whole 0 : Int)
        else Nat.ofDigitChars 10 whole 0), rest) := by
  have hfraction := fractionDigits_none fun c hc => (hrest c hc).2.1
  have hexponent := exponentPart_none fun c hc => (hrest c hc).2.2
  simp only [readUnsigned, wholeDigits?_append hwhole hrest.noDigit, hfraction, hexponent,
    Integer.readDigits, if_neg (Nat.not_lt.2 hlength)]
  rfl

/-- Digits on both sides of a point. -/
theorem readUnsigned_point {whole digits rest : List Char} (negative : Bool)
    (hwhole : Whole whole) (hne : digits ≠ []) (h : ∀ c ∈ digits, c.isDigit = true)
    (hrest : Delimited rest) :
    readUnsigned negative (whole ++ '.' :: (digits ++ rest)) =
      .ok (.float (Double.ofDecimal negative (Nat.ofDigitChars 10 (whole ++ digits) 0)
        (-(digits.length : Int))), rest) := by
  have hpoint : NoDigit ('.' :: (digits ++ rest)) := noDigit_cons (by decide)
  have hfraction := fractionDigits_point hne h hrest.noDigit
  have hexponent := exponentPart_none fun c hc => (hrest c hc).2.2
  simp only [readUnsigned, wholeDigits?_append hwhole hpoint, hfraction, hexponent,
    List.isEmpty_eq_false_iff.2 hne, Bool.false_and, Bool.false_eq_true, if_false,
    Option.getD_none, Int.zero_sub]

/-- The point and the digits behind it, nothing when there are none. -/
def fractionText (digits : List Char) : List Char := if digits = [] then [] else '.' :: digits

/-- Digits, perhaps a point with more digits, and an exponent. -/
theorem readUnsigned_exponent {whole digits power rest : List Char} (negative down : Bool)
    (hwhole : Whole whole) (h : ∀ c ∈ digits, c.isDigit = true) (hne : power ≠ [])
    (hpower : ∀ c ∈ power, c.isDigit = true) (hrest : Delimited rest) :
    readUnsigned negative
        (whole ++ (fractionText digits ++ 'e' :: (if down then '-' else '+') :: (power ++ rest))) =
      .ok (.float (Double.ofDecimal negative (Nat.ofDigitChars 10 (whole ++ digits) 0)
        ((if down then -(Nat.ofDigitChars 10 power 0 : Int) else Nat.ofDigitChars 10 power 0)
          - digits.length)), rest) := by
  have hexponent := exponentPart_mark down hne hpower hrest.noDigit
  have hmark : NoDigit ('e' :: (if down then '-' else '+') :: (power ++ rest)) :=
    noDigit_cons (by decide)
  by_cases hdigits : digits = []
  · subst hdigits
    have hfraction : fractionDigits ('e' :: (if down then '-' else '+') :: (power ++ rest)) =
        ([], 'e' :: (if down then '-' else '+') :: (power ++ rest)) :=
      fractionDigits_none (by simp)
    simp only [fractionText, if_true, List.nil_append, readUnsigned,
      wholeDigits?_append hwhole hmark, hfraction, hexponent, Option.isNone_some, Bool.and_false,
      Bool.false_eq_true, if_false, Option.getD_some]
  · have hpoint : NoDigit
        ('.' :: (digits ++ 'e' :: (if down then '-' else '+') :: (power ++ rest))) :=
      noDigit_cons (by decide)
    have hfraction := fractionDigits_point hdigits h hmark
    simp only [fractionText, if_neg hdigits, List.cons_append, readUnsigned,
      wholeDigits?_append hwhole hpoint, hfraction, hexponent,
      Option.isNone_some, Bool.and_false, Bool.false_eq_true, if_false, Option.getD_some]

/-! ### Decimals as they are written -/

/-- The characters spell the decimal, perhaps with more zeros written out than it has. -/
inductive Spells (d : Double.Decimal) : List Char → Prop where
  | point {whole digits : List Char} (zeros : Nat) (hwhole : Whole whole) (hne : digits ≠ [])
      (h : ∀ c ∈ digits, c.isDigit = true)
      (hvalue : Nat.ofDigitChars 10 (whole ++ digits) 0 = d.digits * 10 ^ zeros)
      (hscale : -(digits.length : Int) = d.exponent - zeros) :
      Spells d (whole ++ '.' :: digits)
  | mark {whole digits power : List Char} (down : Bool) (hwhole : Whole whole)
      (h : ∀ c ∈ digits, c.isDigit = true) (hne : power ≠ [])
      (hpower : ∀ c ∈ power, c.isDigit = true)
      (hvalue : Nat.ofDigitChars 10 (whole ++ digits) 0 = d.digits)
      (hscale : (if down then -(Nat.ofDigitChars 10 power 0 : Int)
        else Nat.ofDigitChars 10 power 0) - digits.length = d.exponent) :
      Spells d (whole ++ (fractionText digits ++ 'e' :: (if down then '-' else '+') :: power))

theorem Spells.exists_cons {d : Double.Decimal} {cs : List Char} (h : Spells d cs) :
    ∃ c rest, cs = c :: rest ∧ c.isDigit = true := by
  cases h with
  | point _ hwhole =>
      obtain ⟨c, rest, rfl, hc⟩ := hwhole.exists_cons
      exact ⟨c, _, rfl, hc⟩
  | mark _ hwhole =>
      obtain ⟨c, rest, rfl, hc⟩ := hwhole.exists_cons
      exact ⟨c, _, rfl, hc⟩

/-- Characters that spell a decimal are read as the double nearest to it. -/
theorem Spells.readUnsigned_eq {d : Double.Decimal} {cs rest : List Char} (h : Spells d cs)
    (negative : Bool) (hrest : Delimited rest) :
    ∃ zeros : Nat, readUnsigned negative (cs ++ rest) =
      .ok (.float (Double.ofDecimal negative (d.digits * 10 ^ zeros) (d.exponent - zeros)),
        rest) := by
  cases h with
  | point zeros hwhole hne hdigits hvalue hscale =>
      refine ⟨zeros, ?_⟩
      rw [List.append_assoc, List.cons_append,
        readUnsigned_point negative hwhole hne hdigits hrest, hvalue, hscale]
  | mark down hwhole hdigits hne hpower hvalue hscale =>
      refine ⟨0, ?_⟩
      rw [List.append_assoc, List.append_assoc, List.cons_append, List.cons_append,
        readUnsigned_exponent negative down hwhole hdigits hne hpower hrest, hvalue, hscale,
        Nat.pow_zero, Nat.mul_one, Int.natCast_zero, Int.sub_zero]

/-- Zeros in front of digits say nothing. -/
theorem ofDigitChars_zeros (n : Nat) (digits : List Char) :
    Nat.ofDigitChars 10 (List.replicate n '0' ++ digits) 0 = Nat.ofDigitChars 10 digits 0 := by
  rw [Nat.ofDigitChars_append, Nat.ofDigitChars_replicate_zero, Nat.mul_zero]

theorem isDigit_replicate_zero (n : Nat) : ∀ c ∈ List.replicate n '0', c.isDigit = true := by
  intro c hc
  rw [List.eq_of_mem_replicate hc]
  decide

/-- An exponent is written as a sign and digits of its magnitude. -/
theorem exponentText_eq (e : Int) :
    ∃ power : List Char, power ≠ [] ∧ (∀ c ∈ power, c.isDigit = true) ∧
      Nat.ofDigitChars 10 power 0 = e.natAbs ∧
      (Double.exponentText e).toList = (if decide (e < 0) then '-' else '+') :: power := by
  have hsign : (if e < 0 then "-" else "+").toList =
      [if decide (e < 0) then '-' else '+'] := by
    by_cases h : e < 0 <;> simp [h]
  have hdigits := isDigit_toDigits e.natAbs
  by_cases hshort : (Nat.repr e.natAbs).length < 2
  · refine ⟨'0' :: Nat.toDigits 10 e.natAbs, by simp, ?_, ?_, ?_⟩
    · intro c hc
      rcases List.mem_cons.1 hc with rfl | hc
      · decide
      · exact hdigits c hc
    · exact (ofDigitChars_zeros 1 _).trans Nat.ofDigitChars_ten_toDigits
    · simp [Double.exponentText, hshort, hsign]
  · refine ⟨Nat.toDigits 10 e.natAbs, Nat.toDigits_ne_nil, hdigits,
      Nat.ofDigitChars_ten_toDigits, ?_⟩
    simp [Double.exponentText, hshort, hsign]

section Layouts

variable {d : Double.Decimal} {digits : List Char}

/-- All digits stand behind the point. -/
theorem spells_behind (hdigits : ∀ c ∈ digits, c.isDigit = true) (hne : digits ≠ [])
    (hvalue : Nat.ofDigitChars 10 digits 0 = d.digits) {n : Nat}
    (hscale : (digits.length : Int) + d.exponent = -(n : Int)) :
    Spells d (['0'] ++ '.' :: (List.replicate n '0' ++ digits)) := by
  refine .point 0 .zero (by simp [hne]) ?_ ?_ ?_
  · intro c hc
    rcases List.mem_append.1 hc with hc | hc
    · exact isDigit_replicate_zero n c hc
    · exact hdigits c hc
  · rw [Nat.pow_zero, Nat.mul_one, ← hvalue, ← ofDigitChars_zeros n digits]
    exact ofDigitChars_zeros 1 _
  · rw [List.length_append, List.length_replicate]
    omega

/-- All digits stand before the point, and one zero behind it. -/
theorem spells_before (hwhole : Whole digits) (hzero : digits ≠ ['0'])
    (hvalue : Nat.ofDigitChars 10 digits 0 = d.digits) {n : Nat} (hscale : d.exponent = n) :
    Spells d ((digits ++ List.replicate n '0') ++ '.' :: ['0']) := by
  have hend : ∀ c ∈ ['0'], c.isDigit = true := isDigit_replicate_zero 1
  refine .point (n + 1) (hwhole.append hzero (isDigit_replicate_zero n)) (by simp) hend ?_ ?_
  · have hzeros : digits ++ List.replicate n '0' ++ ['0'] =
        digits ++ List.replicate (n + 1) '0' := by
      rw [List.append_assoc, List.replicate_succ']
    rw [hzeros, Nat.ofDigitChars_append, Nat.ofDigitChars_replicate_zero, hvalue, Nat.mul_comm]
  · simp only [List.length_singleton]
    omega

/-- The point stands among the digits. -/
theorem spells_among (hwhole : Whole digits) (hdigits : ∀ c ∈ digits, c.isDigit = true)
    (hvalue : Nat.ofDigitChars 10 digits 0 = d.digits) {n : Nat} (hpos : 0 < n)
    (hlt : n < digits.length) (hscale : (digits.length : Int) + d.exponent = n) :
    Spells d (digits.take n ++ '.' :: digits.drop n) := by
  refine .point 0 (hwhole.take hpos) ?_ ?_ ?_ ?_
  · intro hnil
    have := List.drop_eq_nil_iff.1 hnil
    omega
  · exact fun c hc => hdigits c (List.mem_of_mem_drop hc)
  · rw [List.take_append_drop, hvalue, Nat.pow_zero, Nat.mul_one]
  · rw [List.length_drop]
    omega

/-- One digit stands before the point, and an exponent follows. -/
theorem spells_marked (hwhole : Whole digits) (hdigits : ∀ c ∈ digits, c.isDigit = true)
    (hvalue : Nat.ofDigitChars 10 digits 0 = d.digits) {e : Int}
    (hscale : (digits.length : Int) + d.exponent = e + 1) :
    Spells d (digits.take 1 ++ (fractionText (digits.drop 1)
      ++ 'e' :: (Double.exponentText e).toList)) := by
  obtain ⟨power, hne, hpower, hmagnitude, htext⟩ := exponentText_eq e
  obtain ⟨c, rest, hcons, _⟩ := hwhole.exists_cons
  rw [htext]
  refine .mark (decide (e < 0)) (hwhole.take Nat.one_pos) ?_ hne hpower ?_ ?_
  · exact fun c hc => hdigits c (List.mem_of_mem_drop hc)
  · rw [List.take_append_drop, hvalue]
  · rw [hmagnitude, List.length_drop]
    have hlength : 1 ≤ digits.length := by simp [hcons]
    by_cases hsign : e < 0
    · simp only [decide_eq_true hsign, if_true]
      omega
    · simp only [decide_eq_false hsign, Bool.false_eq_true, if_false]
      omega

end Layouts

/-- A decimal other than zero is spelled by its written form. -/
theorem spells_text {d : Double.Decimal} (h : 0 < d.digits) : Spells d d.text.toList := by
  have hwhole := whole_toDigits_of_pos h
  have hdigits := isDigit_toDigits d.digits
  have hvalue : Nat.ofDigitChars 10 (Nat.toDigits 10 d.digits) 0 = d.digits :=
    Nat.ofDigitChars_ten_toDigits
  have hne : Nat.toDigits 10 d.digits ≠ [] := Nat.toDigits_ne_nil
  have hzero : Nat.toDigits 10 d.digits ≠ ['0'] := by
    intro hzero
    rw [hzero] at hvalue
    exact Nat.ne_of_lt h hvalue
  unfold Double.Decimal.text
  generalize Nat.toDigits 10 d.digits = digits at hwhole hdigits hvalue hne hzero
  dsimp only
  split
  -- a point in front of the digits, behind them or among them
  · split
    · next hpoint =>
        have hscale : (digits.length : Int) + d.exponent
            = -((-((digits.length : Int) + d.exponent)).toNat : Int) := by omega
        simpa using spells_behind hdigits hne hvalue hscale
    · split
      · next hcount =>
          have hscale : d.exponent
              = (((digits.length : Int) + d.exponent).toNat - digits.length : Nat) := by omega
          simpa using spells_before hwhole hzero hvalue hscale
      · next hpoint hcount =>
          have hscale : (digits.length : Int) + d.exponent
              = (((digits.length : Int) + d.exponent).toNat : Int) := by omega
          simpa using spells_among hwhole hdigits hvalue (by omega) (by omega) hscale
  · have hscale : (digits.length : Int) + d.exponent
        = (digits.length : Int) + d.exponent - 1 + 1 := by omega
    have hspells := spells_marked hwhole hdigits hvalue hscale
    by_cases hfraction : digits.tail = []
    · simpa [fractionText, hfraction] using hspells
    · simpa [fractionText, hfraction] using hspells

/-! ### Numbers with a sign -/

/-- The sign in front of a number. -/
def signText (negative : Bool) : List Char := if negative then ['-'] else []

/-- A numeral of the given sign: digits come first after the sign. -/
theorem readScalar_signed (negative : Bool) {c : Char} (hc : c.isDigit = true) (cs : List Char) :
    readScalar (signText negative ++ c :: cs) = readUnsigned negative (c :: cs) := by
  have hne : ∀ x : Char, x.isDigit = false → ¬ x = c := by
    rintro x hx rfl
    rw [hx] at hc
    cases hc
  have hn := hne 'n' (by decide)
  have ht := hne 't' (by decide)
  have hf := hne 'f' (by decide)
  have hN := hne 'N' (by decide)
  have hI := hne 'I' (by decide)
  have hminus := hne '-' (by decide)
  cases negative with
  | true => simp [readScalar, signText, words, word?, readNumber, hI]
  | false =>
      have hread : readNumber (c :: cs) = readUnsigned false (c :: cs) := by
        simp [readNumber, Ne.symm hminus]
      simp [readScalar, signText, words, word?, hn, ht, hf, hN, hI, hminus, hread]

theorem toList_decimal (i : Int) :
    (Integer.decimal i).toList = signText (decide (i < 0)) ++ Nat.toDigits 10 i.natAbs := by
  by_cases hneg : i < 0 <;> simp [Integer.decimal, signText, hneg]

/-- A writable integer is read back. -/
theorem readScalar_int {i : Int} (hi : Integer.isWritable i = true) {rest : List Char}
    (hrest : Delimited rest) :
    readScalar ((Integer.decimal i).toList ++ rest) = .ok (.int i, rest) := by
  have hwhole := whole_toDigits i.natAbs
  have hlength : (Nat.toDigits 10 i.natAbs).length ≤ Integer.digitLimit :=
    (Nat.length_toDigits_le_iff (by omega) (by decide)).2 (of_decide_eq_true hi)
  have hvalue : (if decide (i < 0) = true then -(i.natAbs : Int) else i.natAbs) = i := by
    by_cases hneg : i < 0
    · rw [if_pos (decide_eq_true hneg)]
      omega
    · rw [if_neg (by simpa using hneg)]
      omega
  have hread := readUnsigned_whole (decide (i < 0)) hwhole hlength hrest
  rw [Nat.ofDigitChars_ten_toDigits, hvalue] at hread
  obtain ⟨c, cs, hcons, hc⟩ := hwhole.exists_cons
  rw [toList_decimal, List.append_assoc, hcons, List.cons_append, readScalar_signed _ hc,
    ← List.cons_append, ← hcons, hread]

/-- A magnitude is written as a decimal that is read as that magnitude. -/
theorem exists_spells (rank : Fin Double.ranks) :
    ∃ d : Double.Decimal,
      Spells d (if rank.val = 0 then "0.0" else (Double.shortest rank).text).toList ∧
      ∀ (negative : Bool) (zeros : Nat),
        Double.ofDecimal negative (d.digits * 10 ^ zeros) (d.exponent - zeros)
          = .finite negative rank := by
  by_cases hzero : rank.val = 0
  · refine ⟨⟨0, -1⟩, ?_, ?_⟩
    · rw [if_pos hzero]
      exact .point 0 .zero (List.cons_ne_nil '0' []) (isDigit_replicate_zero 1) rfl rfl
    · intro negative zeros
      rw [Double.ofDecimal_eq, Nat.zero_mul, Double.decimalRank_zero, ← hzero]
      exact dif_pos rank.isLt
  · refine ⟨Double.shortest rank, ?_, fun negative => Double.ofDecimal_shortest negative rank⟩
    rw [if_neg hzero]
    exact spells_text (Double.shortest_digits_pos rank.isLt hzero)

theorem toList_finite (spelling : Double.Spelling) (negative : Bool) (rank : Fin Double.ranks) :
    (Double.text spelling (.finite negative rank)).toList = signText negative ++
      (if rank.val = 0 then "0.0" else (Double.shortest rank).text).toList := by
  cases negative <;> simp [Double.text, signText]

/-- A finite double is read back. -/
theorem readScalar_finite (spelling : Double.Spelling) (negative : Bool)
    (rank : Fin Double.ranks) {rest : List Char} (hrest : Delimited rest) :
    readScalar ((Double.text spelling (.finite negative rank)).toList ++ rest) =
      .ok (.float (.finite negative rank), rest) := by
  obtain ⟨d, hspells, hvalue⟩ := exists_spells rank
  obtain ⟨zeros, hread⟩ := hspells.readUnsigned_eq negative hrest
  obtain ⟨c, cs, hcons, hc⟩ := hspells.exists_cons
  rw [toList_finite, List.append_assoc, hcons, List.cons_append, readScalar_signed _ hc,
    ← List.cons_append, ← hcons, hread, hvalue]

end Admission.Json
