import Admission.Number.Integer
import Mathlib.Logic.Function.Defs

/-!
# The written form tells the integer

An integer has one text: its decimal form up to a limit and its hexadecimal form beyond.  Different
integers have different texts.  Digits tell the magnitude in either base, a sign in front tells the
negative integers, and the two bases cannot be taken for each other, because a hexadecimal form has
a letter that no decimal form has.

Main definition: `Integer.signed` — a sign and what is written of a magnitude.

Main results:

* `Integer.toDigits_injective` — digits tell the magnitude;
* `Integer.signed_injective` — with a sign they tell the integer;
* `Integer.text_injective` — **different integers have different texts**.
-/

set_option autoImplicit false

namespace Admission.Integer

/-! ### Digits -/

theorem digitChar_inj {m n : Nat} (hm : m < 16) (hn : n < 16)
    (h : Nat.digitChar m = Nat.digitChar n) : m = n := by
  have hall : ∀ m < 16, ∀ n < 16, Nat.digitChar m = Nat.digitChar n → m = n := by decide
  exact hall m hm n hn h

/-- The digits of a magnitude tell it, as long as there is a character for every digit. -/
theorem toDigits_injective {base : Nat} (hlow : 1 < base) (hhigh : base ≤ 16) :
    Function.Injective (Nat.toDigits base) := by
  intro m
  induction m using Nat.strongRecOn with
  | _ m ih =>
      intro n h
      -- as many digits, so both have a single one or both have more
      have hshort : m < base ↔ n < base := by
        have hlength := fun k => Nat.length_toDigits_le_iff (n := k) hlow Nat.one_pos
        rw [Nat.pow_one] at hlength
        rw [← hlength, ← hlength, h]
      rcases Nat.lt_or_ge m base with hm | hm
      · have hn := hshort.1 hm
        rw [Nat.toDigits_of_lt_base hm, Nat.toDigits_of_lt_base hn] at h
        exact digitChar_inj (by omega) (by omega) (List.cons.inj h).1
      · have hn : base ≤ n := Nat.le_of_not_lt fun hn => Nat.not_lt.2 hm (hshort.2 hn)
        have hpos : 0 < base := by omega
        have hm' := Nat.mod_lt m hpos
        have hn' := Nat.mod_lt n hpos
        rw [Nat.toDigits_of_base_le hlow hm, Nat.toDigits_of_base_le hlow hn] at h
        obtain ⟨hfront, hlast⟩ := List.append_inj' h rfl
        have hquotient := ih (m / base) (Nat.div_lt_self (by omega) hlow) hfront
        have hrest := digitChar_inj (by omega) (by omega) (List.cons.inj hlast).1
        rw [← Nat.div_add_mod m base, hquotient, hrest, Nat.div_add_mod]

/-! ### Signs -/

/-- The sign of an integer and what is written of its magnitude. -/
def signed (written : Nat → String) (i : Int) : String :=
  if i < 0 then "-" ++ written i.natAbs else written i.natAbs

theorem decimal_eq_signed (i : Int) : decimal i = signed Nat.repr i := rfl

theorem hexadecimal_eq_signed (i : Int) :
    hexadecimal i = signed (fun n => "0x" ++ String.ofList (Nat.toDigits 16 n)) i := by
  rw [hexadecimal, signed]
  split
  · rw [← String.append_assoc]
    rfl
  · rfl

section

variable {written : Nat → String}

theorem head?_signed_iff (hplain : ∀ n, (written n).toList.head? ≠ some '-') (i : Int) :
    (signed written i).toList.head? = some '-' ↔ i < 0 := by
  rw [signed]
  split
  · next hneg => simp [hneg, String.toList_append]
  · next hneg => exact iff_of_false (hplain _) hneg

/-- A form that tells the magnitude tells the integer with a sign in front, if it has none of its
own. -/
theorem signed_injective (hwritten : Function.Injective written)
    (hplain : ∀ n, (written n).toList.head? ≠ some '-') :
    Function.Injective (signed written) := by
  intro i j h
  have hsign : i < 0 ↔ j < 0 := by
    rw [← head?_signed_iff hplain i, ← head?_signed_iff hplain j, h]
  by_cases hi : i < 0
  · have hj := hsign.1 hi
    rw [signed, signed, if_pos hi, if_pos hj] at h
    have hmagnitude := hwritten ((String.append_right_inj _).1 h)
    omega
  · have hj : ¬j < 0 := fun hj => hi (hsign.2 hj)
    rw [signed, signed, if_neg hi, if_neg hj] at h
    have hmagnitude := hwritten h
    omega

end

/-! ### Both forms -/

/-- Only digits occur among decimal digits. -/
theorem not_mem_toDigits {c : Char} (h : c.isDigit = false) (n : Nat) : c ∉ Nat.toDigits 10 n := by
  intro hmem
  rw [Nat.isDigit_of_mem_toDigits (by omega) (by omega) hmem] at h
  cases h

theorem decimal_injective : Function.Injective decimal := by
  intro i j h
  rw [decimal_eq_signed, decimal_eq_signed] at h
  refine signed_injective (fun m n hsame => ?_) (fun n hhead => ?_) h
  · rw [Nat.repr_eq_ofList_toDigits, Nat.repr_eq_ofList_toDigits] at hsame
    exact toDigits_injective (by omega) (by omega) (String.ofList_injective hsame)
  · rw [Nat.toList_repr] at hhead
    exact not_mem_toDigits (by decide) n (List.mem_of_mem_head? hhead)

theorem hexadecimal_injective : Function.Injective hexadecimal := by
  intro i j h
  rw [hexadecimal_eq_signed, hexadecimal_eq_signed] at h
  refine signed_injective (fun m n hsame => ?_) (fun n => by simp [String.toList_append]) h
  have hdigits := (String.append_right_inj _).1 hsame
  exact toDigits_injective (by omega) (by omega) (String.ofList_injective hdigits)

theorem letter_mem_hexadecimal (i : Int) : 'x' ∈ (hexadecimal i).toList := by
  rw [hexadecimal]
  split <;> simp [String.toList_append]

theorem letter_not_mem_decimal (i : Int) : 'x' ∉ (decimal i).toList := by
  have hdigits := not_mem_toDigits (c := 'x') (by decide) i.natAbs
  rw [decimal]
  split <;> simp [String.toList_append, hdigits]

theorem decimal_ne_hexadecimal (i j : Int) : decimal i ≠ hexadecimal j := by
  intro h
  exact letter_not_mem_decimal i (h ▸ letter_mem_hexadecimal j)

/-- Different integers have different texts, on either side of the limit of decimal forms and across
it. -/
theorem text_injective : Function.Injective text := by
  intro i j h
  rw [text, text] at h
  split at h <;> split at h
  · exact decimal_injective h
  · exact absurd h (decimal_ne_hexadecimal i j)
  · exact absurd h.symm (decimal_ne_hexadecimal j i)
  · exact hexadecimal_injective h

end Admission.Integer
