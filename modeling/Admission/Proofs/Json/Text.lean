import Admission.Json.Printer
import Admission.Json.Reader
import Mathlib.Tactic.IntervalCases
import Mathlib.Tactic.SplitIfs

/-!
# Text literals are read back

Each character of a text is written as itself or as an escape, and each of these is read as that
one character, whatever follows.  The escape of a code unit needs care: when another one follows,
the reader asks first whether the two make up a pair, and only the halves of a pair do.

Main results:

* `Json.readText_unit`, `Json.readText_pair` — one unit, or the two of a pair, are one character;
* `Json.readText_escapeChar` — **an escaped character is read back**;
* `Json.readText_literal` — **a text literal is read back**, escaped to ASCII or not.
-/

set_option autoImplicit false

namespace Admission.Json

variable {α β γ : Type}

theorem become_ok (f : α → β) (a : α) (rest : List Char) :
    Reading.become f (.ok (a, rest)) = .ok (f a, rest) := rfl

theorem become_refused (f : α → β) : Reading.become f refused = refused := rfl

/-! ### Hexadecimal digits -/

theorem hexValue?_digitChar {n : Nat} (h : n < 16) : hexValue? (Nat.digitChar n) = some n := by
  interval_cases n <;> decide

/-- Padded digits have the last digit of the number at the end. -/
theorem hexDigits_succ {width : Nat} (hwidth : 0 < width) (n : Nat) :
    Text.hexDigits (width + 1) n = Text.hexDigits width (n / 16) ++ [Nat.digitChar (n % 16)] := by
  rcases Nat.lt_or_ge n 16 with hlow | hhigh
  · obtain ⟨w, rfl⟩ := Nat.exists_eq_succ_of_ne_zero (Nat.ne_of_gt hwidth)
    simp [Text.hexDigits, Nat.toDigits_of_lt_base hlow, Nat.div_eq_of_lt hlow,
      Nat.mod_eq_of_lt hlow, List.replicate_succ']
  · simp [Text.hexDigits, Nat.toDigits_of_base_le (show 1 < 16 by omega) hhigh]

/-- A code unit is written with exactly four digits. -/
theorem hexDigits_four {n : Nat} (h : n < 0x10000) :
    Text.hexDigits 4 n = [Nat.digitChar (n / 16 / 16 / 16), Nat.digitChar (n / 16 / 16 % 16),
      Nat.digitChar (n / 16 % 16), Nat.digitChar (n % 16)] := by
  have hfirst : Text.hexDigits 1 (n / 16 / 16 / 16) = [Nat.digitChar (n / 16 / 16 / 16)] := by
    simp [Text.hexDigits, Nat.toDigits_of_lt_base (show n / 16 / 16 / 16 < 16 by omega)]
  rw [hexDigits_succ (by omega), hexDigits_succ (by omega), hexDigits_succ (by omega), hfirst]
  rfl

/-- The four digits of a code unit spell that unit. -/
theorem exists_hexQuad {n : Nat} (h : n < 0x10000) :
    ∃ a b c d, Text.hexDigits 4 n = [a, b, c, d] ∧ hexQuad? a b c d = some n := by
  refine ⟨_, _, _, _, hexDigits_four h, ?_⟩
  have hvalue :
      ((n / 16 / 16 / 16 * 16 + n / 16 / 16 % 16) * 16 + n / 16 % 16) * 16 + n % 16 = n := by
    omega
  simp only [hexQuad?, hexValue?_digitChar (show n / 16 / 16 / 16 < 16 by omega),
    hexValue?_digitChar (Nat.mod_lt _ (show 0 < 16 by omega)), Option.bind_eq_bind,
    Option.bind_some, Option.pure_def, hvalue]

/-! ### Escapes -/

theorem readText_plain {c : Char} (hquote : c ≠ '"') (hslash : c ≠ '\\') (hc : 0x20 ≤ c.toNat)
    (rest : List Char) : readText (c :: rest) = (readText rest).become (c :: ·) := by
  rw [readText]
  · simp only [beq_eq_false_iff_ne.2 hslash, Nat.not_lt.2 hc, decide_false, Bool.or_self,
      Bool.false_eq_true, if_false]
  · exact hquote
  · intro _ _ _ _ _ _ _ _ _ heq
    exact absurd heq hslash
  · intro _ _ _ _ _ heq
    exact absurd heq hslash
  · intro _ _ heq
    exact absurd heq hslash

theorem readText_letter {c one : Char} (hc : c ≠ 'u') (h : escaped? c = some one)
    (rest : List Char) :
    readText ('\\' :: c :: rest) = (readText rest).become (one :: ·) := by
  rw [readText]
  · rw [h]
  · intro _ _ _ _ _ _ _ _ _ heq
    exact absurd heq hc
  · intro _ _ _ _ _ heq
    exact absurd heq hc

/-- Digits that spell no unit are refused, whatever follows. -/
theorem readText_malformed {a b c d : Char} (h : hexQuad? a b c d = none) (rest : List Char) :
    readText ('\\' :: 'u' :: a :: b :: c :: d :: rest) = refused := by
  by_cases hnext : ∃ e f g h tail, rest = '\\' :: 'u' :: e :: f :: g :: h :: tail
  · obtain ⟨e, f, g, h', tail, rfl⟩ := hnext
    rw [readText]
    simp only [h]
  · rw [readText]
    · simp only [h]
    · intro e f g h tail heq
      exact hnext ⟨e, f, g, h, tail, heq⟩

/-- The halves of a pair are the units that a first half may be. -/
theorem pairChar?_eq_none {high low : Nat} (h : high < 0xD800 ∨ 0xE000 ≤ high) :
    pairChar? high low = none := by
  rw [pairChar?, if_neg]
  omega

/-- The escape of a unit that is no half of a pair is one character, also in front of another
escape. -/
theorem readText_unit {a b c d : Char} {n : Nat} (h : hexQuad? a b c d = some n)
    (hn : n < 0xD800 ∨ 0xE000 ≤ n) (rest : List Char) :
    readText ('\\' :: 'u' :: a :: b :: c :: d :: rest) =
      (readText rest).become (charOfUnit n :: ·) := by
  by_cases hnext : ∃ e f g h tail, rest = '\\' :: 'u' :: e :: f :: g :: h :: tail
  · obtain ⟨e, f, g, h', tail, rfl⟩ := hnext
    rw [readText]
    cases hlow : hexQuad? e f g h' with
    | none => simp only [h, readText_malformed hlow, become_refused]
    | some low => simp only [h, pairChar?_eq_none hn]
  · rw [readText]
    · simp only [h]
    · intro e f g h tail heq
      exact hnext ⟨e, f, g, h, tail, heq⟩

/-- The escapes of the two halves of a pair are one character. -/
theorem readText_pair {a b c d e f g h one : Char} {high low : Nat}
    (hhigh : hexQuad? a b c d = some high) (hlow : hexQuad? e f g h = some low)
    (hpair : pairChar? high low = some one) (rest : List Char) :
    readText ('\\' :: 'u' :: a :: b :: c :: d :: '\\' :: 'u' :: e :: f :: g :: h :: rest) =
      (readText rest).become (one :: ·) := by
  rw [readText]
  simp only [hhigh, hlow, hpair]

/-! ### Characters and literals -/

/-- A character is no half of a pair. -/
theorem isScalar (c : Char) : c.toNat < 0xD800 ∨ 0xE000 ≤ c.toNat ∧ c.toNat < 0x110000 := by
  have hvalid : c.toNat.isValidChar := c.valid
  unfold Nat.isValidChar at hvalid
  omega

theorem readText_unitEscape {c : Char} (hc : c.toNat < 0x10000) (rest : List Char) :
    readText (unitEscape c.toNat ++ rest) = (readText rest).become (c :: ·) := by
  obtain ⟨w, x, y, z, hdigits, hquad⟩ := exists_hexQuad hc
  have hscalar : c.toNat < 0xD800 ∨ 0xE000 ≤ c.toNat := by
    have := isScalar c
    omega
  have hchar : charOfUnit c.toNat = c := by
    rw [charOfUnit, if_neg (by omega), Char.ofNat_toNat]
  rw [unitEscape, hdigits]
  exact (readText_unit hquad hscalar rest).trans (by rw [hchar])

theorem readText_pairEscape {c : Char} (hc : 0x10000 ≤ c.toNat) (rest : List Char) :
    readText (unitEscape (0xD800 + (c.toNat - 0x10000) / 0x400)
        ++ unitEscape (0xDC00 + (c.toNat - 0x10000) % 0x400) ++ rest) =
      (readText rest).become (c :: ·) := by
  have hscalar := isScalar c
  obtain ⟨w, x, y, z, hdigits, hhigh⟩ :=
    exists_hexQuad (show 0xD800 + (c.toNat - 0x10000) / 0x400 < 0x10000 by omega)
  obtain ⟨w', x', y', z', hdigits', hlow⟩ :=
    exists_hexQuad (show 0xDC00 + (c.toNat - 0x10000) % 0x400 < 0x10000 by omega)
  have hpair : pairChar? (0xD800 + (c.toNat - 0x10000) / 0x400)
      (0xDC00 + (c.toNat - 0x10000) % 0x400) = some c := by
    have hnumber : 0x10000 + (0xD800 + (c.toNat - 0x10000) / 0x400 - 0xD800) * 0x400
        + (0xDC00 + (c.toNat - 0x10000) % 0x400 - 0xDC00) = c.toNat := by omega
    rw [pairChar?, if_pos (by omega), hnumber, Char.ofNat_toNat]
  rw [unitEscape, unitEscape, hdigits, hdigits']
  exact readText_pair hhigh hlow hpair rest

theorem readText_named {c named letter : Char} (h : (c == named) = true) (hletter : letter ≠ 'u')
    (hnamed : escaped? letter = some named) (rest : List Char) :
    readText (['\\', letter] ++ rest) = (readText rest).become (c :: ·) := by
  rw [beq_iff_eq.1 h]
  exact readText_letter hletter hnamed rest

/-- An escaped character is read back. -/
theorem readText_escapeChar (ascii : Bool) (c : Char) (rest : List Char) :
    readText (escapeChar ascii c ++ rest) = (readText rest).become (c :: ·) := by
  rw [escapeChar]
  by_cases hquote : (c == '"') = true
  · rw [if_pos hquote]
    exact readText_named hquote (by decide) rfl rest
  rw [if_neg hquote]
  by_cases hslash : (c == '\\') = true
  · rw [if_pos hslash]
    exact readText_named hslash (by decide) rfl rest
  rw [if_neg hslash]
  by_cases hnewline : (c == '\n') = true
  · rw [if_pos hnewline]
    exact readText_named hnewline (by decide) rfl rest
  rw [if_neg hnewline]
  by_cases hreturn : (c == '\r') = true
  · rw [if_pos hreturn]
    exact readText_named hreturn (by decide) rfl rest
  rw [if_neg hreturn]
  by_cases htab : (c == '\t') = true
  · rw [if_pos htab]
    exact readText_named htab (by decide) rfl rest
  rw [if_neg htab]
  by_cases hback : (c == '\x08') = true
  · rw [if_pos hback]
    exact readText_named hback (by decide) rfl rest
  rw [if_neg hback]
  by_cases hfeed : (c == '\x0c') = true
  · rw [if_pos hfeed]
    exact readText_named hfeed (by decide) rfl rest
  rw [if_neg hfeed]
  by_cases hcontrol : c.toNat < 0x20
  · rw [if_pos hcontrol]
    exact readText_unitEscape (by omega) rest
  rw [if_neg hcontrol]
  split
  · split
    · next hplane => exact readText_unitEscape hplane rest
    · exact readText_pairEscape (by omega) rest
  · exact readText_plain (by simpa using hquote) (by simpa using hslash) (by omega) rest

theorem readText_chars (ascii : Bool) (cs rest : List Char) :
    readText (cs.flatMap (escapeChar ascii) ++ '"' :: rest) = .ok (cs, rest) := by
  induction cs with
  | nil => rw [List.flatMap_nil, List.nil_append, readText]
  | cons c cs ih =>
      rw [List.flatMap_cons, List.append_assoc, readText_escapeChar, ih, become_ok]

/-- A text literal, behind its opening quote, is read back. -/
theorem readText_literal (ascii : Bool) (s : String) :
    ∃ body, textLiteral ascii s = '"' :: body ∧
      ∀ rest, readText (body ++ rest) = .ok (s.toList, rest) := by
  refine ⟨s.toList.flatMap (escapeChar ascii) ++ ['"'], rfl, ?_⟩
  intro rest
  rw [List.append_assoc]
  exact readText_chars ascii s.toList rest

end Admission.Json
