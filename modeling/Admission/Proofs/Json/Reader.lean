import Admission.Proofs.Json.Value

/-!
# What is read can be written

Whatever text the reader accepts, the value that it returns is storable: an object has every key
once, since a repeated key keeps its first place, and an integer has few enough digits to be
written, since it had few enough to be read.  So what comes from a JSON text, a rule file or the
payload of an operation, can always be saved again.

Main definition: `Value.IsJson` — the value comes from a JSON text.

Main results:

* `Integer.isWritable_of_readDigits` — an integer that was read can be written;
* `Value.IsJson.isStorable` — **what comes from a JSON text can be stored**.
-/

set_option autoImplicit false

namespace Admission

/-! ### Integers -/

namespace Integer

theorem isWritable_iff {i : Int} : isWritable i = true ↔ i.natAbs < writeLimit := decide_eq_true_iff

theorem isWritable_neg (i : Int) : isWritable (-i) = isWritable i := by
  rw [isWritable, isWritable, Int.natAbs_neg]

theorem pow_le_natPow {count limit : Nat} (h : count ≤ limit) : 10 ^ count ≤ Nat.pow 10 limit :=
  Nat.pow_le_pow_right (Nat.succ_pos 9) h

theorem pow_le_writeLimit {count : Nat} (h : count ≤ digitLimit) : 10 ^ count ≤ writeLimit := by
  unfold writeLimit
  exact pow_le_natPow h

/-- Digits spell a number below the power of ten that they count. -/
theorem ofDigitChars_lt {digits : List Char} (h : ∀ c ∈ digits, c.isDigit = true) (n : Nat) :
    Nat.ofDigitChars 10 digits n < (n + 1) * 10 ^ digits.length := by
  induction digits generalizing n with
  | nil => simp
  | cons c rest ih =>
      have hc := Char.isDigit_iff_toNat.1 (h c List.mem_cons_self)
      have hzero : '0'.toNat = 48 := rfl
      have hnine : '9'.toNat = 57 := rfl
      have hdigit : 10 * n + (c.toNat - '0'.toNat) + 1 ≤ (n + 1) * 10 := by omega
      calc Nat.ofDigitChars 10 (c :: rest) n
          = Nat.ofDigitChars 10 rest (10 * n + (c.toNat - '0'.toNat)) := Nat.ofDigitChars_cons
        _ < (10 * n + (c.toNat - '0'.toNat) + 1) * 10 ^ rest.length :=
            ih (fun d hd => h d (List.mem_cons_of_mem c hd)) _
        _ ≤ (n + 1) * 10 * 10 ^ rest.length := Nat.mul_le_mul_right _ hdigit
        _ = (n + 1) * 10 ^ (c :: rest).length := by
            rw [List.length_cons, Nat.pow_succ, Nat.mul_assoc, Nat.mul_comm 10]

/-- A number that was read from digits has few enough of them to be written. -/
theorem isWritable_of_readDigits {digits : List Char} {n : Nat}
    (hdigits : ∀ c ∈ digits, c.isDigit = true) (h : readDigits digits = .ok n) :
    isWritable (n : Int) = true := by
  unfold readDigits at h
  split at h
  · cases h
  · next hlength =>
      cases h
      rw [isWritable_iff, Int.natAbs_natCast]
      calc Nat.ofDigitChars 10 digits 0
          < (0 + 1) * 10 ^ digits.length := ofDigitChars_lt hdigits 0
        _ = 10 ^ digits.length := Nat.one_mul _
        _ ≤ writeLimit := pow_le_writeLimit (Nat.le_of_not_lt hlength)

end Integer

/-! ### Containers of storable values -/

theorem Value.areStorable_iff {items : List Value} :
    Value.areStorable items = true ↔ ∀ v ∈ items, v.isStorable = true := by
  induction items with
  | nil => simp [Value.areStorable]
  | cons v rest ih => simp [Value.areStorable, ih]

theorem Value.entriesStorable_iff {entries : List (String × Value)} :
    Value.entriesStorable entries = true ↔ ∀ e ∈ entries, e.2.isStorable = true := by
  induction entries with
  | nil => simp [Value.entriesStorable]
  | cons e rest ih => simp [Value.entriesStorable, ih]

theorem Value.isStorable_mapping_iff {origin : Option Nat} {entries : Fields}
    {others : List (Nat × Value × Value)} :
    (Value.mapping origin entries others).isStorable = true ↔
      (Table.keys entries).Nodup ∧ (∀ e ∈ entries, e.2.isStorable = true) ∧ others = [] := by
  rw [Value.isStorable, Bool.and_eq_true, Bool.and_eq_true, decide_eq_true_eq,
    Value.entriesStorable_iff, List.isEmpty_iff, and_assoc]

namespace Json

/-! ### Scalars -/

theorem wholeDigits?_digits {cs whole rest : List Char} (h : wholeDigits? cs = some (whole, rest)) :
    ∀ c ∈ whole, c.isDigit = true := by
  unfold wholeDigits? at h
  split at h
  · cases h
    exact List.forall_mem_singleton.2 rfl
  · dsimp only at h
    split at h
    · cases h
    · cases h
      exact List.all_eq_true.1 List.all_takeWhile

theorem readUnsigned_storable {negative : Bool} {cs rest : List Char} {v : Value}
    (h : readUnsigned negative cs = .ok (v, rest)) : v.isStorable = true := by
  unfold readUnsigned at h
  split at h
  · cases h
  · next whole more hwhole =>
      dsimp only at h
      split at h
      · split at h
        · next n hn =>
            have hwritable := Integer.isWritable_of_readDigits (wholeDigits?_digits hwhole) hn
            cases h
            rw [Value.isStorable]
            cases negative with
            | true => rw [if_pos rfl, Integer.isWritable_neg, hwritable]
            | false => exact hwritable
        · cases h
      · cases h
        rfl

theorem readScalar_storable {cs rest : List Char} {v : Value}
    (h : readScalar cs = .ok (v, rest)) : v.isStorable = true := by
  unfold readScalar at h
  split at h
  · next found hfound =>
      obtain ⟨e, hmem, hword⟩ := List.exists_of_findSome?_eq_some hfound
      obtain ⟨r, _, rfl⟩ := Option.map_eq_some_iff.1 hword
      cases h
      have hwords : ∀ e ∈ words, e.2.isStorable = true := by decide
      exact hwords e hmem
  · unfold readNumber at h
    split at h <;> exact readUnsigned_storable h

/-! ### Values -/

theorem become_eq_ok {α β : Type} {f : α → β} {r : Reading α} {b : β} {rest : List Char}
    (h : r.become f = .ok (b, rest)) : ∃ a, r = .ok (a, rest) ∧ f a = b := by
  cases r with
  | error failure => cases h
  | ok found =>
      obtain ⟨a, rest'⟩ := found
      cases h
      exact ⟨a, rfl, rfl⟩

theorem mergeEntries_storable {entries : Fields} (h : ∀ e ∈ entries, e.2.isStorable = true) :
    (Value.ofFields (mergeEntries entries)).isStorable = true := by
  have hnil : (Table.keys ([] : Fields)).Nodup := List.nodup_nil
  refine Value.isStorable_mapping_iff.2 ⟨Table.nodup_keys_overlay hnil entries, ?_, rfl⟩
  intro e he
  exact (Table.mem_overlay he).elim (fun hnil => absurd hnil List.not_mem_nil) (h e)

/-- With the fuel of one more step, the three readers return what is storable when they do so with
less. -/
theorem readers_storable (fuel : Nat) :
    (∀ cs v rest, readValue fuel cs = .ok (v, rest) → v.isStorable = true) ∧
    (∀ cs items rest, readItems fuel cs = .ok (items, rest) → ∀ v ∈ items, v.isStorable = true) ∧
    ∀ cs entries rest, readEntries fuel cs = .ok (entries, rest) →
      ∀ e ∈ entries, e.2.isStorable = true := by
  -- the three readers call each other with less fuel, so that one induction serves them all
  induction fuel with
  | zero =>
      refine ⟨?_, ?_, ?_⟩ <;> intro cs _ rest h <;> cases h
  | succ fuel ih =>
      obtain ⟨hvalue, hitems, hentries⟩ := ih
      refine ⟨?_, ?_, ?_⟩
      · intro cs v rest h
        unfold readValue at h
        split at h
        · obtain ⟨s, _, rfl⟩ := become_eq_ok h
          rfl
        · split at h
          · cases h
            rfl
          · obtain ⟨items, hread, rfl⟩ := become_eq_ok h
            exact Value.areStorable_iff.2 (hitems _ _ _ hread)
        · split at h
          · cases h
            rfl
          · obtain ⟨entries, hread, rfl⟩ := become_eq_ok h
            exact mergeEntries_storable (hentries _ _ _ hread)
        · exact readScalar_storable h
      · intro cs items rest h
        unfold readItems at h
        split at h
        · cases h
        · next v more hread =>
            split at h
            · obtain ⟨others, hothers, rfl⟩ := become_eq_ok h
              exact List.forall_mem_cons.2 ⟨hvalue _ _ _ hread, hitems _ _ _ hothers⟩
            · cases h
              exact List.forall_mem_cons.2 ⟨hvalue _ _ _ hread, List.forall_mem_nil _⟩
            · cases h
      · intro cs entries rest h
        unfold readEntries at h
        split at h
        · split at h
          · cases h
          · split at h
            · split at h
              · cases h
              · next v more hread =>
                  split at h
                  · obtain ⟨others, hothers, rfl⟩ := become_eq_ok h
                    exact List.forall_mem_cons.2 ⟨hvalue _ _ _ hread, hentries _ _ _ hothers⟩
                  · cases h
                    exact List.forall_mem_cons.2 ⟨hvalue _ _ _ hread, List.forall_mem_nil _⟩
                  · cases h
            · cases h
        · cases h

theorem isStorable_of_read? {text : String} {v : Value} (h : read? text = some v) :
    v.isStorable = true := by
  unfold read? read at h
  dsimp only at h
  split at h
  · cases h
  · next v' rest hread =>
      split at h
      · cases h
        exact (readers_storable _).1 _ _ _ hread
      · cases h

end Json

/-! ### Values from JSON texts -/

/-- The value comes from a JSON text. -/
def Value.IsJson (v : Value) : Prop := ∃ text, Json.read? text = some v

theorem Value.IsJson.isStorable {v : Value} (h : v.IsJson) : v.isStorable = true :=
  h.elim fun _ hread => Json.isStorable_of_read? hread

/-- The copy of what can be stored comes from a JSON text. -/
theorem Value.isJson_copied {v : Value} (h : v.isStorable = true) : v.copied.IsJson := by
  obtain ⟨text, -, hread⟩ := Json.read_render ⟨true, none, false⟩ h
  refine ⟨text, ?_⟩
  rw [Json.read?, hread]
  rfl

end Admission
