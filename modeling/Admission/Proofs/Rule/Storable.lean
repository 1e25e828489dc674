import Admission.Host.Walk
import Admission.Proofs.Json.Reader
import Admission.Proofs.Rule.File

/-!
# Rules made from storable values

A rule that is made from a value that JSON can keep is one that the rule file can keep.  Its
condition compares with copies of parts of the value, and its priority is an integer of the value or
the whole part of a double, which has a few hundred digits at most.

Main results:

* `Rule.priorityOf_isWritable` — the priority of a storable value can be written;
* `Expr.ofValue_isStorable` — the condition of a storable value is storable;
* `Rule.ofFieldsWithId_storable`, `Rule.ofValue_storable` — **the rule of a storable value is
  storable**.
-/

set_option autoImplicit false

namespace Admission

/-! ### Priorities -/

namespace Double

/-- The binary digits of a magnitude that is counted in grains. -/
def grainBits : Nat := 53 + 2047

/-- The greatest finite double has few digits, even when it is counted in grains. -/
theorem grains_lt {rank : Nat} (h : rank < ranks) : grains rank < 2 ^ grainBits := by
  have hsignificand : significand rank < 2 ^ 53 := by
    rw [significand, Nat.pow_eq]
    split <;> omega
  have hscale : scale rank ≤ 2047 := by
    have hrank : rank < 2047 * 2 ^ 52 := h
    rw [scale, Nat.pow_eq]
    omega
  calc grains rank
      = significand rank * 2 ^ scale rank := rfl
    _ < 2 ^ 53 * 2 ^ scale rank := Nat.mul_lt_mul_of_pos_right hsignificand (Nat.two_pow_pos _)
    _ = 2 ^ (53 + scale rank) := (Nat.pow_add 2 53 _).symm
    _ ≤ 2 ^ grainBits := Nat.pow_le_pow_right (by decide) (Nat.add_le_add_left hscale 53)

theorem two_pow_le_writeLimit {bits : Nat} (h : bits ≤ Integer.digitLimit) :
    2 ^ bits ≤ Integer.writeLimit :=
  (Nat.pow_le_pow_left (by decide) bits).trans (Integer.pow_le_writeLimit h)

/-- The whole part of a double can be written. -/
theorem isWritable_truncate (d : Double) : Integer.isWritable d.truncate = true := by
  have hsmall : 2 ^ grainBits ≤ Integer.writeLimit := two_pow_le_writeLimit (by decide)
  have hzero : 0 < Integer.writeLimit := Nat.lt_of_lt_of_le (Nat.two_pow_pos grainBits) hsmall
  cases d with
  | finite negative rank =>
      have hwhole : grains rank / grainsPerOne < Integer.writeLimit :=
        Nat.lt_of_le_of_lt (Nat.div_le_self _ _)
          (Nat.lt_of_lt_of_le (grains_lt rank.isLt) hsmall)
      have hsigned : Integer.isWritable ((grains rank / grainsPerOne : Nat) : Int) = true :=
        Integer.isWritable_iff.2 (by rwa [Int.natAbs_natCast])
      cases negative with
      | true =>
          change Integer.isWritable (-((grains rank / grainsPerOne : Nat) : Int)) = true
          rw [Integer.isWritable_neg, hsigned]
      | false => exact hsigned
  | infinite negative => exact Integer.isWritable_iff.2 hzero
  | nan => exact Integer.isWritable_iff.2 hzero

end Double

theorem Integer.isWritable_ofNat {n : Nat} (h : n < writeLimit) : isWritable (n : Int) = true := by
  rwa [isWritable_iff, Int.natAbs_natCast]

theorem Rule.priorityOfDouble_isWritable (d : Double) :
    Integer.isWritable (Rule.priorityOfDouble d) = true := by
  rw [Rule.priorityOfDouble]
  split
  · exact d.isWritable_truncate
  · exact Double.nan.isWritable_truncate

/-- The priority that a storable value stands for can be written. -/
theorem Rule.priorityOf_isWritable {v : Value} (h : v.isStorable = true) :
    Integer.isWritable (Rule.priorityOf v) = true := by
  have hzero : Integer.isWritable 0 = true := Double.nan.isWritable_truncate
  cases v with
  | int i => exact h
  | float d => exact priorityOfDouble_isWritable d
  | bool b =>
      cases b with
      | true =>
          have hone : 1 < Integer.writeLimit :=
            Nat.lt_of_lt_of_le (by decide : 1 < 2 ^ 1) (Double.two_pow_le_writeLimit (by decide))
          exact Integer.isWritable_ofNat hone
      | false => exact hzero
  | str s =>
      rw [priorityOf]
      split
      · exact priorityOfDouble_isWritable _
      · exact hzero
  | _ => exact hzero

/-! ### Conditions -/

/-- What a table of storable values has under a key, or null, is storable. -/
theorem Fields.getD_isStorable {entries : Fields} (h : ∀ e ∈ entries, e.2.isStorable = true)
    (key : String) : (Fields.getD entries key).isStorable = true := by
  rw [Fields.getD]
  cases hget : Table.get? entries key with
  | none => rfl
  | some v => exact h (key, v) (Host.mem_of_get? hget)

namespace Expr

theorem starting_isStorable : starting.isStorable = true := rfl

mutual

/-- The condition that a storable value describes compares with storable values only. -/
theorem ofValue_isStorable : ∀ v : Value, v.isStorable = true → (ofValue v).isStorable = true
  | .mapping _ entries _ => by
      intro h
      have hentries := (Value.isStorable_mapping_iff.1 h).2.1
      rw [ofValue]
      split
      · rw [isStorable]
        exact childrenIn_areStorable entries (Value.entriesStorable_iff.2 hentries)
      · rw [isStorable]
        exact childIn_isStorable entries (Value.entriesStorable_iff.2 hentries)
      · rw [isStorable]
        exact Value.isStorable_copied _ (Fields.getD_isStorable hentries "value")
      · exact starting_isStorable
  | .expr _ => fun h => absurd h Bool.false_ne_true
  | .null => fun _ => starting_isStorable
  | .bool _ => fun _ => starting_isStorable
  | .int _ => fun _ => starting_isStorable
  | .float _ => fun _ => starting_isStorable
  | .str _ => fun _ => starting_isStorable
  | .list _ _ => fun _ => starting_isStorable
  | .tuple _ _ => fun _ => starting_isStorable
  | .object _ _ _ => fun _ => starting_isStorable
  | .target _ => fun _ => starting_isStorable
  | .rule .. => fun _ => starting_isStorable

theorem childrenIn_areStorable : ∀ entries : List (String × Value),
    Value.entriesStorable entries = true → areStorable (childrenIn entries) = true
  | [] => fun _ => rfl
  | (key, v) :: rest => by
      intro h
      rw [Value.entriesStorable, Bool.and_eq_true] at h
      unfold childrenIn
      split
      · rfl
      · next items _ heq =>
          cases heq
          split
          · exact ofValues_areStorable items h.1
          · exact childrenIn_areStorable rest h.2
      · next heq =>
          cases heq
          split
          · rfl
          · exact childrenIn_areStorable rest h.2

theorem childIn_isStorable : ∀ entries : List (String × Value),
    Value.entriesStorable entries = true → (childIn entries).isStorable = true
  | [] => fun _ => starting_isStorable
  | (key, v) :: rest => by
      intro h
      rw [Value.entriesStorable, Bool.and_eq_true] at h
      rw [childIn]
      split
      · exact ofValue_isStorable v h.1
      · exact childIn_isStorable rest h.2

theorem ofValues_areStorable : ∀ items : List Value,
    Value.areStorable items = true → areStorable (ofValues items) = true
  | [] => fun _ => rfl
  | v :: rest => by
      intro h
      rw [Value.areStorable, Bool.and_eq_true] at h
      rw [ofValues, areStorable, ofValue_isStorable v h.1, ofValues_areStorable rest h.2,
        Bool.and_self]

end

end Expr

/-! ### Rules -/

namespace Rule

/-- The rule that storable entries describe is storable, whatever its id. -/
theorem ofFieldsWithId_storable {entries : Fields} (h : ∀ e ∈ entries, e.2.isStorable = true)
    (id : String) : (ofFieldsWithId id entries).Storable where
  priority := priorityOf_isWritable (Fields.getD_isStorable h "priority")
  condition := Expr.ofValue_isStorable _ (Fields.getD_isStorable h "condition")

/-- The rule that a storable value describes is storable. -/
theorem ofValue_storable {v : Value} (h : v.isStorable = true) (supply : Supply) :
    (ofValue v supply).1.Storable := by
  have hfields : ∀ e ∈ fieldsOf v, e.2.isStorable = true := by
    cases v with
    | mapping origin entries others => exact (Value.isStorable_mapping_iff.1 h).2.1
    | rule => exact absurd h Bool.false_ne_true
    | _ => exact nofun
  unfold ofValue ofFields
  split
  · exact ofFieldsWithId_storable hfields _
  · exact ofFieldsWithId_storable hfields _

theorem ofValues_storable {items : List Value} (h : ∀ v ∈ items, v.isStorable = true)
    (supply : Supply) : ∀ r ∈ (ofValues items supply).1, r.Storable := by
  induction items generalizing supply with
  | nil => exact nofun
  | cons v rest ih =>
      have hrest := ih (fun w hw => h w (List.mem_cons_of_mem v hw)) (ofValue v supply).2
      exact List.forall_mem_cons.2 ⟨ofValue_storable (h v List.mem_cons_self) supply, hrest⟩

theorem ofValues_settled (items : List Value) (supply : Supply) :
    ∀ r ∈ (ofValues items supply).1, r.Settled := by
  induction items generalizing supply with
  | nil => exact nofun
  | cons v rest ih => exact List.forall_mem_cons.2 ⟨ofValue_settled v supply, ih _⟩

/-- The entries of a storable rule are storable. -/
theorem toFields_isStorable {r : Rule} (h : r.Storable) : ∀ e ∈ r.toFields, e.2.isStorable = true :=
  (Value.isStorable_mapping_iff.1 (toValue_isStorable h)).2.1

/-- The mapping of a storable rule comes from JSON. -/
theorem toValue_isJson {r : Rule} (h : r.Storable) : r.toValue.IsJson := by
  have hcopied := Value.isJson_copied (toValue_isStorable h)
  rw [copied_toValue] at hcopied
  exact hcopied

end Rule

end Admission
