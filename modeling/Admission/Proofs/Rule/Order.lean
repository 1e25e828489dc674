import Admission.Rule.Basic
import Mathlib.Data.List.Nodup

/-!
# The order of evaluation

Rules are evaluated by priority and, where priorities agree, by id.  The order is total, and it
tells apart any two rules with different ids.  So the rules of a list with distinct ids have one
order of evaluation only, whatever order they come in, and this remains so when some of them are
left out.

Main results:

* `Rule.precedes_total`, `Rule.precedes_trans`, `Rule.id_eq_of_precedes` — the order is linear up
  to equal ids;
* `Rule.sort_perm`, `Rule.pairwise_sort` — sorting keeps the rules and puts them in order;
* `Rule.filter_sort_eq_of_perm` — **what is kept of the sorted rules depends only on what is kept
  of the rules**;
* `Rule.filter_sort`, `Rule.exists_sort_insert` — sorting commutes with leaving rules out, and one
  more rule only makes room for itself, even where ids agree.
-/

set_option autoImplicit false

namespace Admission.Rule

/-! ### The order -/

theorem precedes_iff {a b : Rule} :
    a.precedes b = true ↔ a.priority < b.priority ∨ a.priority = b.priority ∧ a.id ≤ b.id := by
  simp [precedes]

theorem precedes_refl (a : Rule) : a.precedes a = true :=
  precedes_iff.2 (.inr ⟨rfl, String.le_refl a.id⟩)

theorem precedes_total (a b : Rule) : a.precedes b = true ∨ b.precedes a = true := by
  simp only [precedes_iff]
  rcases Int.lt_trichotomy a.priority b.priority with h | h | h
  · exact .inl (.inl h)
  · rcases String.le_total a.id b.id with hid | hid
    · exact .inl (.inr ⟨h, hid⟩)
    · exact .inr (.inr ⟨h.symm, hid⟩)
  · exact .inr (.inl h)

theorem precedes_trans {a b c : Rule} (hab : a.precedes b = true) (hbc : b.precedes c = true) :
    a.precedes c = true := by
  rw [precedes_iff] at hab hbc ⊢
  rcases hab with hab | ⟨hab, hid⟩
  · rcases hbc with hbc | ⟨hbc, _⟩
    · exact .inl (by omega)
    · exact .inl (by omega)
  · rcases hbc with hbc | ⟨hbc, hid'⟩
    · exact .inl (by omega)
    · exact .inr ⟨by omega, String.le_trans hid hid'⟩

/-- Two rules that precede each other have the same id. -/
theorem id_eq_of_precedes {a b : Rule} (hab : a.precedes b = true) (hba : b.precedes a = true) :
    a.id = b.id := by
  rw [precedes_iff] at hab hba
  rcases hab with hab | ⟨_, hid⟩
  · rcases hba with hba | ⟨hba, _⟩
    · omega
    · omega
  · rcases hba with hba | ⟨_, hid'⟩
    · omega
    · exact String.le_antisymm hid hid'

/-- Among rules with distinct ids, the order is antisymmetric. -/
theorem eq_of_precedes {rules : List Rule} (hids : (rules.map (·.id)).Nodup) {a b : Rule}
    (ha : a ∈ rules) (hb : b ∈ rules) (hab : a.precedes b = true) (hba : b.precedes a = true) :
    a = b :=
  List.inj_on_of_nodup_map hids ha hb (id_eq_of_precedes hab hba)

/-! ### Sorted rules -/

theorem sort_perm (rules : List Rule) : (sort rules).Perm rules :=
  List.mergeSort_perm rules precedes

@[simp] theorem mem_sort {rules : List Rule} {r : Rule} : r ∈ sort rules ↔ r ∈ rules :=
  (sort_perm rules).mem_iff

theorem pairwise_sort (rules : List Rule) :
    (sort rules).Pairwise fun a b => a.precedes b = true := by
  refine List.pairwise_mergeSort ?_ ?_ rules
  · intro a b c hab hbc
    exact precedes_trans hab hbc
  · intro a b
    rw [Bool.or_eq_true]
    exact precedes_total a b

/-- What a test keeps of the sorted rules is a rearrangement of what it keeps of the rules. -/
theorem filter_sort_perm (p : Rule → Bool) (rules : List Rule) :
    ((sort rules).filter p).Perm (rules.filter p) :=
  (sort_perm rules).filter p

/-- What a test keeps of the sorted rules depends only on what it keeps of the rules, and not on
their order. -/
theorem filter_sort_eq_of_perm {p : Rule → Bool} {rules others : List Rule}
    (hids : ((rules.filter p).map (·.id)).Nodup)
    (hperm : (others.filter p).Perm (rules.filter p)) :
    (sort others).filter p = (sort rules).filter p := by
  have hothers : ((sort others).filter p).Perm (rules.filter p) :=
    (filter_sort_perm p others).trans hperm
  have hrules := filter_sort_perm p rules
  refine List.Perm.eq_of_pairwise ?_ ((pairwise_sort others).filter p)
    ((pairwise_sort rules).filter p) (hothers.trans hrules.symm)
  intro a b ha hb hab hba
  exact eq_of_precedes hids (hothers.mem_iff.1 ha) (hrules.mem_iff.1 hb) hab hba

/-! ### One more rule -/

/-- One more rule goes among the sorted ones, behind those that it does not precede. -/
theorem exists_sort_cons (r : Rule) (rules : List Rule) :
    ∃ front back, sort (r :: rules) = front ++ r :: back ∧ sort rules = front ++ back ∧
      (∀ q ∈ front, r.precedes q = false) ∧ ∀ q ∈ back, r.precedes q = true := by
  have htotal : ∀ a b : Rule, (a.precedes b || b.precedes a) = true := by
    intro a b
    rw [Bool.or_eq_true]
    exact precedes_total a b
  obtain ⟨front, back, hsort, hrules, hfront⟩ :=
    List.mergeSort_cons (fun a b c => precedes_trans (a := a) (b := b) (c := c)) htotal r rules
  have hpairwise : (front ++ r :: back).Pairwise fun a b => a.precedes b = true :=
    hsort ▸ pairwise_sort (r :: rules)
  have hback := (List.pairwise_cons.1 (List.pairwise_append.1 hpairwise).2.1).1
  exact ⟨front, back, hsort, hrules, by simpa using hfront, hback⟩

theorem sort_cons (r : Rule) (rules : List Rule) :
    sort (r :: rules) =
      (sort rules).filter (fun q => !r.precedes q) ++ r :: (sort rules).filter r.precedes := by
  obtain ⟨front, back, hsort, hrules, hfront, hback⟩ := exists_sort_cons r rules
  have hfront' : ∀ q ∈ front, ¬ r.precedes q = true := fun q hq => by simp [hfront q hq]
  rw [hsort, hrules, List.filter_append, List.filter_append,
    List.filter_eq_self.2 (by simpa using hfront), List.filter_eq_nil_iff.2 (by simpa using hback),
    List.filter_eq_nil_iff.2 hfront', List.filter_eq_self.2 hback, List.append_nil,
    List.nil_append]

/-- Rules may be left out before or after sorting. -/
theorem filter_sort (p : Rule → Bool) (rules : List Rule) :
    (sort rules).filter p = sort (rules.filter p) := by
  induction rules with
  | nil => simp [sort]
  | cons r rest ih =>
      cases hp : p r with
      | true =>
          rw [List.filter_cons_of_pos hp, sort_cons, sort_cons, ← ih, List.filter_append,
            List.filter_cons_of_pos hp]
          simp only [List.filter_filter, Bool.and_comm]
      | false =>
          obtain ⟨front, back, hsort, hrest, -, -⟩ := exists_sort_cons r rest
          rw [List.filter_cons_of_neg (by simp [hp]), ← ih, hsort, hrest, List.filter_append,
            List.filter_cons_of_neg (by simp [hp]), List.filter_append]

/-- One more rule, wherever it comes in the list, only makes room for itself.  Before it are sorted
the rules that come earlier in the list and precede it, and those that come later and that it does
not precede. -/
theorem exists_sort_insert (before : List Rule) (r : Rule) (after : List Rule) :
    ∃ front back, sort (before ++ r :: after) = front ++ r :: back ∧
      sort (before ++ after) = front ++ back ∧
      ∀ q, q ∈ front ↔
        (q ∈ before ∧ q.precedes r = true) ∨ (q ∈ after ∧ r.precedes q = false) := by
  induction before with
  | nil =>
      obtain ⟨front, back, hsort, hafter, hfront, hback⟩ := exists_sort_cons r after
      refine ⟨front, back, hsort, hafter, fun q => ⟨fun hq => .inr ⟨?_, hfront q hq⟩, ?_⟩⟩
      · rw [← mem_sort, hafter]
        exact List.mem_append_left back hq
      · rintro (⟨hq, -⟩ | ⟨hq, hnot⟩)
        · cases hq
        · rw [← mem_sort, hafter, List.mem_append] at hq
          refine hq.resolve_right fun hq => ?_
          rw [hback q hq] at hnot
          cases hnot
  | cons p rest ih =>
      obtain ⟨front, back, hwith, hwithout, hmem⟩ := ih
      have hpairwise := pairwise_sort (rest ++ r :: after)
      rw [hwith, List.pairwise_append, List.pairwise_cons] at hpairwise
      obtain ⟨-, ⟨hback, -⟩, hfront⟩ := hpairwise
      have hfront : ∀ q ∈ front, q.precedes r = true := fun q hq => hfront q hq r List.mem_cons_self
      rw [List.cons_append, List.cons_append, sort_cons, sort_cons, hwith, hwithout]
      cases hp : p.precedes r with
      | true =>
          -- nothing that the rule precedes is moved in front of it
          have hnone : back.filter (fun q => !p.precedes q) = [] := by
            rw [List.filter_eq_nil_iff]
            intro q hq
            simp [precedes_trans hp (hback q hq)]
          refine ⟨front.filter (fun q => !p.precedes q) ++ p :: front.filter p.precedes,
            back.filter p.precedes, ?_, ?_, fun q => ?_⟩
          · simp [hp, hnone]
          · simp [hnone]
          · have hkept : q ∈ front.filter (fun q => !p.precedes q) ++ p :: front.filter p.precedes ↔
                q = p ∨ q ∈ front := by
              cases hpq : p.precedes q <;> simp [hpq, or_comm]
            rw [hkept, hmem, List.mem_cons]
            by_cases hq : q = p
            · simp [hq, hp]
            · simp [hq]
      | false =>
          -- nothing that precedes the rule is moved behind it
          have hall : ∀ q ∈ front, p.precedes q = false := by
            intro q hq
            refine Bool.eq_false_iff.2 fun hpq => ?_
            rw [precedes_trans hpq (hfront q hq)] at hp
            cases hp
          have hnone : front.filter p.precedes = [] := by
            rw [List.filter_eq_nil_iff]
            intro q hq
            simp [hall q hq]
          have hself : front.filter (fun q => !p.precedes q) = front :=
            List.filter_eq_self.2 fun q hq => by simp [hall q hq]
          refine ⟨front, back.filter (fun q => !p.precedes q) ++ p :: back.filter p.precedes,
            ?_, ?_, fun q => ?_⟩
          · simp [hp, hnone, hself]
          · simp [hnone, hself]
          · rw [hmem, List.mem_cons]
            constructor
            · exact Or.imp_left fun h => ⟨.inr h.1, h.2⟩
            · rintro (⟨rfl | hq, hqr⟩ | h)
              · rw [hp] at hqr
                cases hqr
              · exact .inl ⟨hq, hqr⟩
              · exact .inr h

end Admission.Rule
