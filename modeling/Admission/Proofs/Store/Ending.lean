import Admission.Proofs.Rule.Supply
import Admission.Proofs.Store.Frame

/-!
# Operations that end

Two operations of the store draw ids, and go on until one of them is free: creating a rule, and
putting rules in place of all others.  When the ids of the supply spell consecutive numbers, both
end as long as there are fewer rules than ids, because no search has to go beyond one more
candidates than there are rules.  The limit on the tries of a search is then of no account: once it
allows for so many, what comes of an operation does not depend on it.

Main results:

* `Store.create_ends`, `Store.appendAll_ends` — an operation ends, and a limit that is high enough
  does not matter;
* `Store.search_ends` — **the search for a fresh id ends with the first one that is free**, and so
  do the operations that search.
-/

set_option autoImplicit false

namespace Admission

/-! ### What a description draws -/

theorem Rule.ofValue_withPatience (v : Value) (supply : Supply) (patience : Nat) :
    ofValue v (supply.withPatience patience) =
      ((ofValue v supply).1, (ofValue v supply).2.withPatience patience) := by
  unfold ofValue ofFields
  split <;> rfl

/-- The rule that a value describes takes one id from the supply, or none. -/
theorem Rule.exists_ofValue_later (v : Value) (supply : Supply) :
    ∃ count, (ofValue v supply).2 = supply.later count := by
  unfold ofValue ofFields
  split
  · exact ⟨0, by simp [Supply.later]⟩
  · exact ⟨1, supply.drawId_snd⟩

namespace Store

section Ending

variable {s : Store} {supply : Supply} {start : Nat}

/-! ### One rule more -/

/-- A rule is appended when there are fewer rules than ids. -/
theorem append_ends (hsupply : supply.Counts start) (hroom : s.rules.length < Supply.idCount)
    (r : Rule) : ∃ (placed : Rule) (rest : Supply), (∃ next, rest.Counts next) ∧
      ∀ patience, s.rules.length < patience → s.append r (supply.withPatience patience) =
        some (placed, ⟨s.rules ++ [placed]⟩, rest.withPatience patience) := by
  by_cases htaken : r.id ∈ s.ids
  · rw [← length_ids] at hroom
    obtain ⟨k, hk, -, -, hfinds⟩ := hsupply.exists_finds hroom
    rw [length_ids] at hk
    refine ⟨{ r with id := supply.candidate k }, supply.later (k + 1), ⟨_, hsupply.later (k + 1)⟩,
      fun patience hpatience => ?_⟩
    rw [append, if_pos (List.contains_iff_mem.2 htaken), hfinds.freshId?_eq, if_pos (by omega),
      Option.map_some]
  · exact ⟨r, supply, ⟨start, hsupply⟩, fun patience _ => append_of_not_mem htaken _⟩

/-- A rule is created when there are fewer rules than ids. -/
theorem create_ends (hsupply : supply.Counts start) (hroom : s.rules.length < Supply.idCount)
    (data : Value) : ∃ (r : Rule) (rest : Supply), ∀ patience, s.rules.length < patience →
      s.create data (supply.withPatience patience) =
        some (r, ⟨s.rules ++ [r]⟩, rest.withPatience patience) := by
  obtain ⟨count, hcount⟩ := Rule.exists_ofValue_later data supply
  obtain ⟨r, rest, -, happend⟩ :=
    append_ends (hsupply.later count) hroom (Rule.ofValue data supply).1
  refine ⟨r, rest, fun patience hpatience => ?_⟩
  rw [create_eq, Rule.ofValue_withPatience, hcount]
  exact happend patience hpatience

/-! ### Several rules -/

/-- Rules are appended one after the other when there are enough ids for all. -/
theorem appendAll_ends (hsupply : supply.Counts start) {rules : List Rule}
    (hroom : s.rules.length + rules.length ≤ Supply.idCount) :
    ∃ (next : Store) (renamings : List Renaming) (rest : Supply), ∀ patience,
      s.rules.length + rules.length ≤ patience → s.appendAll rules (supply.withPatience patience) =
        some (next, renamings, rest.withPatience patience) := by
  induction rules generalizing s supply start with
  | nil => exact ⟨s, [], supply, fun patience _ => rfl⟩
  | cons r others ih =>
      rw [List.length_cons] at hroom
      -- the ids that are left count on, and the rest goes to a store with one rule more
      obtain ⟨placed, left, ⟨number, hleft⟩, happend⟩ :=
        append_ends hsupply (s := s) (by omega) r
      have hlength : (s.rules ++ [placed]).length = s.rules.length + 1 := List.length_append
      obtain ⟨next, renamings, rest, hall⟩ := ih (s := ⟨s.rules ++ [placed]⟩) hleft (by
        dsimp only
        omega)
      dsimp only at hall
      refine ⟨next, if placed.id = r.id then renamings else ⟨r.id, placed.id⟩ :: renamings, rest,
        fun patience hpatience => ?_⟩
      rw [List.length_cons] at hpatience
      rw [appendAll, happend patience (by omega)]
      simp only [Option.bind_eq_bind, Option.bind_some, hall patience (by omega)]
      rfl

end Ending

/-! ### Every search -/

/-- **The search for a fresh id ends** when the ids of the supply are consecutive and there are
fewer rules than ids.

It draws no more candidates than there are rules, and one beyond, and finds the first of them that
no rule has.  With a limit it finds the same one, unless the limit is below the number of ids that
are drawn.  So a rule can be created in such a store from any value, and rules can be put in place
of all others if there are no more of them than ids, in the same way under each limit that allows
for the candidates. -/
theorem search_ends (supply : Supply) (start : Nat) (hsupply : supply.Counts start) :
    (∀ s : Store, s.rules.length < Supply.idCount →
      (∃ k ≤ s.rules.length, (∀ i < k, supply.candidate i ∈ s.ids) ∧ supply.candidate k ∉ s.ids ∧
        Supply.Finds s.ids supply (k + 1) (supply.candidate k, supply.later (k + 1)) ∧
        ∀ patience, (supply.withPatience patience).freshId? s.ids =
          if k < patience then
            some (supply.candidate k, (supply.later (k + 1)).withPatience patience)
          else none) ∧
      ∀ data, ∃ (r : Rule) (rest : Supply), ∀ patience, s.rules.length < patience →
        s.create data (supply.withPatience patience) =
          some (r, ⟨s.rules ++ [r]⟩, rest.withPatience patience)) ∧
    ∀ rules : List Rule, rules.length ≤ Supply.idCount →
      ∃ (next : Store) (renamings : List Renaming) (rest : Supply), ∀ patience,
        rules.length ≤ patience → replace rules (supply.withPatience patience) =
          some (next, renamings, rest.withPatience patience) := by
  constructor
  · intro s hroom
    have hcreate := create_ends hsupply hroom
    rw [← length_ids] at hroom
    obtain ⟨k, hk, htaken, hfree, hfinds⟩ := hsupply.exists_finds hroom
    rw [length_ids] at hk
    exact ⟨⟨k, hk, htaken, hfree, hfinds, hfinds.freshId?_eq⟩, hcreate⟩
  · intro rules hroom
    have hlength : empty.rules.length + rules.length = rules.length := Nat.zero_add _
    obtain ⟨next, renamings, rest, hall⟩ :=
      appendAll_ends hsupply (s := empty) (hlength.symm ▸ hroom)
    rw [hlength] at hall
    exact ⟨next, renamings, rest, hall⟩

/-- Two rules under the last id that there is and the first one. -/
def wrapped : Store := ⟨[Rule.blank "zzzzzzzz", Rule.blank "22222222"]⟩

/-- A supply that counts from the last id on tries that one, goes on with the first, and finds the
second. -/
theorem search_ends_wrapped :
    (Supply.counting 852891037440 0).Counts 852891037440 ∧
      wrapped.rules.length < Supply.idCount ∧
      Supply.Finds wrapped.ids (Supply.counting 852891037440 0) 3
        ("22222223", (Supply.counting 852891037440 0).later 3) ∧
      (∃ r rest, wrapped.create (.ofFields []) (Supply.counting 852891037440 3) =
        some (r, ⟨wrapped.rules ++ [r]⟩, rest)) ∧
      ∃ next renamings rest,
        replace [Rule.blank "a", Rule.blank "a"] (Supply.counting 852891037440 2) =
          some (next, renamings, rest) := by
  have hcounts := Supply.counting_counts 852891037440 0
  have hroom : wrapped.rules.length < Supply.idCount := by decide
  obtain ⟨hstore, hreplace⟩ := search_ends _ _ hcounts
  obtain ⟨⟨k, hk, -, hfree, hfinds, -⟩, hcreate⟩ := hstore wrapped hroom
  have hfirst : (Supply.counting 852891037440 0).candidate 0 ∈ wrapped.ids := by decide +kernel
  have hsecond : (Supply.counting 852891037440 0).candidate 1 ∈ wrapped.ids := by decide +kernel
  have hthird : (Supply.counting 852891037440 0).candidate 2 = "22222223" := by decide +kernel
  obtain rfl : k = 2 := by
    rcases k with _ | _ | k
    · exact absurd hfirst hfree
    · exact absurd hsecond hfree
    · have hk : k + 2 ≤ 2 := hk
      omega
  rw [hthird] at hfinds
  obtain ⟨r, rest, hcreate⟩ := hcreate (.ofFields [])
  obtain ⟨next, renamings, left, hreplace⟩ :=
    hreplace [Rule.blank "a", Rule.blank "a"] (by decide)
  exact ⟨hcounts, hroom, hfinds, ⟨r, _, hcreate 3 (by decide)⟩,
    next, renamings, _, hreplace 2 (by decide)⟩

end Store

end Admission
