import Admission.Proofs.Store.Frame
import Mathlib.Data.Finset.Card

/-!
# Rules that take the place of all others

Rules that take the place of all others are placed one after the other.  Each keeps its id unless a
rule before it is under that id by then, and gets a fresh one otherwise.  Nothing else of a rule
changes, and no rule moves.

A fresh id is one that no rule before it has.  That does not keep it apart from the rules that are
still to come.  So a rule can lose its id in two ways: because a rule that was given earlier has the
same one, or because an earlier rule was renamed to it, although no other rule came with it.  As
long as no fresh id is one that a rule came with, it is the repeated ids alone that are replaced.

Main definitions:

* `Supply.Varied` — how many different ids there are among those that one search tries;
* `Store.Placing` — how rules are placed when some ids are in use;
* `Store.renamingsOf` — the rules that are not under the ids they came with.

Main results:

* `Store.appendAll_placing` — what is placed, and under which ids;
* `Store.replace_isSome` — a supply that is varied enough is enough;
* `Store.replace_renames` — **which rules are renamed**.
-/

set_option autoImplicit false

namespace Admission

namespace Supply

/-! ### What is drawn later -/

/-- The second supply is what is left of the first one when some ids have been drawn. -/
structure After (s rest : Supply) : Prop where
  patience : rest.patience = s.patience
  candidate : ∃ n, ∀ k, rest.candidate k = s.candidate (n + k)

/-- Wherever a search begins, it tries at least so many different ids. -/
def Varied (s : Supply) (count : Nat) : Prop :=
  ∀ n, count ≤ ((Finset.range s.patience).image fun k => s.candidate (n + k)).card

variable {s rest other : Supply}

theorem After.refl (s : Supply) : s.After s := ⟨rfl, 0, fun k => by rw [Nat.zero_add]⟩

theorem After.trans (h : s.After rest) (h' : rest.After other) : s.After other := by
  obtain ⟨n, hn⟩ := h.candidate
  obtain ⟨m, hm⟩ := h'.candidate
  refine ⟨h'.patience.trans h.patience, n + m, fun k => ?_⟩
  rw [hm, hn, Nat.add_assoc]

theorem after_later (s : Supply) (count : Nat) : s.After (s.later count) :=
  ⟨rfl, count, candidate_later s count⟩

theorem After.varied (h : s.After rest) {count : Nat} (hs : s.Varied count) :
    rest.Varied count := by
  obtain ⟨m, hm⟩ := h.candidate
  intro n
  have hcount := hs (m + n)
  simp only [Nat.add_assoc] at hcount
  simpa only [hm, h.patience] using hcount

/-- A search finds an id of the supply and leaves what comes behind it. -/
theorem search_after {taken : List String} {tries : Nat} {id : String}
    (h : search taken tries s = some (id, rest)) : (∃ k, id = s.candidate k) ∧ s.After rest := by
  obtain ⟨count, -, hfinds⟩ := search_eq_some_iff.1 h
  obtain ⟨k, -, hfound, -⟩ := hfinds.exists_candidate
  cases hfound
  exact ⟨⟨k, rfl⟩, after_later s (k + 1)⟩

/-- When fewer ids are in use than there are different ones to be tried, one of these is free. -/
theorem Varied.freshId?_isSome {count : Nat} (hs : s.Varied count) {taken : List String}
    (htaken : taken.length < count) : (s.freshId? taken).isSome = true := by
  rw [freshId?, search_isSome_iff]
  refine exists_free (Nat.lt_of_lt_of_le htaken ?_)
  simpa only [Nat.zero_add] using hs 0

/-- Consecutive ids are all different, if there are no more of them than ids. -/
theorem counting_varied (start : Nat) {patience : Nat} (h : patience ≤ idCount) :
    (counting start patience).Varied patience := by
  intro n
  have hcard := ((counting_counts start patience).later n).card_candidates h
  rw [show ((counting start patience).later n).candidate =
    fun k => (counting start patience).candidate (n + k) from
      funext fun k => candidate_later _ n k] at hcard
  exact Nat.le_of_eq hcard.symm

end Supply

namespace Store

/-! ### Placing rules -/

/-- How rules are placed one after the other when some ids are in use: a rule keeps its id if that
is free, and is renamed to an id of the supply otherwise. -/
inductive Placing (supply : Supply) : List String → List Rule → List Rule → List Renaming → Prop
    where
  | nil (taken : List String) : Placing supply taken [] [] []
  | keep {taken : List String} {r : Rule} {rules placed : List Rule} {renamings : List Renaming}
      (hfree : r.id ∉ taken) (hrest : Placing supply (taken ++ [r.id]) rules placed renamings) :
      Placing supply taken (r :: rules) (r :: placed) renamings
  | rename {taken : List String} {r : Rule} {rules placed : List Rule}
      {renamings : List Renaming} (k : Nat) (htaken : r.id ∈ taken)
      (hfree : supply.candidate k ∉ taken)
      (hrest : Placing supply (taken ++ [supply.candidate k]) rules placed renamings) :
      Placing supply taken (r :: rules) ({ r with id := supply.candidate k } :: placed)
        (⟨r.id, supply.candidate k⟩ :: renamings)

/-- The rules that are not under the ids they came with. -/
def renamingsOf (given placed : List Rule) : List Renaming :=
  (given.zip placed).filterMap fun (r, q) => if q.id = r.id then none else some ⟨r.id, q.id⟩

section Placing

variable {origin supply rest : Supply} {s next : Store} {r placed : Rule}

/-- A rule is put at the end as it is, or it is renamed to an id that is free. -/
theorem append_cases (h : s.append r supply = some (placed, next, rest)) :
    (r.id ∉ s.ids ∧ placed = r ∧ next = ⟨s.rules ++ [r]⟩ ∧ rest = supply) ∨
      (r.id ∈ s.ids ∧ ∃ k, supply.candidate k ∉ s.ids ∧
        placed = { r with id := supply.candidate k } ∧ next = ⟨s.rules ++ [placed]⟩ ∧
        supply.After rest) := by
  by_cases htaken : r.id ∈ s.ids
  · rw [append, if_pos (List.contains_iff_mem.2 htaken)] at h
    obtain ⟨⟨id, left⟩, hfresh, heq⟩ := Option.map_eq_some_iff.1 h
    cases heq
    obtain ⟨⟨k, rfl⟩, hafter⟩ := Supply.search_after hfresh
    exact .inr ⟨htaken, k, (Supply.freshId?_spec hfresh).1, rfl, rfl, hafter⟩
  · rw [append_of_not_mem htaken] at h
    cases h
    exact .inl ⟨htaken, rfl, rfl, rfl⟩

theorem ids_concat (s : Store) (r : Rule) : ids ⟨s.rules ++ [r]⟩ = s.ids ++ [r.id] :=
  List.map_append

/-- Rules are placed behind those that are there. -/
theorem appendAll_placing {rules : List Rule} {renamings : List Renaming}
    (hafter : origin.After supply)
    (h : s.appendAll rules supply = some (next, renamings, rest)) :
    ∃ placed, next.rules = s.rules ++ placed ∧ Placing origin s.ids rules placed renamings := by
  induction rules generalizing s supply renamings with
  | nil =>
      cases h
      exact ⟨[], (List.append_nil _).symm, .nil _⟩
  | cons r others ih =>
      rw [appendAll] at h
      obtain ⟨⟨q, s', supply'⟩, happend, h⟩ := Option.bind_eq_some_iff.1 h
      obtain ⟨⟨s'', renamings', rest'⟩, hall, h⟩ := Option.bind_eq_some_iff.1 h
      cases h
      rcases append_cases happend with ⟨hfree, rfl, rfl, rfl⟩ | ⟨htaken, k, hfree, rfl, rfl, hlater⟩
      · obtain ⟨placed, hrules, hplacing⟩ := ih hafter hall
        rw [ids_concat] at hplacing
        rw [if_pos rfl]
        exact ⟨q :: placed, by simpa using hrules, .keep hfree hplacing⟩
      · obtain ⟨placed, hrules, hplacing⟩ := ih (hafter.trans hlater) hall
        obtain ⟨n, hn⟩ := hafter.candidate
        have hne : supply.candidate k ≠ r.id := fun hsame => hfree (hsame ▸ htaken)
        rw [ids_concat] at hplacing
        dsimp only at hrules hplacing
        rw [if_neg hne]
        rw [hn k] at hfree hrules hplacing ⊢
        exact ⟨{ r with id := origin.candidate (n + k) } :: placed, by simpa using hrules,
          .rename (n + k) htaken hfree hplacing⟩

/-- The rules find their ids in a supply that is varied enough. -/
theorem appendAll_isSome {rules : List Rule} {count : Nat} (hsupply : supply.Varied count)
    (hcount : s.rules.length + rules.length ≤ count) :
    (s.appendAll rules supply).isSome = true := by
  induction rules generalizing s supply with
  | nil => rfl
  | cons r others ih =>
      rw [List.length_cons] at hcount
      have hlength : s.ids.length < count := by
        rw [length_ids]
        omega
      have happend : (s.append r supply).isSome = true := by
        rw [append]
        split
        · rw [Option.isSome_map]
          exact hsupply.freshId?_isSome hlength
        · rfl
      obtain ⟨⟨q, s', supply'⟩, happend⟩ := Option.isSome_iff_exists.1 happend
      have hnext : s'.rules.length = s.rules.length + 1 := by
        rw [(append_spec happend).1, List.length_append, List.length_singleton]
      have hsupply' : supply'.Varied count := by
        rcases append_cases happend with ⟨-, -, -, rfl⟩ | ⟨-, -, -, -, -, hafter⟩
        · exact hsupply
        · exact hafter.varied hsupply
      obtain ⟨⟨s'', renamings, rest⟩, hall⟩ :=
        Option.isSome_iff_exists.1 (ih (s := s') hsupply' (by omega))
      rw [appendAll, happend]
      simp [hall]

end Placing

/-! ### What is placed -/

namespace Placing

variable {supply : Supply} {taken : List String} {rules placed : List Rule}
  {renamings : List Renaming}

theorem length_eq (h : Placing supply taken rules placed renamings) :
    placed.length = rules.length := by
  induction h with
  | nil taken => rfl
  | keep hfree hrest ih => rw [List.length_cons, List.length_cons, ih]
  | rename k htaken hfree hrest ih => rw [List.length_cons, List.length_cons, ih]

/-- The ids stay different. -/
theorem nodup (h : Placing supply taken rules placed renamings) (htaken : taken.Nodup) :
    (taken ++ placed.map (·.id)).Nodup := by
  have hconcat : ∀ {taken : List String} {id : String}, taken.Nodup → id ∉ taken →
      (taken ++ [id]).Nodup := by
    intro taken id hnodup hfree
    exact List.nodup_append.2 ⟨hnodup, List.nodup_singleton id, fun a ha b hb hab =>
      hfree (List.mem_singleton.1 hb ▸ hab ▸ ha)⟩
  induction h with
  | nil taken => simpa using htaken
  | keep hfree hrest ih => simpa using ih (hconcat htaken hfree)
  | rename k htaken' hfree hrest ih => simpa using ih (hconcat htaken hfree)

/-- The renamings tell the rules that are not under the ids they came with. -/
theorem renamings_eq (h : Placing supply taken rules placed renamings) :
    renamings = renamingsOf rules placed := by
  induction h with
  | nil taken => rfl
  | keep hfree hrest ih => simpa [renamingsOf] using ih
  | @rename taken r rules placed renamings k htaken hfree hrest ih =>
      have hne : supply.candidate k ≠ r.id := fun hsame => hfree (hsame ▸ htaken)
      simpa [renamingsOf, hne] using ih

theorem exists_candidate (h : Placing supply taken rules placed renamings) :
    ∀ n ∈ renamings, ∃ k, n.current = supply.candidate k := by
  induction h with
  | nil taken => exact nofun
  | keep hfree hrest ih => exact ih
  | rename k htaken hfree hrest ih => exact List.forall_mem_cons.2 ⟨⟨k, rfl⟩, ih⟩

/-- The first of the rules are placed in the same way when no others follow. -/
theorem take (h : Placing supply taken rules placed renamings) (n : Nat) :
    ∃ first, Placing supply taken (rules.take n) (placed.take n) first := by
  induction h generalizing n with
  | nil taken => exact ⟨[], by simpa using Placing.nil taken⟩
  | keep hfree hrest ih =>
      cases n with
      | zero => exact ⟨[], .nil _⟩
      | succ n =>
          obtain ⟨first, hfirst⟩ := ih n
          exact ⟨first, .keep hfree hfirst⟩
  | rename k htaken hfree hrest ih =>
      cases n with
      | zero => exact ⟨[], .nil _⟩
      | succ n =>
          obtain ⟨first, hfirst⟩ := ih n
          exact ⟨_, .rename k htaken hfree hfirst⟩

/-- The ids in use are those that were in use, those that rules came with, and those to which rules
were renamed. -/
theorem mem_ids_iff (h : Placing supply taken rules placed renamings) (id : String) :
    id ∈ taken ++ placed.map (·.id) ↔
      id ∈ taken ++ rules.map (·.id) ∨ ∃ n ∈ renamings, n.current = id := by
  induction h with
  | nil taken => simp
  | keep hfree hrest ih => simpa [or_assoc] using ih
  | @rename taken r rules placed renamings k htaken hfree hrest ih =>
      by_cases hused : id ∈ taken
      · simp [hused]
      · -- the id that the rule came with was in use before
        have hne : id ≠ r.id := fun hsame => hused (hsame ▸ htaken)
        by_cases hsame : id = supply.candidate k
        · simp [hsame]
        · simpa [hused, hne, hsame, Ne.symm hsame] using ih

/-- A rule keeps all but its id, and that too if it is free. -/
theorem exists_getElem? (h : Placing supply taken rules placed renamings) {place : Nat} {r : Rule}
    (hr : rules[place]? = some r) :
    ∃ q, placed[place]? = some q ∧ q = { r with id := q.id } ∧
      (q.id = r.id ↔ r.id ∉ taken ++ (placed.take place).map (·.id)) := by
  induction h generalizing place with
  | nil taken => simp at hr
  | @keep taken p rules placed renamings hfree hrest ih =>
      cases place with
      | zero =>
          obtain rfl : p = r := by simpa using hr
          exact ⟨p, rfl, rfl, by simpa using hfree⟩
      | succ place =>
          obtain ⟨q, hq, hqr, hiff⟩ := ih (by simpa using hr)
          exact ⟨q, by simpa using hq, hqr, by simpa using hiff⟩
  | @rename taken p rules placed renamings k htaken hfree hrest ih =>
      cases place with
      | zero =>
          obtain rfl : p = r := by simpa using hr
          have hne : supply.candidate k ≠ p.id := fun hsame => hfree (hsame ▸ htaken)
          exact ⟨_, rfl, rfl, by simpa [hne] using htaken⟩
      | succ place =>
          obtain ⟨q, hq, hqr, hiff⟩ := ih (by simpa using hr)
          exact ⟨q, by simpa using hq, hqr, by simpa using hiff⟩

end Placing

/-! ### Which rules are renamed -/

/-- When the supply is varied enough, every rule gets an id. -/
theorem replace_isSome {rules : List Rule} {supply : Supply} (h : supply.Varied rules.length) :
    (replace rules supply).isSome = true :=
  appendAll_isSome h (by simp [empty])

/-- **Which rules are renamed** when rules take the place of all others.

They are placed whenever each search tries as many different ids as there are rules.  Then they are
as many as before, in the same order, and their ids are different.  Each of them is the rule that
was given, but for its id.  That stays exactly when no earlier rule came with it and no earlier rule
was renamed to it.  So it is the repeated ids alone that are replaced, as long as no rule is renamed
to an id with which another one came. -/
theorem replace_renames (rules : List Rule) (supply : Supply) :
    (supply.Varied rules.length → (replace rules supply).isSome = true) ∧
    ∀ next renamings rest, replace rules supply = some (next, renamings, rest) →
      next.rules.length = rules.length ∧ next.ids.Nodup ∧
      renamings = renamingsOf rules next.rules ∧
      (∀ n ∈ renamings, ∃ k, n.current = supply.candidate k) ∧
      (∀ place r, rules[place]? = some r → ∃ q, next.rules[place]? = some q ∧
        q = { r with id := q.id } ∧
        (q.id = r.id ↔ r.id ∉ (rules.take place).map (·.id) ∧
          ∀ n ∈ renamingsOf (rules.take place) (next.rules.take place), n.current ≠ r.id)) ∧
      ((∀ n ∈ renamings, n.current ∉ rules.map (·.id)) → ∀ place r q,
        rules[place]? = some r → next.rules[place]? = some q →
          (q.id = r.id ↔ r.id ∉ (rules.take place).map (·.id))) := by
  refine ⟨replace_isSome, ?_⟩
  intro next renamings rest hreplace
  obtain ⟨placed, hplaced, hplacing⟩ := appendAll_placing (.refl supply) hreplace
  obtain rfl : next.rules = placed := hplaced
  have hkeeps : ∀ place r, rules[place]? = some r → ∃ q, next.rules[place]? = some q ∧
      q = { r with id := q.id } ∧ (q.id = r.id ↔ r.id ∉ (rules.take place).map (·.id) ∧
        ∀ n ∈ renamingsOf (rules.take place) (next.rules.take place), n.current ≠ r.id) := by
    intro place r hr
    obtain ⟨q, hq, hqr, hiff⟩ := hplacing.exists_getElem? hr
    obtain ⟨first, hfirst⟩ := hplacing.take place
    rw [hfirst.mem_ids_iff, hfirst.renamings_eq] at hiff
    exact ⟨q, hq, hqr, by simpa [ids, empty] using hiff⟩
  refine ⟨hplacing.length_eq, hplacing.nodup List.nodup_nil, hplacing.renamings_eq,
    hplacing.exists_candidate, hkeeps, ?_⟩
  intro hforeign place r q hr hq
  obtain ⟨q', hq', -, hiff⟩ := hkeeps place r hr
  obtain rfl : q' = q := Option.some.inj (hq'.symm.trans hq)
  rw [hiff, and_iff_left]
  intro n hn hsame
  have hmem : n ∈ renamings := by
    -- what was renamed in the front is among all that was renamed
    rw [renamingsOf, List.zip, ← List.take_zipWith] at hn
    rw [hplacing.renamings_eq]
    exact ((List.take_sublist place _).filterMap _).subset hn
  exact hforeign n hmem (hsame ▸ List.mem_map_of_mem (List.mem_of_getElem? hr))

/-- Three rules of which the last one has the id of the first. -/
def repeated : List Rule := [Rule.blank "a", Rule.blank "b", Rule.blank "a"]

theorem replace_renames_repeated :
    (Supply.counting 0 3).Varied repeated.length ∧
      ∃ next renamings rest, replace repeated (Supply.counting 0 3) = some (next, renamings, rest) ∧
        next.rules.length = 3 ∧ next.ids.Nodup ∧ renamings = [⟨"a", "22222222"⟩] ∧
        (∃ q, next.rules[1]? = some q ∧ q = { Rule.blank "b" with id := q.id } ∧ q.id = "b") ∧
        ∃ q, next.rules[2]? = some q ∧ q = { Rule.blank "a" with id := q.id } ∧ q.id ≠ "a" := by
  have hvaried : (Supply.counting 0 3).Varied repeated.length :=
    Supply.counting_varied 0 (by decide)
  obtain ⟨hplaced, hspec⟩ := replace_renames repeated (Supply.counting 0 3)
  obtain ⟨⟨next, renamings, rest⟩, hreplace⟩ := Option.isSome_iff_exists.1 (hplaced hvaried)
  obtain ⟨hlength, hids, -, -, hkeeps, hforeign⟩ := hspec next renamings rest hreplace
  have hrenamings : (replace repeated (Supply.counting 0 3)).map (fun replaced => replaced.2.1) =
      some [⟨"a", "22222222"⟩] := by decide +kernel
  obtain rfl : renamings = [⟨"a", "22222222"⟩] := by
    rw [hreplace] at hrenamings
    exact Option.some.inj hrenamings
  have hiff := hforeign (by decide)
  obtain ⟨second, hsecond, hpart, -⟩ := hkeeps 1 (Rule.blank "b") rfl
  obtain ⟨third, hthird, hpart', -⟩ := hkeeps 2 (Rule.blank "a") rfl
  exact ⟨hvaried, next, _, rest, hreplace, hlength, hids, rfl,
    ⟨second, hsecond, hpart, (hiff 1 _ second rfl hsecond).2 (by decide)⟩,
    third, hthird, hpart', fun hkept => (hiff 2 _ third rfl hthird).1 hkept (by decide)⟩

/-- Two rules with one id, and one whose id happens to be the first that is drawn. -/
def unlucky : List Rule := [Rule.blank "a", Rule.blank "a", Rule.blank "22222222"]

/-- The last rule loses its id, with which no other one came. -/
theorem replace_displaces :
    unlucky[2]?.map (·.id) = some "22222222" ∧ "22222222" ∉ (unlucky.take 2).map (·.id) ∧
      ∃ next renamings rest, replace unlucky (Supply.counting 0 3) = some (next, renamings, rest) ∧
        next.ids = ["a", "22222222", "22222223"] := by
  have hids : (replace unlucky (Supply.counting 0 3)).map (fun replaced => replaced.1.ids) =
      some ["a", "22222222", "22222223"] := by decide +kernel
  obtain ⟨⟨next, renamings, rest⟩, hreplace, hids⟩ := Option.map_eq_some_iff.1 hids
  exact ⟨rfl, by decide, next, renamings, rest, hreplace, hids⟩

end Store

end Admission
