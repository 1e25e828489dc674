import Admission.Proofs.Decision
import Admission.Proofs.Store.Invariant

/-!
# Rules put into an order

Reordering sorts the rules by the places of their ids in a list and numbers them anew.  The sort is
stable and starts from the order of evaluation, so what comes out is the one order in which rules go
by their places and, where these agree, by their former precedence.  Everything else follows: the
numbers are the new order of evaluation, ordering by the same list again changes nothing, and the
rules whose ids are not in the list, which all have one place, stay among themselves as they were.

That place is the number of different texts in the list, while the place of a listed id is the last
one at which it stands.  The two scales agree when the list consists of different texts: then the
rules come in the order of the list, and the others follow.  An id that stands in the list twice, or
something in it that is no text, can push a listed rule behind those that are not listed at all.

Main definitions:

* `Store.Lists` — the rule is named by a list of ids;
* `Rule.unplaced` — a rule apart from its priority.

Main results:

* `Store.rank?_eq_some_iff` — the place of an id is the last one at which it stands;
* `Store.pairwise_ranked` — the order that reordering produces;
* `Store.reorder_separates_iff` — **when the listed rules come before the others**;
* `Store.reorder_places` — **what reordering does to the rules and to decisions**.
-/

set_option autoImplicit false

namespace Admission

theorem Value.isStr_iff {v : Value} {s : String} : v.isStr s = true ↔ v = .str s := by
  cases v <;> simp [Value.isStr]

/-- The rule apart from its priority. -/
def Rule.unplaced (r : Rule) : Rule := { r with priority := 0 }

namespace Store

/-! ### Places in a list -/

@[simp] theorem rank?_nil (id : String) : rank? [] id = none := rfl

/-- One more element takes the place of the id that it is. -/
theorem rank?_concat (ids : List Value) (v : Value) (id : String) :
    rank? (ids ++ [v]) id = if v.isStr id then some ids.length else rank? ids id := by
  have hplaces : places (ids ++ [v]) =
      places ids ++ (v.str?.map fun text => (text, ids.length)).toList := by
    rw [places, List.zipIdx_append, List.filterMap_append]
    cases v <;> simp [places, Value.str?]
  rw [rank?, hplaces, List.reverse_append, List.lookup_append, ← rank?]
  cases v with
  | str text =>
      by_cases h : text = id
      · simp [Value.str?, Value.isStr, h]
      · have hne : (id == text) = false := by simpa using fun h' => h h'.symm
        simp [Value.str?, Value.isStr, h, List.lookup_cons, hne]
  | _ => rfl

/-- The place of an id is the last one at which it stands. -/
theorem rank?_eq_some_iff {ids : List Value} {id : String} {place : Nat} :
    rank? ids id = some place ↔
      ids[place]? = some (.str id) ∧ ∀ later : Nat, ids[later]? = some (.str id) → later ≤ place := by
  induction ids using List.reverseRecOn with
  | nil => simp
  | append_singleton ids v ih =>
      have hbound : ∀ n : Nat, (ids ++ [v])[n]? = some (.str id) → n ≤ ids.length := by
        intro n hn
        have hlt := (List.getElem?_eq_some_iff.1 hn).1
        rw [List.length_append, List.length_singleton] at hlt
        omega
      rw [rank?_concat]
      by_cases hv : v = .str id
      · rw [if_pos (Value.isStr_iff.2 hv), Option.some_inj]
        constructor
        · rintro rfl
          exact ⟨by simp [hv], hbound⟩
        · rintro ⟨hplace, hlast⟩
          exact Nat.le_antisymm (hlast ids.length (by simp [hv])) (hbound place hplace)
      · -- the last element is another one, so the places are those before it
        have hsame : ∀ n : Nat, (ids ++ [v])[n]? = some (.str id) ↔ ids[n]? = some (.str id) := by
          intro n
          rcases Nat.lt_trichotomy n ids.length with hn | rfl | hn
          · rw [List.getElem?_append_left hn]
          · simpa using hv
          · rw [List.getElem?_eq_none (by simp; omega), List.getElem?_eq_none (by omega)]
        rw [if_neg (fun h => hv (Value.isStr_iff.1 h)), ih]
        simp only [hsame]

/-- The id of the rule stands in the list. -/
def Lists (ids : List Value) (r : Rule) : Bool := ids.any (·.isStr r.id)

theorem lists_iff {ids : List Value} {r : Rule} : Lists ids r = true ↔ Value.str r.id ∈ ids := by
  simp only [Lists, List.any_eq_true, Value.isStr_iff]
  exact ⟨fun ⟨v, hv, heq⟩ => heq ▸ hv, fun h => ⟨_, h, rfl⟩⟩

theorem lists_congr {ids : List Value} {a b : Rule} (h : a.id = b.id) :
    Lists ids a = Lists ids b := by
  rw [Lists, Lists, h]

/-- The ids that do not stand in the list are those without a place. -/
theorem rank?_eq_none_iff {ids : List Value} {id : String} :
    rank? ids id = none ↔ Value.str id ∉ ids := by
  induction ids using List.reverseRecOn with
  | nil => simp
  | append_singleton ids v ih =>
      rw [rank?_concat]
      by_cases hv : v = .str id
      · simp [hv, Value.isStr]
      · rw [if_neg (fun h => hv (Value.isStr_iff.1 h)), ih]
        simp [Ne.symm hv]

/-- All rules that are not listed have one place. -/
theorem rankOf_of_not_lists {ids : List Value} {r : Rule} (h : Lists ids r = false) :
    rankOf ids r = unranked ids := by
  have hnone : rank? ids r.id = none := by
    rw [rank?_eq_none_iff, ← lists_iff, h]
    exact Bool.false_ne_true
  rw [rankOf, hnone, Option.getD_none]

/-! ### Numbered rules -/

theorem length_numbered (rules : List Rule) : (numbered rules).length = rules.length := by
  simp [numbered]

/-- The rule at a place, with the place as its priority. -/
theorem getElem_numbered {rules : List Rule} {place : Nat}
    (h : place < (numbered rules).length) (h' : place < rules.length) :
    (numbered rules)[place] = { rules[place] with priority := (place : Int) } := by
  simp [numbered]

theorem numbered_priorities (rules : List Rule) :
    (numbered rules).map (·.priority) = (List.range rules.length).map fun n : Nat => (n : Int) := by
  refine List.ext_getElem (by simp [length_numbered]) ?_
  intro place _ hplace
  have hlt : place < rules.length := by simpa using hplace
  rw [List.getElem_map, getElem_numbered _ hlt]
  simp

theorem numbered_unplaced (rules : List Rule) :
    (numbered rules).map Rule.unplaced = rules.map Rule.unplaced := by
  refine List.ext_getElem (by simp [length_numbered]) ?_
  intro place _ hplace
  have hlt : place < rules.length := by simpa using hplace
  rw [List.getElem_map, getElem_numbered _ hlt, List.getElem_map]
  rfl

/-- Numbers that were given before do not matter. -/
theorem numbered_numbered (rules : List Rule) : numbered (numbered rules) = numbered rules := by
  refine List.ext_getElem (by simp [length_numbered]) ?_
  intro place hplace hplace'
  have hlt : place < rules.length := by rwa [length_numbered] at hplace'
  rw [getElem_numbered hplace hplace', getElem_numbered hplace' hlt]

/-- The priorities of numbered rules are their places. -/
theorem priority_numbered {rules : List Rule} {place : Nat}
    (h : place < (numbered rules).length) : (numbered rules)[place].priority = (place : Int) := by
  rw [getElem_numbered h (length_numbered rules ▸ h)]

/-- Of two numbered rules with different ids, the one that stands first precedes the other. -/
theorem precedes_numbered {rules : List Rule} {i j : Nat} (hi : i < (numbered rules).length)
    (hj : j < (numbered rules).length) (hid : (numbered rules)[i].id ≠ (numbered rules)[j].id) :
    (numbered rules)[i].precedes (numbered rules)[j] = true ↔ i < j := by
  have hne : i ≠ j := by
    rintro rfl
    exact hid rfl
  rw [Rule.precedes_iff, priority_numbered, priority_numbered]
  omega

/-- Numbered rules stand in the order of evaluation. -/
theorem sort_numbered (rules : List Rule) : Rule.sort (numbered rules) = numbered rules := by
  refine List.mergeSort_of_pairwise (List.pairwise_iff_getElem.2 ?_)
  intro i j hi hj hij
  rw [Rule.precedes_iff, priority_numbered, priority_numbered]
  omega

/-! ### The order of the places -/

/-- The rules in the order of evaluation, sorted by the places of their ids. -/
def ranked (s : Store) (ids : List Value) : List Rule :=
  s.sorted.mergeSort fun a b => rankOf ids a ≤ rankOf ids b

theorem reorder_eq {s : Store} {v : Value} {ids : List Value} (hv : v.items? = some ids) :
    s.reorder v = some ⟨numbered (s.ranked ids)⟩ := by
  rw [reorder, hv]
  rfl

theorem rankOf_le_trans (ids : List Value) (a b c : Rule)
    (hab : decide (rankOf ids a ≤ rankOf ids b) = true)
    (hbc : decide (rankOf ids b ≤ rankOf ids c) = true) :
    decide (rankOf ids a ≤ rankOf ids c) = true :=
  decide_eq_true (Nat.le_trans (of_decide_eq_true hab) (of_decide_eq_true hbc))

theorem rankOf_le_total (ids : List Value) (a b : Rule) :
    (decide (rankOf ids a ≤ rankOf ids b) || decide (rankOf ids b ≤ rankOf ids a)) = true := by
  rw [Bool.or_eq_true, decide_eq_true_eq, decide_eq_true_eq]
  exact Nat.le_total _ _

section Ranked

variable (s : Store) (ids : List Value)

theorem ranked_perm_sorted : (s.ranked ids).Perm s.sorted := List.mergeSort_perm _ _

theorem ranked_perm : (s.ranked ids).Perm s.rules :=
  (s.ranked_perm_sorted ids).trans (Rule.sort_perm s.rules)

theorem pairwise_rankOf : (s.ranked ids).Pairwise fun a b => rankOf ids a ≤ rankOf ids b :=
  (List.pairwise_mergeSort (rankOf_le_trans ids) (rankOf_le_total ids) s.sorted).imp
    of_decide_eq_true

/-- Rules of one place stay as they stood. -/
theorem filter_ranked_eq (p : Rule → Bool) (place : Nat)
    (hp : ∀ r, p r = true → rankOf ids r = place) :
    (s.ranked ids).filter p = s.sorted.filter p := by
  have hsame : (s.sorted.filter p).Pairwise fun a b =>
      decide (rankOf ids a ≤ rankOf ids b) = true := by
    refine List.pairwise_of_forall_mem_list ?_
    intro a ha b hb
    rw [hp a (List.mem_filter.1 ha).2, hp b (List.mem_filter.1 hb).2]
    exact decide_eq_true (Nat.le_refl place)
  have hsub : (s.sorted.filter p).Sublist (s.ranked ids) :=
    List.sublist_mergeSort (rankOf_le_trans ids) (rankOf_le_total ids) hsame List.filter_sublist
  have hkept : (s.sorted.filter p).Sublist ((s.ranked ids).filter p) := by
    simpa only [List.filter_filter, Bool.and_self] using hsub.filter p
  exact (hkept.eq_of_length ((s.ranked_perm_sorted ids).filter p).length_eq.symm).symm

/-- The rules go by their places and, where these agree, by their former precedence. -/
theorem pairwise_ranked : (s.ranked ids).Pairwise fun a b =>
    rankOf ids a < rankOf ids b ∨ rankOf ids a = rankOf ids b ∧ a.precedes b = true := by
  rw [List.pairwise_iff_forall_sublist]
  intro a b hab
  have hle : rankOf ids a ≤ rankOf ids b :=
    List.pairwise_iff_forall_sublist.1 (s.pairwise_rankOf ids) hab
  rcases Nat.lt_or_eq_of_le hle with hlt | heq
  · exact .inl hlt
  · -- among the rules of this place, the two stand as they stood in the order of evaluation
    let p : Rule → Bool := fun r => rankOf ids r == rankOf ids b
    have hkept : [a, b].Sublist ((s.ranked ids).filter p) := by
      have := hab.filter p
      rwa [List.filter_eq_self.2 (by simp [p, heq])] at this
    rw [s.filter_ranked_eq ids p (rankOf ids b) (by simp [p])] at hkept
    have hsorted : [a, b].Sublist s.sorted := hkept.trans List.filter_sublist
    exact .inr ⟨heq, List.pairwise_iff_forall_sublist.1 (Rule.pairwise_sort s.rules) hsorted⟩

/-- Sorting by the same places again changes nothing. -/
theorem ranked_numbered : ranked ⟨numbered (s.ranked ids)⟩ ids = numbered (s.ranked ids) := by
  have hplaces : (numbered (s.ranked ids)).Pairwise fun a b =>
      decide (rankOf ids a ≤ rankOf ids b) = true := by
    rw [List.pairwise_iff_getElem]
    intro i j hi hj hij
    have hi' : i < (s.ranked ids).length := length_numbered (s.ranked ids) ▸ hi
    have hj' : j < (s.ranked ids).length := length_numbered (s.ranked ids) ▸ hj
    rw [getElem_numbered hi hi', getElem_numbered hj hj']
    exact decide_eq_true (List.pairwise_iff_getElem.1 (s.pairwise_rankOf ids) i j hi' hj' hij)
  rw [ranked, sorted, sort_numbered]
  exact List.mergeSort_of_pairwise hplaces

end Ranked

/-! ### Listed rules and the others -/

theorem filter_unplaced {p : Rule → Bool} (hp : ∀ r, p r.unplaced = p r) (rules : List Rule) :
    (rules.filter p).map Rule.unplaced = (rules.map Rule.unplaced).filter p := by
  have hsame : p ∘ Rule.unplaced = p := funext hp
  rw [List.filter_map, hsame]

section Separation

variable {s : Store} {ids : List Value}

theorem id_ne_of_lists {a b : Rule} (ha : Lists ids a = true) (hb : Lists ids b = false) :
    a.id ≠ b.id := by
  intro hid
  rw [lists_congr hid, hb] at ha
  cases ha

/-- A listed rule is sorted before one that is not listed when its place is below theirs, or when
the two places agree and it came before the other. -/
theorem ranked_lt_iff {i j : Nat} (hi : i < (s.ranked ids).length) (hj : j < (s.ranked ids).length)
    (ha : Lists ids (s.ranked ids)[i] = true) (hb : Lists ids (s.ranked ids)[j] = false) :
    i < j ↔ rankOf ids (s.ranked ids)[i] < unranked ids ∨
      rankOf ids (s.ranked ids)[i] = unranked ids ∧
        (s.ranked ids)[i].precedes (s.ranked ids)[j] = true := by
  have horder := List.pairwise_iff_getElem.1 (s.pairwise_ranked ids)
  have hplace := rankOf_of_not_lists hb
  constructor
  · intro hij
    rw [← hplace]
    exact horder i j hi hj hij
  · intro hbefore
    rcases Nat.lt_trichotomy i j with hij | rfl | hji
    · exact hij
    · rw [ha] at hb
      cases hb
    · -- the other rule stands first, so neither its place nor its precedence comes after
      have hother := horder j i hj hi hji
      rw [hplace] at hother
      rcases hother with hother | ⟨hother, hprecedes⟩
      · omega
      · rcases hbefore with hbefore | ⟨_, hbefore⟩
        · omega
        · exact absurd (Rule.id_eq_of_precedes hbefore hprecedes) (id_ne_of_lists ha hb)

/-- The same, after the rules have been numbered. -/
theorem precedes_numbered_ranked_iff {i j : Nat} (hi : i < (s.ranked ids).length)
    (hj : j < (s.ranked ids).length) (hi' : i < (numbered (s.ranked ids)).length)
    (hj' : j < (numbered (s.ranked ids)).length) (ha : Lists ids (s.ranked ids)[i] = true)
    (hb : Lists ids (s.ranked ids)[j] = false) :
    (numbered (s.ranked ids))[i].precedes (numbered (s.ranked ids))[j] = true ↔
      rankOf ids (s.ranked ids)[i] < unranked ids ∨
      rankOf ids (s.ranked ids)[i] = unranked ids ∧
        (s.ranked ids)[i].precedes (s.ranked ids)[j] = true := by
  have hid : (numbered (s.ranked ids))[i].id ≠ (numbered (s.ranked ids))[j].id := by
    rw [getElem_numbered hi' hi, getElem_numbered hj' hj]
    exact id_ne_of_lists ha hb
  rw [precedes_numbered hi' hj' hid]
  exact ranked_lt_iff hi hj ha hb

end Separation

/-- Reordering by a list puts the listed rules before the others exactly when, for each listed rule,
the last place of its id is below the number of different texts in the list, or is that number and
the rule came before the others anyway.  The others keep their order in any case. -/
theorem reorder_separates_iff (s : Store) (v : Value) (ids : List Value)
    (hv : v.items? = some ids) :
    ∃ next, s.reorder v = some next ∧
      (next.sorted.filter fun r => !Lists ids r).map Rule.unplaced =
        (s.sorted.filter fun r => !Lists ids r).map Rule.unplaced ∧
      ((∀ a ∈ next.rules, ∀ b ∈ next.rules, Lists ids a = true → Lists ids b = false →
          a.precedes b = true) ↔
        ∀ a ∈ s.rules, ∀ b ∈ s.rules, Lists ids a = true → Lists ids b = false →
          rankOf ids a < unranked ids ∨ rankOf ids a = unranked ids ∧ a.precedes b = true) := by
  refine ⟨_, reorder_eq hv, ?_, ?_⟩
  · have hothers : (s.ranked ids).filter (fun r => !Lists ids r) =
        s.sorted.filter fun r => !Lists ids r :=
      s.filter_ranked_eq ids _ (unranked ids) fun r hr => rankOf_of_not_lists (by simpa using hr)
    rw [sorted, sort_numbered, filter_unplaced (fun _ => rfl), numbered_unplaced,
      ← filter_unplaced (fun _ => rfl), hothers]
  · constructor
    · intro hnext a ha b hb hla hlb
      -- who comes first among the numbered rules is decided by their places in the ranked list
      obtain ⟨i, hi, rfl⟩ := List.mem_iff_getElem.1 ((s.ranked_perm ids).mem_iff.2 ha)
      obtain ⟨j, hj, rfl⟩ := List.mem_iff_getElem.1 ((s.ranked_perm ids).mem_iff.2 hb)
      have hi' : i < (numbered (s.ranked ids)).length := (length_numbered _).symm ▸ hi
      have hj' : j < (numbered (s.ranked ids)).length := (length_numbered _).symm ▸ hj
      have hprecedes := hnext _ (List.getElem_mem hi') _ (List.getElem_mem hj')
        (by rwa [getElem_numbered hi' hi]) (by rwa [getElem_numbered hj' hj])
      exact (precedes_numbered_ranked_iff hi hj hi' hj' hla hlb).1 hprecedes
    · intro hbefore a ha b hb hla hlb
      obtain ⟨i, hi', rfl⟩ := List.mem_iff_getElem.1 ha
      obtain ⟨j, hj', rfl⟩ := List.mem_iff_getElem.1 hb
      have hi : i < (s.ranked ids).length := length_numbered (s.ranked ids) ▸ hi'
      have hj : j < (s.ranked ids).length := length_numbered (s.ranked ids) ▸ hj'
      rw [getElem_numbered hi' hi] at hla
      rw [getElem_numbered hj' hj] at hlb
      refine (precedes_numbered_ranked_iff hi hj hi' hj' hla hlb).2 ?_
      exact hbefore _ ((s.ranked_perm ids).mem_iff.1 (List.getElem_mem hi)) _
        ((s.ranked_perm ids).mem_iff.1 (List.getElem_mem hj)) hla hlb

/-- A rule, and one that is evaluated after it. -/
def twoRules : Store := ⟨[Rule.blank "b", { Rule.blank "a" with priority := 1 }]⟩

theorem reorder_separates_iff_twoRules :
    (Value.ofList [.str "a"]).items? = some [.str "a"] ∧
      ∃ next, twoRules.reorder (.ofList [.str "a"]) = some next ∧
        ∀ a ∈ next.rules, ∀ b ∈ next.rules, Lists [.str "a"] a = true →
          Lists [.str "a"] b = false → a.precedes b = true := by
  obtain ⟨next, hnext, -, hseparates⟩ :=
    reorder_separates_iff twoRules (.ofList [.str "a"]) [.str "a"] rfl
  refine ⟨rfl, next, hnext, hseparates.2 ?_⟩
  have hplaces : ∀ a ∈ twoRules.rules, Lists [.str "a"] a = true →
      rankOf [.str "a"] a < unranked [.str "a"] := by decide +kernel
  exact fun a ha _ _ hla _ => .inl (hplaces a ha hla)

/-- The place of an id that stands in the list twice is that of the rules that are not listed, so a
rule of that id stays behind one of these. -/
theorem reorder_repeated_id :
    ∃ next, twoRules.reorder (.ofList [.str "a", .str "a"]) = some next ∧
      next.sorted.map (·.id) = ["b", "a"] := by
  have hsorted : twoRules.sorted = twoRules.rules :=
    List.mergeSort_of_pairwise (by decide +kernel)
  have hranked : twoRules.ranked [.str "a", .str "a"] = twoRules.rules := by
    rw [ranked, hsorted]
    exact List.mergeSort_of_pairwise (by decide +kernel)
  refine ⟨_, reorder_eq rfl, ?_⟩
  rw [sorted, sort_numbered, numbered_ids, hranked]
  rfl

/-! ### Lists of different texts -/

section Texts

variable {texts : List String}

theorem rank?_texts (hnodup : texts.Nodup) {id : String} {place : Nat} :
    rank? (texts.map .str) id = some place ↔ texts[place]? = some id := by
  have hat : ∀ n : Nat, (texts.map Value.str)[n]? = some (.str id) ↔ texts[n]? = some id := by
    intro n
    rw [List.getElem?_map]
    cases texts[n]? <;> simp
  rw [rank?_eq_some_iff, hat]
  refine ⟨fun h => h.1, fun h => ⟨h, fun later hlater => ?_⟩⟩
  obtain ⟨hplace, hid⟩ := List.getElem?_eq_some_iff.1 h
  obtain ⟨hlt, hid'⟩ := List.getElem?_eq_some_iff.1 ((hat later).1 hlater)
  exact Nat.le_of_eq ((hnodup.getElem_inj_iff).1 (hid'.trans hid.symm))

theorem eraseDups_eq_self (hnodup : texts.Nodup) : texts.eraseDups = texts := by
  induction texts with
  | nil => rfl
  | cons text rest ih =>
      obtain ⟨hnew, hrest⟩ := List.nodup_cons.1 hnodup
      have hkept : rest.filter (fun b => !b == text) = rest := by
        refine List.filter_eq_self.2 fun b hb => ?_
        have hne : b ≠ text := fun h => hnew (h ▸ hb)
        simpa using hne
      rw [List.eraseDups_cons, hkept, ih hrest]

theorem unranked_texts (hnodup : texts.Nodup) : unranked (texts.map .str) = texts.length := by
  have htexts : (texts.map Value.str).filterMap Value.str? = texts := by
    rw [List.filterMap_map]
    exact List.filterMap_some
  rw [unranked, htexts, eraseDups_eq_self hnodup]

theorem lists_texts_iff {r : Rule} : Lists (texts.map .str) r = true ↔ r.id ∈ texts := by
  rw [lists_iff]
  simp

/-- The place of a rule is that of its id in the list, and the length of the list when it has
none. -/
theorem rankOf_texts (hnodup : texts.Nodup) (r : Rule) :
    rankOf (texts.map .str) r = texts.idxOf r.id := by
  by_cases hr : r.id ∈ texts
  · have hrank : rank? (texts.map .str) r.id = some (texts.idxOf r.id) :=
      (rank?_texts hnodup).2 (List.getElem?_idxOf hr)
    rw [rankOf, hrank, Option.getD_some]
  · rw [rankOf_of_not_lists (Bool.eq_false_iff.2 fun h => hr (lists_texts_iff.1 h)),
      unranked_texts hnodup, List.idxOf_eq_length_iff.2 hr]

/-- Different texts stand in the order of their places. -/
theorem pairwise_idxOf (hnodup : texts.Nodup) :
    texts.Pairwise fun a b => texts.idxOf a ≤ texts.idxOf b := by
  rw [List.pairwise_iff_getElem]
  intro i j hi hj hij
  rw [hnodup.idxOf_getElem i hi, hnodup.idxOf_getElem j hj]
  exact Nat.le_of_lt hij

end Texts

/-- What a list keeps by a test, and then the others, when all it keeps stands before them. -/
theorem filter_append_filter_not {p : Rule → Bool} {rules : List Rule}
    (h : rules.Pairwise fun a b => p b = true → p a = true) :
    rules.filter p ++ rules.filter (fun r => !p r) = rules := by
  induction rules with
  | nil => rfl
  | cons r rest ih =>
      obtain ⟨hr, hrest⟩ := List.pairwise_cons.1 h
      cases hp : p r with
      | true => simp [hp, ih hrest]
      | false =>
          have hnone : ∀ q ∈ rest, p q = false :=
            fun q hq => Bool.eq_false_iff.2 fun hpq => by simp [hr q hq hpq] at hp
          have hkept : rest.filter p = [] := by simpa [List.filter_eq_nil_iff] using hnone
          have hothers : rest.filter (fun r => !p r) = rest :=
            List.filter_eq_self.2 fun q hq => by rw [hnone q hq]; rfl
          simp [hp, hkept, hothers]

/-- The listed rules come in the order of a list of different texts. -/
theorem filter_ranked_texts {s : Store} {texts : List String} (hids : s.ids.Nodup)
    (hnodup : texts.Nodup) :
    ((s.ranked (texts.map .str)).filter (Lists (texts.map .str))).map (·.id) =
      texts.filter (· ∈ s.ids) := by
  have hperm := (s.ranked_perm (texts.map .str)).map (·.id)
  have hranked : ((s.ranked (texts.map .str)).map (·.id)).Nodup := hperm.nodup_iff.2 hids
  have hmem : ∀ id, id ∈ ((s.ranked (texts.map .str)).filter (Lists (texts.map .str))).map (·.id) ↔
      id ∈ texts.filter (· ∈ s.ids) := by
    intro id
    rw [List.mem_filter, decide_eq_true_eq, ids, ← hperm.mem_iff, List.mem_map, List.mem_map]
    constructor
    · rintro ⟨r, hr, rfl⟩
      obtain ⟨hr, hlists⟩ := List.mem_filter.1 hr
      exact ⟨lists_texts_iff.1 hlists, r, hr, rfl⟩
    · rintro ⟨hid, r, hr, rfl⟩
      exact ⟨r, List.mem_filter.2 ⟨hr, lists_texts_iff.2 hid⟩, rfl⟩
  -- both sides are sorted by places, and different texts have different places
  have hlisted : (((s.ranked (texts.map .str)).filter (Lists (texts.map .str))).map (·.id)).Pairwise
      fun a b => texts.idxOf a ≤ texts.idxOf b := by
    rw [List.pairwise_map]
    refine ((s.pairwise_rankOf (texts.map .str)).filter _).imp ?_
    intro a b hab
    rwa [rankOf_texts hnodup, rankOf_texts hnodup] at hab
  have htexts : (texts.filter (· ∈ s.ids)).Pairwise fun a b => texts.idxOf a ≤ texts.idxOf b :=
    (pairwise_idxOf hnodup).filter _
  refine List.Perm.eq_of_pairwise ?_ hlisted htexts ?_
  · intro a b ha _ hab hba
    exact (List.idxOf_inj (List.mem_filter.1 ((hmem a).1 ha)).1).1 (Nat.le_antisymm hab hba)
  · exact (List.perm_ext_iff_of_nodup (hranked.sublist (List.filter_sublist.map _))
      (hnodup.filter _)).2 hmem

/-- After a list of different texts, the ids are those of the list that are in use, and then the
others in the order of evaluation. -/
theorem ids_ranked_texts {s : Store} {texts : List String} (hids : s.ids.Nodup)
    (hnodup : texts.Nodup) :
    (s.ranked (texts.map .str)).map (·.id) =
      texts.filter (· ∈ s.ids) ++ (s.sorted.map (·.id)).filter (· ∉ texts) := by
  have hseparated : (s.ranked (texts.map .str)).Pairwise fun a b =>
      Lists (texts.map .str) b = true → Lists (texts.map .str) a = true := by
    refine (s.pairwise_rankOf (texts.map .str)).imp ?_
    intro a b hab hb
    by_contra ha
    have hlt := List.idxOf_lt_length_iff.2 (lists_texts_iff.1 hb)
    rw [rankOf_of_not_lists (Bool.eq_false_iff.2 ha), unranked_texts hnodup,
      rankOf_texts hnodup] at hab
    omega
  have hothers : ((s.ranked (texts.map .str)).filter fun r => !Lists (texts.map .str) r).map (·.id) =
      (s.sorted.map (·.id)).filter (· ∉ texts) := by
    rw [s.filter_ranked_eq (texts.map .str) _ (unranked (texts.map .str)) fun r hr =>
      rankOf_of_not_lists (by simpa using hr), List.filter_map]
    congr 1
    refine List.filter_congr fun r _ => ?_
    by_cases hr : r.id ∈ texts
    · simp [hr, lists_texts_iff.2 hr]
    · simp [hr, Bool.eq_false_iff.2 fun h => hr (lists_texts_iff.1 h)]
  rw [← filter_append_filter_not hseparated, List.map_append, filter_ranked_texts hids hnodup,
    hothers]

/-! ### What reordering does -/

/-- Rules that stand in the order of evaluation are tried as they stand. -/
theorem forEvent_of_sorted {rules : List Rule} (hsorted : Rule.sort rules = rules) (vars : Fields)
    (kind : TargetKind) (stage : String) :
    Decision.forEvent rules vars kind stage =
      firstMatch stage vars (rules.filter (Rule.applies kind vars)) := by
  rw [Decision.forEvent, hsorted]

section Sorted

variable {rules : List Rule} (hsorted : Rule.sort rules = rules) (vars : Fields) (kind : TargetKind)
  (stage : String)

include hsorted

/-- The first rule of the sequence that applies and whose condition holds decides. -/
theorem forEvent_of_sorted_append {before after : List Rule} {w : Rule}
    (hrules : rules = before ++ w :: after)
    (hbefore : ∀ r ∈ before, r.applies kind vars = true → r.matchesEvent vars = .ok false)
    (happlies : w.applies kind vars = true) (hmatches : w.matchesEvent vars = .ok true) :
    (Decision.forEvent rules vars kind stage).2 = .ok (.ofRule w) := by
  rw [forEvent_of_sorted hsorted, hrules, List.filter_append,
    List.filter_cons_of_pos happlies, firstMatch_append stage vars _ w _ ?_ hmatches]
  intro r hr
  obtain ⟨hmem, hr⟩ := List.mem_filter.1 hr
  exact hbefore r hmem hr

/-- When no rule of the sequence applies and holds, the event is allowed. -/
theorem forEvent_of_sorted_none
    (hnone : ∀ r ∈ rules, r.applies kind vars = true → r.matchesEvent vars = .ok false) :
    (Decision.forEvent rules vars kind stage).2 = .ok .allowed := by
  rw [forEvent_of_sorted hsorted, firstMatch_of_forall_false stage vars _ ?_]
  intro r hr
  obtain ⟨hmem, hr⟩ := List.mem_filter.1 hr
  exact hnone r hmem hr

end Sorted

/-- Reordering keeps the rules but for their priorities, which are the places in the list from zero
on.  So the list is in the order of evaluation, and reordering it in the same way again changes
nothing.  By a list of different texts, the rules that are named come first, in the order of the
list, and then the others as they were.  A decision is that of the first rule of this sequence that
applies and whose condition holds. -/
theorem reorder_places (s : Store) (hids : s.ids.Nodup) (v : Value) (ids : List Value)
    (hv : v.items? = some ids) :
    ∃ next, s.reorder v = some next ∧
      (next.rules.map Rule.unplaced).Perm (s.rules.map Rule.unplaced) ∧
      next.rules.map (·.priority) = (List.range s.rules.length).map (fun n : Nat => (n : Int)) ∧
      next.sorted = next.rules ∧
      next.reorder v = some next ∧
      (∀ texts : List String, ids = texts.map .str → texts.Nodup →
        next.ids = texts.filter (· ∈ s.ids) ++ (s.sorted.map (·.id)).filter (· ∉ texts)) ∧
      ∀ (vars : Fields) (kind : TargetKind) (stage : String),
        (∀ before w after, next.rules = before ++ w :: after →
          (∀ r ∈ before, r.applies kind vars = true → r.matchesEvent vars = .ok false) →
          w.applies kind vars = true → w.matchesEvent vars = .ok true →
          (Decision.forEvent next.rules vars kind stage).2 = .ok (.ofRule w)) ∧
        ((∀ r ∈ next.rules, r.applies kind vars = true → r.matchesEvent vars = .ok false) →
          (Decision.forEvent next.rules vars kind stage).2 = .ok .allowed) := by
  have hsorted : Rule.sort (numbered (s.ranked ids)) = numbered (s.ranked ids) :=
    sort_numbered _
  refine ⟨_, reorder_eq hv, ?_, ?_, hsorted, ?_, ?_, ?_⟩
  · rw [numbered_unplaced]
    exact (s.ranked_perm ids).map _
  · rw [numbered_priorities, (s.ranked_perm ids).length_eq]
  · rw [reorder_eq hv, ranked_numbered, numbered_numbered]
  · rintro texts rfl hnodup
    rw [Store.ids, numbered_ids, ids_ranked_texts hids hnodup]
  · intro vars kind stage
    exact ⟨fun _ _ _ hrules => forEvent_of_sorted_append hsorted vars kind stage hrules,
      forEvent_of_sorted_none hsorted vars kind stage⟩

/-- Three rules of one priority, in the order of their ids. -/
def threeRules : Store :=
  ⟨[Rule.blank "a", { Rule.blank "b" with target := .commands ["stop"] }, Rule.blank "c"]⟩

theorem reorder_places_threeRules :
    threeRules.ids.Nodup ∧
      (Value.tuple none [.str "c", .str "x", .str "a"]).items? =
        some [.str "c", .str "x", .str "a"] ∧
      ∃ next, threeRules.reorder (.tuple none [.str "c", .str "x", .str "a"]) = some next ∧
        next.ids = ["c", "a", "b"] ∧ next.rules.map (·.priority) = [0, 1, 2] ∧
        next.reorder (.tuple none [.str "c", .str "x", .str "a"]) = some next := by
  have hids : threeRules.ids.Nodup := by decide +kernel
  have hsorted : threeRules.sorted = threeRules.rules :=
    List.mergeSort_of_pairwise (by decide +kernel)
  obtain ⟨next, hnext, -, hpriorities, -, hagain, htexts, -⟩ :=
    reorder_places threeRules hids (.tuple none [.str "c", .str "x", .str "a"]) _ rfl
  have horder := htexts ["c", "x", "a"] rfl (by decide +kernel)
  rw [hsorted] at horder
  exact ⟨hids, rfl, next, hnext, horder, hpriorities, hagain⟩

end Store

end Admission
