import Admission.Rule.Supply
import Mathlib.Data.Finset.Card
import Mathlib.Data.Nat.Find
import Mathlib.Data.Nat.ModEq

/-!
# Searching for a free id

When an id must not be in use, ids are drawn one after the other until one is free.  What is run
gives up after a number of tries.  The search itself knows no such limit, and need not end: it is
described here by a relation, and what is run agrees with it as far as its tries reach.

A supply whose ids spell consecutive numbers in base 31 repeats itself only after `31 ^ 8` ids.  As
long as fewer ids are in use, one of the first candidates is free, and there are no more of these
than one for each id in use and one beyond.

Main definitions:

* `Supply.candidate`, `Supply.later` — the id after a number of others, and what is left then;
* `Supply.Finds` — the search without a limit;
* `Supply.spelling`, `Supply.Counts` — the id of a number, and supplies whose ids are consecutive.

Main results:

* `Supply.Finds.search_eq`, `Supply.search_eq_some_iff` — what is found within a number of tries;
* `Supply.exists_finds_of_free` — the search ends with the first candidate that is free;
* `Supply.reading_spelling` — the letters of an id amount to its number;
* `Supply.Counts.exists_finds` — **the search ends when the ids are consecutive**.
-/

set_option autoImplicit false

namespace Admission.Supply

/-! ### Ids drawn one after the other -/

/-- The id that is drawn after a number of others. -/
def candidate : Supply → Nat → String
  | s, 0 => s.drawId.1
  | s, k + 1 => candidate s.drawId.2 k

/-- What is left when a number of ids have been drawn. -/
def later (s : Supply) (count : Nat) : Supply := { s with drawn := s.drawn + count * idLength }

variable {s : Supply} {taken : List String}

theorem drawId_snd (s : Supply) : s.drawId.2 = s.later 1 := by
  rw [later, Nat.one_mul]
  rfl

theorem later_drawId (s : Supply) (count : Nat) : s.drawId.2.later count = s.later (count + 1) := by
  have hdrawn : s.drawn + 1 * idLength + count * idLength = s.drawn + (count + 1) * idLength := by
    rw [Nat.add_assoc, ← Nat.add_mul, Nat.add_comm 1]
  simp only [drawId_snd, later, hdrawn]

theorem candidate_eq (s : Supply) (k : Nat) :
    s.candidate k = String.ofList ((List.range idLength).map fun place =>
      s.letter (s.drawn + k * idLength + place)) := by
  induction k generalizing s with
  | zero => simp [candidate, drawId, draw]
  | succ k ih =>
      have hdrawn : s.drawId.2.drawn + k * idLength = s.drawn + (k + 1) * idLength := by
        simp only [drawId, draw, idLength]
        omega
      rw [candidate, ih, hdrawn]
      rfl

theorem candidate_later (s : Supply) (m k : Nat) :
    (s.later m).candidate k = s.candidate (m + k) := by
  simp only [candidate_eq, later, Nat.add_mul, Nat.add_assoc]

/-! ### The search -/

/-- The search for an id that is not in use, without a limit: how many ids are drawn, the one that
is found, and what is left then. -/
inductive Finds (taken : List String) : Supply → Nat → String × Supply → Prop where
  | free {s : Supply} (hfree : s.drawId.1 ∉ taken) : Finds taken s 1 s.drawId
  | again {s : Supply} {count : Nat} {found : String × Supply} (htaken : s.drawId.1 ∈ taken)
      (hrest : Finds taken s.drawId.2 count found) : Finds taken s (count + 1) found

theorem search_of_mem (htaken : s.drawId.1 ∈ taken) (tries : Nat) :
    search taken (tries + 1) s = search taken tries s.drawId.2 := by
  simp only [search, List.contains_iff_mem.2 htaken, if_true]

theorem search_of_not_mem (hfree : s.drawId.1 ∉ taken) (tries : Nat) :
    search taken (tries + 1) s = some s.drawId := by
  simp only [search, List.contains_iff_mem, hfree, if_false]

/-- What is found without a limit is found as soon as enough tries are allowed, and nothing is found
with fewer. -/
theorem Finds.search_eq {count : Nat} {found : String × Supply} (h : Finds taken s count found)
    (tries : Nat) : search taken tries s = if count ≤ tries then some found else none := by
  induction h generalizing tries with
  | free hfree =>
      cases tries with
      | zero => rfl
      | succ tries => rw [search_of_not_mem hfree, if_pos (Nat.succ_le_succ (Nat.zero_le tries))]
  | again htaken hrest ih =>
      cases tries with
      | zero => rfl
      | succ tries => simp only [search_of_mem htaken, ih, Nat.add_le_add_iff_right]

/-- What is found within a number of tries is what is found without a limit. -/
theorem search_eq_some_iff {tries : Nat} {found : String × Supply} :
    search taken tries s = some found ↔ ∃ count ≤ tries, Finds taken s count found := by
  constructor
  · intro h
    induction tries generalizing s with
    | zero => cases h
    | succ tries ih =>
        by_cases htaken : s.drawId.1 ∈ taken
        · rw [search_of_mem htaken] at h
          obtain ⟨count, hcount, hrest⟩ := ih h
          exact ⟨count + 1, Nat.succ_le_succ hcount, .again htaken hrest⟩
        · rw [search_of_not_mem htaken] at h
          cases h
          exact ⟨1, Nat.succ_le_succ (Nat.zero_le tries), .free htaken⟩
  · rintro ⟨count, hcount, hfinds⟩
    rw [hfinds.search_eq, if_pos hcount]

/-- The first candidate that is not in use is found, and those up to it have been drawn. -/
theorem finds_of_first {k : Nat} (htaken : ∀ i < k, s.candidate i ∈ taken)
    (hfree : s.candidate k ∉ taken) :
    Finds taken s (k + 1) (s.candidate k, s.later (k + 1)) := by
  induction k generalizing s with
  | zero =>
      rw [Nat.zero_add, ← drawId_snd]
      exact .free hfree
  | succ k ih =>
      have hrest := ih (s := s.drawId.2)
        (fun i hi => htaken (i + 1) (Nat.succ_lt_succ hi)) hfree
      rw [later_drawId] at hrest
      exact .again (htaken 0 (Nat.succ_pos k)) hrest

/-- Nothing but a candidate that is not in use is found. -/
theorem Finds.exists_candidate {count : Nat} {found : String × Supply}
    (h : Finds taken s count found) :
    ∃ k, count = k + 1 ∧ found = (s.candidate k, s.later (k + 1)) ∧ s.candidate k ∉ taken := by
  induction h with
  | @free s hfree => exact ⟨0, rfl, by rw [Nat.zero_add, ← drawId_snd]; rfl, hfree⟩
  | again htaken hrest ih =>
      obtain ⟨k, rfl, hfound, hfree⟩ := ih
      rw [later_drawId] at hfound
      exact ⟨k + 1, rfl, hfound, hfree⟩

/-- When some candidate is not in use, the search ends with the first of these. -/
theorem exists_finds_of_free {n : Nat} (h : s.candidate n ∉ taken) :
    ∃ k ≤ n, (∀ i < k, s.candidate i ∈ taken) ∧ s.candidate k ∉ taken ∧
      Finds taken s (k + 1) (s.candidate k, s.later (k + 1)) := by
  classical
  have hexists : ∃ k, s.candidate k ∉ taken := ⟨n, h⟩
  have htaken : ∀ i < Nat.find hexists, s.candidate i ∈ taken :=
    fun i hi => not_not.1 (Nat.find_min hexists hi)
  have hfree := Nat.find_spec hexists
  exact ⟨Nat.find hexists, Nat.find_min' hexists h, htaken, hfree, finds_of_first htaken hfree⟩

/-- The search ends when one of the ids that are tried is not in use. -/
theorem search_isSome_iff {tries : Nat} :
    (search taken tries s).isSome = true ↔ ∃ k < tries, s.candidate k ∉ taken := by
  constructor
  · intro h
    obtain ⟨found, hfound⟩ := Option.isSome_iff_exists.1 h
    obtain ⟨count, hcount, hfinds⟩ := search_eq_some_iff.1 hfound
    obtain ⟨k, rfl, -, hfree⟩ := hfinds.exists_candidate
    exact ⟨k, hcount, hfree⟩
  · rintro ⟨n, hn, hfree⟩
    obtain ⟨k, hk, -, -, hfinds⟩ := exists_finds_of_free hfree
    rw [hfinds.search_eq, if_pos (by omega)]
    rfl

/-- When fewer ids are in use than there are different ones to be tried, one of these is free. -/
theorem exists_free {tries : Nat}
    (h : taken.length < ((Finset.range tries).image s.candidate).card) :
    ∃ k < tries, s.candidate k ∉ taken := by
  have hcard := Nat.lt_of_le_of_lt taken.toFinset_card_le h
  obtain ⟨id, hid, hfree⟩ := Finset.exists_mem_notMem_of_card_lt_card hcard
  obtain ⟨k, hk, rfl⟩ := Finset.mem_image.1 hid
  exact ⟨k, Finset.mem_range.1 hk, by simpa using hfree⟩

/-! ### The limit on the tries -/

/-- The same supply with another limit on the tries of a search. -/
def withPatience (s : Supply) (patience : Nat) : Supply := { s with patience := patience }

/-- The search itself does not ask for the limit. -/
theorem Finds.withPatience {count : Nat} {found : String × Supply} (h : Finds taken s count found)
    (patience : Nat) :
    Finds taken (s.withPatience patience) count (found.1, found.2.withPatience patience) := by
  induction h with
  | free hfree => exact .free hfree
  | again htaken hrest ih => exact .again htaken ih

/-- A fresh id is found as soon as the limit allows for all that are drawn. -/
theorem Finds.freshId?_eq {count : Nat} {found : String × Supply} (h : Finds taken s count found)
    (patience : Nat) : (s.withPatience patience).freshId? taken =
      if count ≤ patience then some (found.1, found.2.withPatience patience) else none :=
  (h.withPatience patience).search_eq patience

/-! ### Consecutive ids -/

/-- The number of different ids. -/
def idCount : Nat := Nat.pow 31 idLength

/-- The id of a number: the last eight of its digits in base 31. -/
def spelling (number : Nat) : String :=
  String.ofList ((List.range idLength).map (digitLetter number))

/-- The number to which the letters of a text amount in base 31. -/
def reading (id : String) : Nat := id.toList.foldl (fun n c => n * 31 + alphabet.idxOf c) 0

/-- The ids spell consecutive numbers from a given one on. -/
def Counts (s : Supply) (start : Nat) : Prop := ∀ k, s.candidate k = spelling (start + k)

/-- The letters of ids are different. -/
theorem idxOf_letter : ∀ digit < 31, alphabet.idxOf (alphabet.getD digit '2') = digit := by
  decide

/-- The last digits of a number amount to what is left of it by division. -/
theorem foldl_digits (width number : Nat) :
    (List.range width).foldl
      (fun n place => n * 31 + number / Nat.pow 31 (width - 1 - place) % 31) 0 =
        number % Nat.pow 31 width := by
  induction width generalizing number with
  | zero => exact (Nat.mod_one number).symm
  | succ width ih =>
      have hpow : ∀ exponent, Nat.pow 31 (exponent + 1) = 31 * Nat.pow 31 exponent :=
        fun exponent => Nat.mul_comm _ _
      -- all digits but the last are those of the number without its last digit
      have hdigits : ∀ n, ∀ place ∈ List.range width,
          n * 31 + number / Nat.pow 31 (width + 1 - 1 - place) % 31 =
            n * 31 + number / 31 / Nat.pow 31 (width - 1 - place) % 31 := by
        intro n place hplace
        have hexponent : width + 1 - 1 - place = (width - 1 - place) + 1 := by
          have hplace := List.mem_range.1 hplace
          omega
        rw [hexponent, hpow, Nat.div_div_eq_div_mul]
      have hlast : number / Nat.pow 31 (width + 1 - 1 - width) = number := by
        rw [Nat.add_sub_cancel, Nat.sub_self]
        exact Nat.div_one number
      calc
        _ = (number / 31 % Nat.pow 31 width) * 31 + number % 31 := by
          rw [List.range_succ, List.foldl_append, List.foldl_ext _ _ 0 hdigits, ih,
            List.foldl_cons, List.foldl_nil, hlast]
        _ = number % Nat.pow 31 (width + 1) := by
          rw [hpow, Nat.mod_mul, Nat.mul_comm, Nat.add_comm]

theorem reading_spelling (number : Nat) : reading (spelling number) = number % idCount := by
  have hdigit : ∀ place, alphabet.idxOf (digitLetter number place) =
      number / Nat.pow 31 (idLength - 1 - place) % 31 :=
    fun place => idxOf_letter _ (Nat.mod_lt _ (by decide))
  simp only [reading, spelling, String.toList_ofList, List.foldl_map, hdigit]
  exact foldl_digits idLength number

example : spelling 852891037440 = "zzzzzzzz" ∧ spelling (idCount + 32) = "22222233" := by
  decide +kernel

namespace Counts

variable {start : Nat}

theorem later (h : s.Counts start) (count : Nat) : (s.later count).Counts (start + count) := by
  intro k
  rw [candidate_later, h, Nat.add_assoc]

/-- Fewer ids than there are do not repeat themselves. -/
theorem candidate_injOn (h : s.Counts start) {i j : Nat} (hi : i < idCount) (hj : j < idCount)
    (hsame : s.candidate i = s.candidate j) : i = j := by
  have hmod : (start + i) % idCount = (start + j) % idCount := by
    rw [← reading_spelling, ← reading_spelling, ← h, ← h, hsame]
  have hcancel : i % idCount = j % idCount := Nat.ModEq.add_left_cancel' start hmod
  rwa [Nat.mod_eq_of_lt hi, Nat.mod_eq_of_lt hj] at hcancel

theorem card_candidates (h : s.Counts start) {tries : Nat} (htries : tries ≤ idCount) :
    ((Finset.range tries).image s.candidate).card = tries := by
  rw [Finset.card_image_of_injOn, Finset.card_range]
  intro i hi j hj hsame
  have hi := Finset.mem_range.1 hi
  have hj := Finset.mem_range.1 hj
  exact h.candidate_injOn (by omega) (by omega) hsame

/-- The search finds the first candidate that is free, within one more candidates than there are ids
in use. -/
theorem exists_finds (h : s.Counts start) (hroom : taken.length < idCount) :
    ∃ k ≤ taken.length, (∀ i < k, s.candidate i ∈ taken) ∧ s.candidate k ∉ taken ∧
      Finds taken s (k + 1) (s.candidate k, s.later (k + 1)) := by
  have hcard : taken.length < ((Finset.range (taken.length + 1)).image s.candidate).card := by
    rw [h.card_candidates hroom]
    exact Nat.lt_succ_self taken.length
  obtain ⟨n, hn, hfree⟩ := exists_free hcard
  obtain ⟨k, hk, hfirst⟩ := exists_finds_of_free hfree
  exact ⟨k, Nat.le_trans hk (Nat.lt_succ_iff.1 hn), hfirst⟩

end Counts

/-- The supply that counts from a number on does so. -/
theorem counting_counts (start patience : Nat) : (counting start patience).Counts start := by
  intro k
  rw [candidate_eq, spelling]
  refine congrArg String.ofList (List.map_congr_left ?_)
  intro place hplace
  have hplace : place < 8 := List.mem_range.1 hplace
  have hnumber : start + (0 + k * 8 + place) / 8 = start + k := by omega
  have hdigit : (0 + k * 8 + place) % 8 = place := by omega
  simp only [counting, idLength, hnumber, hdigit]

end Admission.Supply
