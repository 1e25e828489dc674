import Admission.Table
import Mathlib.Data.List.Nodup

/-!
# Looking up what was put into a table

What is found under a key after a change is what the change put there, and what was there before
under every other key.  A table that is built by setting keys names each of its keys once.  Entries
with different keys that are laid over an empty table are that table again, so nothing is lost and
nothing moves.

Main definition: `Table.keys` — the keys, in order.

Main results:

* `Table.get?_set`, `Table.get?_modify` — looking up after a change;
* `Table.nodup_keys_set`, `Table.nodup_keys_overlay` — the keys stay different;
* `Table.mem_overlay`, `Table.get?_overlay` — what comes from which of two tables;
* `Table.overlay_nil` — **entries with different keys are a table as they stand**.
-/

set_option autoImplicit false

namespace Admission.Table

variable {α : Type}

def keys (t : Table α) : List String := t.map (·.1)

@[simp] theorem keys_nil : keys ([] : Table α) = [] := rfl

@[simp] theorem keys_cons (e : String × α) (t : Table α) : keys (e :: t) = e.1 :: keys t := rfl

@[simp] theorem keys_append (t u : Table α) : keys (t ++ u) = keys t ++ keys u :=
  List.map_append

/-! ### Looking up -/

@[simp] theorem get?_nil (key : String) : get? ([] : Table α) key = none := rfl

theorem get?_cons (e : String × α) (t : Table α) (key : String) :
    get? (e :: t) key = if e.1 = key then some e.2 else get? t key := by
  unfold get?
  by_cases h : e.1 = key
  · rw [List.find?_cons_of_pos (by simpa using h), if_pos h]
    rfl
  · rw [List.find?_cons_of_neg (by simpa using h), if_neg h]

theorem get?_eq_none_iff {t : Table α} {key : String} : get? t key = none ↔ key ∉ keys t := by
  induction t with
  | nil => simp
  | cons e t ih =>
      rw [get?_cons, keys_cons, List.mem_cons, not_or]
      by_cases h : e.1 = key
      · simp [h]
      · rw [if_neg h, ih]
        simp [Ne.symm h]

/-- What a table has under a key after a change of what is there. -/
theorem get?_modify (t : Table α) (key : String) (f : α → α) (other : String) :
    get? (modify t key f) other = if other = key then (get? t other).map f else get? t other := by
  induction t with
  | nil => simp [modify]
  | cons e t ih =>
      have hcons : modify (e :: t) key f =
          (if e.1 == key then (e.1, f e.2) else e) :: modify t key f := rfl
      rw [hcons, get?_cons, get?_cons, ih]
      by_cases hkey : e.1 = key
      · by_cases hother : e.1 = other
        · simp [hkey, ← hother]
        · simp [hkey, hkey ▸ hother]
      · by_cases hother : e.1 = other
        · simp [hother, hother ▸ hkey]
        · simp [hkey, hother]

theorem has_iff {t : Table α} {key : String} : has t key = true ↔ key ∈ keys t := by
  simp [has, keys]

theorem set_of_not_mem {t : Table α} {key : String} (h : key ∉ keys t) (value : α) :
    set t key value = t ++ [(key, value)] := by
  rw [set, if_neg]
  rwa [has_iff]

theorem get?_append (t u : Table α) (key : String) :
    get? (t ++ u) key = (get? t key).or (get? u key) := by
  induction t with
  | nil => simp
  | cons e t ih =>
      rw [List.cons_append, get?_cons, get?_cons, ih]
      by_cases h : e.1 = key <;> simp [h]

theorem set_of_mem {t : Table α} {key : String} (h : key ∈ keys t) (value : α) :
    set t key value = modify t key fun _ => value := by
  rw [set, if_pos (has_iff.2 h), modify]

/-- What a table has under a key after a key was set. -/
theorem get?_set (t : Table α) (key : String) (value : α) (other : String) :
    get? (set t key value) other = if other = key then some value else get? t other := by
  by_cases hmem : key ∈ keys t
  · rw [set_of_mem hmem, get?_modify]
    by_cases hother : other = key
    · subst hother
      obtain ⟨old, hold⟩ := Option.ne_none_iff_exists'.1 (mt get?_eq_none_iff.1 (not_not.2 hmem))
      simp [hold]
    · simp [hother]
  · rw [set_of_not_mem hmem, get?_append, get?_cons, get?_nil]
    by_cases hother : other = key
    · subst hother
      simp [get?_eq_none_iff.2 hmem]
    · simp [hother, Ne.symm hother]

/-- What a table has under a key after a key was removed. -/
theorem mem_keys_set_of_ne {t : Table α} {key other : String} (h : other ≠ key) (value : α) :
    other ∈ keys (set t key value) ↔ other ∈ keys t := by
  rw [← not_iff_not, ← get?_eq_none_iff, ← get?_eq_none_iff, get?_set, if_neg h]

theorem get?_erase (t : Table α) (key other : String) :
    get? (erase t key) other = if other = key then none else get? t other := by
  induction t with
  | nil => simp [erase]
  | cons e t ih =>
      have hcons : erase (e :: t) key = if e.1 = key then erase t key else e :: erase t key := by
        by_cases h : e.1 = key <;> simp [erase, h]
      rw [hcons, get?_cons]
      by_cases hkey : e.1 = key
      · rw [if_pos hkey, ih]
        by_cases hother : other = key
        · simp [hother]
        · simp [hother, hkey, Ne.symm hother]
      · rw [if_neg hkey, get?_cons, ih]
        by_cases hother : e.1 = other
        · simp [hother, hother ▸ hkey]
        · simp [hother]

/-- Setting a key leaves the last entry under any other key the last one. -/
theorem get?_reverse_set (t : Table α) (key : String) (value : α) {other : String}
    (h : other ≠ key) : get? (set t key value).reverse other = get? t.reverse other := by
  by_cases hmem : key ∈ keys t
  · have hreverse : (modify t key fun _ => value).reverse = modify t.reverse key fun _ => value :=
      List.map_reverse.symm
    rw [set_of_mem hmem, hreverse, get?_modify, if_neg h]
  · rw [set_of_not_mem hmem, List.reverse_append, get?_append, List.reverse_singleton, get?_cons,
      if_neg (Ne.symm h), get?_nil, Option.none_or]

theorem keys_modify (t : Table α) (key : String) (f : α → α) : keys (modify t key f) = keys t := by
  rw [keys, modify, List.map_map, keys]
  refine List.map_congr_left ?_
  intro e _
  by_cases h : e.1 = key
  · rw [Function.comp_apply, if_pos (by simpa using h)]
  · rw [Function.comp_apply, if_neg (by simpa using h)]

/-- Setting a key keeps the keys different. -/
theorem nodup_keys_set {t : Table α} (h : (keys t).Nodup) (key : String) (value : α) :
    (keys (set t key value)).Nodup := by
  by_cases hmem : key ∈ keys t
  · rwa [set_of_mem hmem, keys_modify]
  · rw [set_of_not_mem hmem, keys_append]
    refine List.nodup_append.2 ⟨h, by simp, ?_⟩
    rintro a ha b hb rfl
    have hkey : a = key := by simpa using hb
    exact hmem (hkey ▸ ha)

theorem mem_modify {t : Table α} {key : String} {f : α → α} {e : String × α}
    (h : e ∈ modify t key f) : e ∈ t ∨ ∃ old, (key, old) ∈ t ∧ e = (key, f old) := by
  obtain ⟨old, hold, rfl⟩ := List.mem_map.1 h
  by_cases hkey : old.1 = key
  · rw [if_pos (by simpa using hkey), hkey]
    exact .inr ⟨old.2, hkey ▸ hold, rfl⟩
  · rw [if_neg (by simpa using hkey)]
    exact .inl hold

/-- The entries of a table in which a key was set. -/
theorem mem_set {t : Table α} {key : String} {value : α} {e : String × α}
    (h : e ∈ set t key value) : e ∈ t ∨ e = (key, value) := by
  by_cases hmem : key ∈ keys t
  · rw [set_of_mem hmem] at h
    exact (mem_modify h).imp_right fun ⟨_, _, he⟩ => he
  · rw [set_of_not_mem hmem] at h
    simpa using h

/-- After a key was set, it is found with its value alone, and the other keys as before. -/
theorem mem_set_iff {t : Table α} {key : String} {value : α} {e : String × α} :
    e ∈ set t key value ↔ e = (key, value) ∨ (e.1 ≠ key ∧ e ∈ t) := by
  by_cases hmem : key ∈ keys t
  · obtain ⟨old, hold, hkey⟩ := List.mem_map.1 hmem
    rw [set_of_mem hmem, modify, List.mem_map]
    constructor
    · rintro ⟨a, ha, rfl⟩
      by_cases h : a.1 = key
      · simp [h]
      · simp [h, ha]
    · rintro (rfl | ⟨hne, he⟩)
      · exact ⟨old, hold, by simp [hkey]⟩
      · exact ⟨e, he, by simp [hne]⟩
  · rw [set_of_not_mem hmem, List.mem_append, List.mem_singleton, or_comm]
    refine or_congr_right ⟨fun he => ⟨?_, he⟩, And.right⟩
    rintro rfl
    exact hmem (List.mem_map_of_mem he)

/-! ### Laying tables over each other -/

/-- The entries of one of the tables are laid over the other one. -/
theorem mem_overlay {t updates : Table α} {e : String × α} (h : e ∈ overlay t updates) :
    e ∈ t ∨ e ∈ updates := by
  induction updates generalizing t with
  | nil => exact .inl h
  | cons u rest ih =>
      rcases ih h with hset | hrest
      · exact (mem_set hset).imp_right fun he => List.mem_cons.2 (.inl he)
      · exact .inr (List.mem_cons_of_mem u hrest)

/-- What is found in tables laid over each other: the last of the new entries under the key, or
what was there before. -/
theorem get?_overlay (t updates : Table α) (key : String) :
    get? (overlay t updates) key = (get? updates.reverse key).or (get? t key) := by
  induction updates generalizing t with
  | nil => rfl
  | cons u rest ih =>
      have hset : (get? [u] key).or (get? t key) = get? (set t u.1 u.2) key := by
        rw [get?_cons, get?_nil, get?_set]
        by_cases h : u.1 = key
        · simp [h]
        · simp [h, Ne.symm h]
      calc get? (overlay t (u :: rest)) key
          = (get? rest.reverse key).or (get? (set t u.1 u.2) key) := ih (set t u.1 u.2)
        _ = (get? (u :: rest).reverse key).or (get? t key) := by
            rw [← hset, List.reverse_cons, get?_append, Option.or_assoc]

/-- What is found under a key that no other entries are laid over. -/
theorem get?_overlay_of_not_mem {updates : Table α} {key : String} (h : key ∉ keys updates)
    (t : Table α) : get? (overlay t updates) key = get? t key := by
  have hnone : get? updates.reverse key = none := get?_eq_none_iff.2 (by simpa [keys] using h)
  rw [get?_overlay, hnone, Option.none_or]

theorem nodup_keys_overlay {t : Table α} (h : (keys t).Nodup) (updates : Table α) :
    (keys (overlay t updates)).Nodup := by
  induction updates generalizing t with
  | nil => exact h
  | cons u rest ih => exact ih (nodup_keys_set h u.1 u.2)

/-- Keys that a table does not have go to its end. -/
theorem overlay_eq_append (t updates : Table α) (h : (keys t ++ keys updates).Nodup) :
    overlay t updates = t ++ updates := by
  induction updates generalizing t with
  | nil => simp [overlay]
  | cons e rest ih =>
      have hnew : e.1 ∉ keys t := by
        intro hmem
        exact (List.nodup_append.1 h).2.2 e.1 hmem e.1 List.mem_cons_self rfl
      have hrest : (keys (t ++ [e]) ++ keys rest).Nodup := by simpa using h
      calc overlay t (e :: rest)
          = overlay (set t e.1 e.2) rest := rfl
        _ = overlay (t ++ [e]) rest := by rw [set_of_not_mem hnew]
        _ = t ++ [e] ++ rest := ih (t ++ [e]) hrest
        _ = t ++ e :: rest := by simp

/-- Entries with different keys are a table as they stand. -/
theorem overlay_nil {entries : Table α} (h : (keys entries).Nodup) :
    overlay [] entries = entries :=
  overlay_eq_append [] entries h

end Admission.Table
