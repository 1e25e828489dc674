import Admission.Proofs.Host.Walk
import Mathlib.Data.List.Nodup
import Mathlib.Data.List.TakeWhile

/-!
# The plugins that rules can name

Rules name plugins by their keys.  The keys on offer are those that are registered somewhere below
the root, where nothing on the way there has opted out, nor the registered fork itself.  A key
without a name before its first colon is left out, and so are groups, but not what is in them.  It
does not matter how often a key is registered, and in which order: every key is offered once, and
the keys are in order.

Main definitions:

* `PluginName.Splits` — the two parts of a key;
* `Host.Offers` — what it takes for a key to be on offer.

Main results:

* `PluginName.splits_iff` — a key has two parts, and no others;
* `Host.mem_registrationsWithout_iff` — what a walk lists;
* `Host.pluginOptions_offers` — **which plugins rules can name**.
-/

set_option autoImplicit false

namespace Admission

theorem nodup_eraseDups {α : Type} [BEq α] [LawfulBEq α] :
    ∀ elements : List α, elements.eraseDups.Nodup
  | [] => by simp
  | a :: rest => by
      rw [List.eraseDups_cons, List.nodup_cons, List.mem_eraseDups]
      exact ⟨by simp, nodup_eraseDups (rest.filter fun b => !b == a)⟩
termination_by elements => elements.length
decreasing_by exact Nat.lt_succ_of_le (List.length_filter_le _ rest)

/-! ### The parts of a key -/

/-- The parts of a key before and after its first colon.  Without a colon there is nothing after
it. -/
inductive PluginName.Splits (key name ident : String) : Prop where
  | whole (hname : name = key) (hident : ident = "") (hcolon : ':' ∉ name.toList)
  | parts (hkey : key.toList = name.toList ++ ':' :: ident.toList) (hcolon : ':' ∉ name.toList)

namespace PluginName

theorem ofKey_splits (key : String) : Splits key (ofKey key).name (ofKey key).ident := by
  have hcolon : ':' ∉ (ofKey key).name.toList := by
    intro hmem
    rw [ofKey, String.toList_ofList] at hmem
    simpa using List.mem_takeWhile_imp hmem
  have hwhole := List.takeWhile_append_dropWhile (p := (· != ':')) (l := key.toList)
  cases hrest : key.toList.dropWhile (· != ':') with
  | nil =>
      rw [hrest, List.append_nil] at hwhole
      refine .whole ?_ ?_ hcolon
      · rw [ofKey, hwhole, String.ofList_toList]
      · rw [ofKey, hrest]
        rfl
  | cons c rest =>
      have hc : c = ':' := by
        have hhead := List.head?_dropWhile_not (· != ':') key.toList
        rw [hrest] at hhead
        simpa using hhead
      refine .parts ?_ hcolon
      rw [hrest, hc] at hwhole
      rw [ofKey, hrest, String.toList_ofList, String.toList_ofList, List.drop_one, List.tail_cons,
        hwhole]

/-- A key has two parts, and no others. -/
theorem splits_iff {key name ident : String} :
    Splits key name ident ↔ ofKey key = ⟨name, ident⟩ := by
  constructor
  · intro h
    have hplain : ':' ∉ name.toList := by cases h <;> assumption
    have htake : ∀ c ∈ name.toList, (c != ':') = true := by
      intro c hc
      rw [bne_iff_ne]
      rintro rfl
      exact hplain hc
    cases h with
    | whole hname hident hcolon =>
        subst hname hident
        rw [ofKey, List.takeWhile_eq_self_iff.2 htake, List.dropWhile_eq_nil_iff.2 htake,
          String.ofList_toList]
        rfl
    | parts hkey hcolon =>
        rw [ofKey, hkey, List.takeWhile_append_of_pos htake, List.dropWhile_append_of_pos htake]
        simp
  · intro h
    have hsplits := ofKey_splits key
    rwa [h] at hsplits

/-- A key that rules can name has a name before its first colon, and that of a plugin. -/
def Nameable (key : String) : Prop :=
  ∃ name ident, Splits key name ident ∧ name ≠ "" ∧ name ≠ PluginOption.groupName

end PluginName

namespace PluginOption

open PluginName

variable {key : String} {o : PluginOption}

/-- The option for a key has the key and its parts. -/
theorem spec_of_ofKey? (h : ofKey? key = some o) :
    o.key = key ∧ Splits key o.name o.ident ∧ Nameable key := by
  unfold ofKey? at h
  dsimp only at h
  split at h
  · cases h
  · next hname =>
      cases h
      obtain ⟨hempty, hgroup⟩ := not_or.1 hname
      exact ⟨rfl, ofKey_splits key, _, _, ofKey_splits key, hempty, hgroup⟩

theorem exists_ofKey?_iff : (∃ o, ofKey? key = some o) ↔ Nameable key := by
  constructor
  · rintro ⟨o, ho⟩
    exact (spec_of_ofKey? ho).2.2
  · rintro ⟨name, ident, hsplits, hempty, hgroup⟩
    unfold ofKey?
    rw [splits_iff.1 hsplits]
    exact ⟨_, if_neg (not_or.2 ⟨hempty, hgroup⟩)⟩

end PluginOption

namespace Host

section Walks

variable {h : Host} {prune : Option String → Bool} {r : Registration}

/-- A walk lists what is not pruned of the records that the root reaches. -/
theorem mem_registrationsWithout_iff :
    r ∈ h.registrationsWithout prune ↔
      ∃ records, h.Reaches prune h.root records ∧ r ∈ h.kept prune records := by
  obtain ⟨names, hcovers, hwalk⟩ := h.exists_covers prune [] [h.root]
  rw [registrationsWithout, hwalk, List.mem_flatMap]
  simp only [hcovers.mem_iff]

/-- A walk that prunes less keeps more. -/
theorem kept_mono {wider : Option String → Bool}
    (hwider : ∀ fork, wider fork = true → prune fork = true) {records : String}
    (hr : r ∈ h.kept prune records) : r ∈ h.kept wider records := by
  rw [kept, List.mem_filter] at hr ⊢
  refine ⟨hr.1, ?_⟩
  cases hfork : wider r.fork with
  | false => rfl
  | true => simp [hwider _ hfork] at hr

/-- A walk that prunes less reaches more. -/
theorem Reaches.mono {wider : Option String → Bool}
    (hwider : ∀ fork, wider fork = true → prune fork = true) {context : Option String}
    {records : String} (hway : h.Reaches prune context records) :
    h.Reaches wider context records := by
  induction hway with
  | here hname => exact .here hname
  | onward _ hr hnext ih => exact .onward ih (kept_mono hwider hr) hnext

theorem mem_registrations_of_mem (hr : r ∈ h.registrationsWithout prune) :
    r ∈ h.registrations := by
  have hnone : ∀ fork, (fun _ => false) fork = true → prune fork = true :=
    fun _ hfalse => absurd hfalse Bool.false_ne_true
  obtain ⟨records, hway, hkept⟩ := mem_registrationsWithout_iff.1 hr
  exact mem_registrationsWithout_iff.2 ⟨records, hway.mono hnone, kept_mono hnone hkept⟩

/-- Every key that is registered has a fork, and no other key. -/
theorem mem_keys_pluginForks_iff {key : String} :
    key ∈ Table.keys h.pluginForks ↔ ∃ r ∈ h.registrations, r.plugin = key := by
  have hforks : h.pluginForks =
      Table.overlay [] (h.registrations.map fun r => (r.plugin, r.fork)) := by
    rw [pluginForks, Table.overlay, List.foldl_map]
  rw [hforks, ← not_iff_not, ← Table.get?_eq_none_iff, Table.get?_overlay, Table.get?_nil,
    Option.or_none, Table.get?_eq_none_iff]
  simp [Table.keys]

end Walks

/-! ### What is on offer -/

variable (h : Host)

/-- The key is registered where no fork on the way has opted out, for a fork that has not, and
rules can name it. -/
def Offers (key : String) : Prop :=
  PluginName.Nameable key ∧
    ∃ records r, h.Reaches h.optedOut h.root records ∧ r ∈ h.kept h.optedOut records ∧
      r.plugin = key

variable {h} {o : PluginOption}

theorem mem_pluginOptions_iff :
    o ∈ h.pluginOptions ↔ PluginOption.ofKey? o.key = some o ∧
      ∃ r ∈ h.registrationsWithout h.optedOut, r.plugin = o.key := by
  rw [pluginOptions, List.mem_mergeSort, List.mem_filterMap]
  simp only [List.mem_eraseDups, List.mem_map]
  constructor
  · rintro ⟨key, ⟨r, hr, rfl⟩, ho⟩
    have hkey := (PluginOption.spec_of_ofKey? ho).1
    exact ⟨hkey ▸ ho, r, hr, hkey.symm⟩
  · rintro ⟨ho, r, hr, hkey⟩
    exact ⟨o.key, ⟨r, hr, hkey⟩, ho⟩

/-- A key has one option. -/
theorem pluginOptions_unique {other : PluginOption} (ho : o ∈ h.pluginOptions)
    (hother : other ∈ h.pluginOptions) (hkey : other.key = o.key) : other = o := by
  have hoption := (mem_pluginOptions_iff.1 hother).1
  rw [hkey, (mem_pluginOptions_iff.1 ho).1] at hoption
  exact (Option.some.inj hoption).symm

/-- The options are in the order of their keys, no two of which are the same. -/
theorem pairwise_pluginOptions (h : Host) :
    h.pluginOptions.Pairwise fun a b => a.key < b.key := by
  have hnodup : h.pluginOptions.Nodup := by
    rw [pluginOptions, (List.mergeSort_perm _ _).nodup_iff]
    refine (nodup_eraseDups _).filterMap fun key other o hkey hother => ?_
    exact (PluginOption.spec_of_ofKey? hkey).1.symm.trans (PluginOption.spec_of_ofKey? hother).1
  have hsorted : h.pluginOptions.Pairwise fun a b => a.key ≤ b.key := by
    rw [pluginOptions]
    refine (List.pairwise_mergeSort ?_ ?_ _).imp of_decide_eq_true
    · intro a b c hab hbc
      rw [decide_eq_true_eq] at hab hbc ⊢
      exact String.le_trans hab hbc
    · intro a b
      simpa using String.le_total a.key b.key
  refine (hsorted.and hnodup).imp_of_mem fun {a b} ha hb hab => ?_
  exact Std.lt_of_le_of_ne hab.1 fun hkey => hab.2 (pluginOptions_unique hb ha hkey)

/-- **Which plugins rules can name.**  The keys are in ascending order, each of them once.  A key is
among them exactly when it can be named and is registered where nothing has opted out.  Every one of
them has a fork, and an option has the parts of its key. -/
theorem pluginOptions_offers (h : Host) :
    h.pluginOptions.Pairwise (fun a b => a.key < b.key) ∧
      (∀ key, key ∈ h.pluginOptions.map (·.key) ↔ h.Offers key) ∧
      ∀ o ∈ h.pluginOptions, o.key ∈ Table.keys h.pluginForks ∧
        PluginName.Splits o.key o.name o.ident := by
  refine ⟨pairwise_pluginOptions h, ?_, ?_⟩
  · intro key
    rw [List.mem_map]
    constructor
    · rintro ⟨o, ho, rfl⟩
      obtain ⟨hoption, r, hr, hkey⟩ := mem_pluginOptions_iff.1 ho
      obtain ⟨records, hway, hkept⟩ := mem_registrationsWithout_iff.1 hr
      exact ⟨(PluginOption.spec_of_ofKey? hoption).2.2, records, r, hway, hkept, hkey⟩
    · rintro ⟨hnameable, records, r, hway, hkept, rfl⟩
      obtain ⟨o, ho⟩ := PluginOption.exists_ofKey?_iff.2 hnameable
      have hkey := (PluginOption.spec_of_ofKey? ho).1
      refine ⟨o, mem_pluginOptions_iff.2 ⟨hkey ▸ ho, r, ?_, hkey.symm⟩, hkey⟩
      exact mem_registrationsWithout_iff.2 ⟨records, hway, hkept⟩
  · intro o ho
    obtain ⟨hoption, r, hr, hkey⟩ := mem_pluginOptions_iff.1 ho
    exact ⟨mem_keys_pluginForks_iff.2 ⟨r, mem_registrations_of_mem hr, hkey⟩,
      (PluginOption.spec_of_ofKey? hoption).2.1⟩

end Host

end Admission
