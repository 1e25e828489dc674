import Admission.Proofs.Rule.Canonical

/-!
# What the keys of a target are

A target of plugins or commands goes by keys.  They come from a value of any shape: from a text, or
from the texts among the items of a list or a tuple.  Blanks around a text do not count, a text of
blanks alone is no key, and a key that is repeated stays at its first place.  An event belongs to
the target when the attribute that the kind of target looks at is one of these texts without the
blanks around it.

Main definitions:

* `Value.texts` — the texts that a value consists of;
* `Target.mentioned` — the keys among them, with repetitions;
* `Target.KeepsFirst` — keys without repetitions, in the order in which they first occur;
* `TargetKind.keyField?` — the attribute that a kind of target looks at.

Main results:

* `Target.KeepsFirst.addKey`, `Target.keepsFirst_foldl` — what adding one key keeps, and adding all;
* `Target.covers_iff_mentioned` — **which keys a target has, and which events belong to it**.
-/

set_option autoImplicit false

namespace Admission

/-- The texts that a value consists of: itself, or those among the items of a list or a tuple. -/
def Value.texts (v : Value) : List String :=
  match v with
  | .str s => [s]
  | _ => (v.items?.getD []).filterMap Value.str?

/-- The attribute of an event that a kind of target looks at. -/
def TargetKind.keyField? : TargetKind → Option String
  | .everything => none
  | .plugins => some "pluginKey"
  | .commands => some "commandName"

namespace Target

/-- The keys that a value mentions, as often as it does. -/
def mentioned (v : Value) : List String := (v.texts.map Text.trim).filter (· ≠ "")

/-! ### Each key at its first place -/

/-- The keys are those of a list, each of them once, in the order in which they first occur. -/
structure KeepsFirst (keys given : List String) : Prop where
  nodup : keys.Nodup
  mem_iff : ∀ key, key ∈ keys ↔ key ∈ given
  ordered : keys.Pairwise fun a b => given.idxOf a < given.idxOf b

theorem keepsFirst_nil : KeepsFirst [] [] := ⟨List.nodup_nil, fun _ => Iff.rfl, .nil⟩

/-- One more key is added when it occurs for the first time. -/
theorem KeepsFirst.addKey {keys given : List String} (h : KeepsFirst keys given) (key : String) :
    KeepsFirst (Target.addKey keys key) (given ++ [key]) where
  nodup := nodup_addKey h.nodup key
  mem_iff k := by rw [mem_addKey, h.mem_iff, List.mem_append, List.mem_singleton]
  ordered := by
    -- a key that occurred before has its first place where it had it
    have hplace : ∀ k ∈ keys, (given ++ [key]).idxOf k = given.idxOf k :=
      fun k hk => List.idxOf_append_of_mem ((h.mem_iff k).1 hk)
    have hkept : keys.Pairwise fun a b => (given ++ [key]).idxOf a < (given ++ [key]).idxOf b := by
      refine h.ordered.imp_of_mem fun ha hb hlt => ?_
      rwa [hplace _ ha, hplace _ hb]
    rw [Target.addKey]
    split
    · exact hkept
    · next hnew =>
        have hnew : key ∉ given := by simpa [h.mem_iff] using hnew
        refine List.pairwise_append.2 ⟨hkept, List.pairwise_singleton _ key, ?_⟩
        intro k hk last hlast
        rw [List.mem_singleton.1 hlast, hplace k hk, List.idxOf_append_of_notMem hnew]
        exact Nat.lt_add_right _ (List.idxOf_lt_length_of_mem ((h.mem_iff k).1 hk))

theorem keepsFirst_foldl (given : List String) :
    KeepsFirst (given.foldl Target.addKey []) given := by
  induction given using List.reverseRecOn with
  | nil => exact keepsFirst_nil
  | append_singleton given key ih =>
      rw [List.foldl_concat]
      exact ih.addKey key

/-! ### Keys of a value -/

theorem filterMap_cleanKey? (items : List Value) :
    items.filterMap cleanKey? =
      ((items.filterMap Value.str?).map Text.trim).filter (· ≠ "") := by
  induction items with
  | nil => rfl
  | cons v rest ih =>
      cases v with
      | str s =>
          by_cases hempty : Text.trim s = "" <;> simpa [cleanKey?, hempty, Value.str?] using ih
      | _ => exact ih

theorem keysOf_eq (v : Value) : keysOf v = (mentioned v).foldl Target.addKey [] := by
  have hitems : ∀ items : List Value, cleanKeys items =
      (((items.filterMap Value.str?).map Text.trim).filter (· ≠ "")).foldl Target.addKey [] := by
    intro items
    rw [cleanKeys, filterMap_cleanKey?]
  cases v with
  | str s => exact hitems [.str s]
  | list origin items => exact hitems items
  | tuple origin items => exact hitems items
  | _ => rfl

theorem mem_mentioned_iff {v : Value} {key : String} :
    key ∈ mentioned v ↔ key ≠ "" ∧ ∃ text ∈ v.texts, Text.trim text = key := by
  simp only [mentioned, List.mem_filter, List.mem_map, decide_eq_true_eq, and_comm]

theorem holds_iff {keys : List String} {v : Value} :
    holds keys v = true ↔ ∃ key, v = .str key ∧ key ≠ "" ∧ key ∈ keys := by
  cases v <;> simp [holds]

/-! ### Targets that go by keys -/

section Keyed

variable {kind : TargetKind} {field : String}

/-- A mapping whose type is the name of a kind describes a target of this kind. -/
theorem ofValue_keyed (hkind : kind.keyField? = some field) (origin : Option Nat)
    {entries : Fields} (others : List (Nat × Value × Value))
    (htype : entries.getD "type" = .str kind.name) :
    (ofValue (.mapping origin entries others)).kind = kind ∧
      (ofValue (.mapping origin entries others)).keys = keysOf (entries.getD "value") ∧
      ∀ vars : Fields, (ofValue (.mapping origin entries others)).covers vars =
        holds (keysOf (entries.getD "value")) (vars.getD field) := by
  cases kind with
  | everything => cases hkind
  | plugins =>
      cases hkind
      have htarget : ofValue (.mapping origin entries others) =
          .plugins (keysOf (entries.getD "value")) := by
        rw [ofValue, ofFields, htype]
        rfl
      rw [htarget]
      exact ⟨rfl, rfl, fun _ => rfl⟩
  | commands =>
      cases hkind
      have htarget : ofValue (.mapping origin entries others) =
          .commands (keysOf (entries.getD "value")) := by
        rw [ofValue, ofFields, htype]
        rfl
      rw [htarget]
      exact ⟨rfl, rfl, fun _ => rfl⟩

/-- **Which keys a target has, and which events belong to it.**

A mapping that names a kind of target that goes by keys describes one of this kind, whatever is
under its value.  The keys are the trimmed texts of that value which are not empty, each at its
first place.  An event belongs to the target exactly when its attribute is a text that is not empty
and that one of these texts is when it is trimmed. -/
theorem covers_iff_mentioned (hkind : kind.keyField? = some field) (origin : Option Nat)
    (entries : Fields) (others : List (Nat × Value × Value))
    (htype : entries.getD "type" = .str kind.name) :
    (ofValue (.mapping origin entries others)).kind = kind ∧
      KeepsFirst (ofValue (.mapping origin entries others)).keys
        (mentioned (entries.getD "value")) ∧
      ∀ vars : Fields, (ofValue (.mapping origin entries others)).covers vars = true ↔
        ∃ key, vars.getD field = .str key ∧ key ≠ "" ∧
          ∃ text ∈ (entries.getD "value").texts, Text.trim text = key := by
  obtain ⟨hsame, hkeys, hcovers⟩ := ofValue_keyed hkind origin others htype
  have hfirst := keepsFirst_foldl (mentioned (entries.getD "value"))
  rw [← keysOf_eq] at hfirst
  refine ⟨hsame, hkeys ▸ hfirst, fun vars => ?_⟩
  simp only [hcovers, holds_iff, hfirst.mem_iff, mem_mentioned_iff]
  constructor
  · rintro ⟨key, hkey, hne, -, htext⟩
    exact ⟨key, hkey, hne, htext⟩
  · rintro ⟨key, hkey, hne, htext⟩
    exact ⟨key, hkey, hne, hne, htext⟩

end Keyed

/-- A target of plugins with blanks, a repetition and items that are no texts. -/
def padded : Fields :=
  [("value", .ofList [.str " say\t", .null, .str " \n", .str "echo", .int 5, .str "say ", .str ""]),
   ("type", .str "plugin")]

theorem covers_iff_mentioned_padded :
    TargetKind.plugins.keyField? = some "pluginKey" ∧
      padded.getD "type" = .str TargetKind.plugins.name ∧
      KeepsFirst (ofValue (.ofFields padded)).keys ["say", "echo", "say"] ∧
      (ofValue (.ofFields padded)).covers [("pluginKey", .str "say")] = true ∧
      (ofValue (.ofFields padded)).covers [("pluginKey", .str " say\t")] = false := by
  have hkind : TargetKind.plugins.keyField? = some "pluginKey" := rfl
  obtain ⟨-, hkeys, hcovers⟩ := covers_iff_mentioned hkind none padded [] rfl
  have hmentioned : mentioned (padded.getD "value") = ["say", "echo", "say"] := by decide +kernel
  rw [hmentioned] at hkeys
  refine ⟨hkind, rfl, hkeys, ?_, ?_⟩
  · exact (hcovers _).2 ⟨"say", rfl, by decide, " say\t", by decide +kernel, by decide +kernel⟩
  · rw [Bool.eq_false_iff, ne_eq, hcovers]
    rintro ⟨key, hkey, -, htext⟩
    cases hkey
    revert htext
    decide +kernel

end Target

end Admission
